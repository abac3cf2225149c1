/-
Writing the planned files, one after the other. `Wrote` lists what can become
of a single one: it is as it should be and nothing happens, it is written, or
it cannot be written, and then at most directories on its way are new. A
whole run either writes every stale file or stops at the first that cannot
be written, with all stale files before it written; that is an induction over
the files with `Wrote` as its step.

Making a directory replaces nothing, so a file that was written is only lost
to a later one with the same destination.
-/
import OpenApiTypes.Proofs.Project.Planning

namespace OpenApiTypes

namespace Generate

open Files

-- ========================================================== one file

/-- What can become of a file that is to be written. -/
inductive Wrote (files : Files) (change : FileChange) : Except Failure Unit → Files → Prop
  | kept (fresh : change.isStale = false) : Wrote files change (.ok ()) files
  | done {after : Files} (stale : change.isStale = true)
      (grown : Grown (files.way change.path) [files.destination change.path] files after)
      (holds : after.readText change.path = .ok change.wanted) :
      Wrote files change (.ok ()) after
  | notCreated {after : Files} {parent : String} {cause : FileError}
      (stale : change.isStale = true)
      (above : Path.parent? change.path = some parent)
      (grown : Grown (files.way change.path) [] files after) :
      Wrote files change (.error (.notCreated parent cause)) after
  | notWritten {after : Files} {cause : FileError} (stale : change.isStale = true)
      (grown : Grown (files.way change.path) [] files after) :
      Wrote files change (.error (.notWritten change.path cause)) after

/-- A file that cannot be written is stale, and at most directories on its
way are new. -/
theorem Wrote.of_error {files after : Files} {change : FileChange} {failure : Failure}
    (stopped : Wrote files change (.error failure) after) :
    change.isStale = true ∧ Grown (files.way change.path) [] files after := by
  cases stopped with
  | notCreated stale above grown => exact ⟨stale, grown⟩
  | notWritten stale grown => exact ⟨stale, grown⟩

variable {m : Type → Type} [Monad m]

/-- Puts a text in its file, where the directory is there. -/
def writeText (host : Host m) (change : FileChange) : Work m Unit := do
  Work.ask (host.writeText change.path change.wanted) (.notWritten change.path)
  Work.tell [.wrote change.path change.wanted.utf8ByteSize]

theorem write_of_fresh (host : Host m) {change : FileChange} (fresh : change.isStale = false) :
    write host change = Work.tell [.unchanged change.path] := by
  simp [write, fresh]

theorem write_of_stale (host : Host m) {change : FileChange} (stale : change.isStale = true) :
    write host change =
      match Path.parent? change.path with
      | some parent => do
          Work.ask (host.createDirectories parent) (.notCreated parent)
          writeText host change
      | none => writeText host change := by
  cases above : Path.parent? change.path <;> simp [write, stale, above, writeText]

/-- Writing a text, with the directories on its way made before. -/
theorem wrote_of_writeText {files between : Files} {change : FileChange}
    (stale : change.isStale = true)
    (grown : Grown (files.way change.path) [] files between) (told : List Event) :
    Wrote files change ((writeText Files.host change).on told between).1.1
      ((writeText Files.host change).on told between).2 := by
  cases written : between.writeText change.path change.wanted with
  | error cause =>
    have asked : Files.host.writeText change.path change.wanted between
        = (.error cause, between) := by
      simp only [Files.host, written]
    simp only [writeText, Work.on_bind, Work.on_ask, asked]
    exact .notWritten stale grown
  | ok after =>
    have asked : Files.host.writeText change.path change.wanted between = (.ok (), after) := by
      simp only [Files.host, written]
    obtain ⟨put, holds⟩ := Grown.writeText written
    rw [grown.destination] at put
    simp only [writeText, Work.on_bind, Work.on_ask, asked]
    have whole : Grown (files.way change.path) [files.destination change.path] files after := by
      simpa using grown.append put
    exact .done stale whole holds

/-- Writing a file does one of the things that can become of it. -/
theorem wrote_of_write (files : Files) (change : FileChange) (told : List Event) :
    Wrote files change ((write Files.host change).on told files).1.1
      ((write Files.host change).on told files).2 := by
  cases stale : change.isStale with
  | false =>
    rw [write_of_fresh _ stale]
    exact .kept stale
  | true =>
    rw [write_of_stale _ stale]
    cases above : Path.parent? change.path with
    | none => exact wrote_of_writeText stale (.refl files) told
    | some parent =>
      have asked : Files.host.createDirectories parent files
          = ((files.createDirectories parent).2, (files.createDirectories parent).1) := rfl
      have grown : Grown (files.way change.path) [] files (files.createDirectories parent).1 :=
        (Grown.createDirectories files parent).mono (way_parent files above) (List.Subset.refl _)
      simp only [Work.on_bind, Work.on_ask, asked]
      cases (files.createDirectories parent).2 with
      | error cause => exact .notCreated stale above grown
      | ok _ => exact wrote_of_writeText stale grown told

-- ========================================================= all files

/-- The files that are not as they should be. -/
def stale (changes : List FileChange) : List FileChange := changes.filter (·.isStale)

/-- The places on the ways to some files. -/
def ways (files : Files) (changes : List FileChange) : List Place :=
  changes.flatMap fun change => files.way change.path

/-- The places of some files. -/
def destinations (files : Files) (changes : List FileChange) : List Place :=
  changes.map fun change => files.destination change.path

theorem stale_cons (change : FileChange) (rest : List FileChange) :
    stale (change :: rest) = if change.isStale then change :: stale rest else stale rest := by
  unfold stale
  split <;> simp_all

section Grown

variable {made written : List Place} {before after : Files}
  (grown : Grown made written before after)
  (changes : List FileChange)
include grown

theorem ways_of_grown : ways after changes = ways before changes := by
  simp only [ways, grown.way]

theorem destinations_of_grown : destinations after changes = destinations before changes := by
  simp only [destinations, grown.destination]

end Grown

theorem writeAll_cons (host : Host m) (change : FileChange) (rest : List FileChange) :
    writeAll host (change :: rest) = write host change >>= fun _ => writeAll host rest := rfl

/-- A run that writes all files touches the places of the stale ones and
their ways, and each of them holds its text at the end if no other one has
its place. -/
theorem writeAll_ok {before after : Files} {changes : List FileChange} {told told' : List Event}
    (ran : (writeAll Files.host changes).on told before = ((.ok (), told'), after)) :
    Grown (ways before (stale changes)) (destinations before (stale changes)) before after
      ∧ ((destinations before (stale changes)).Nodup →
          ∀ change ∈ stale changes, after.readText change.path = .ok change.wanted) := by
  induction changes generalizing before told with
  | nil =>
    cases ran
    exact ⟨.refl _, fun _ change mem => nomatch mem⟩
  | cons change rest ih =>
    rw [writeAll_cons, Work.on_bind] at ran
    have wrote := wrote_of_write before change told
    match first : (write Files.host change).on told before with
    | ((.error failure, told₁), between) =>
      rw [first] at ran
      cases ran
    | ((.ok (), told₁), between) =>
      rw [first] at ran wrote
      obtain ⟨later, holding⟩ := ih ran
      cases wrote with
      | kept fresh =>
        simp only [stale_cons, fresh, Bool.false_eq_true, if_false]
        exact ⟨later, holding⟩
      | done isStale grown holds =>
        rw [ways_of_grown grown, destinations_of_grown grown] at later
        rw [destinations_of_grown grown] at holding
        simp only [stale_cons, isStale, if_true, ways, destinations, List.flatMap_cons,
          List.map_cons, List.nodup_cons, List.forall_mem_cons]
        refine ⟨grown.append later, fun ⟨single, others⟩ => ⟨?_, holding others⟩⟩
        refine later.readText holds ?_
        rw [grown.destination]
        exact single

/-- A run that stops has done with the files before the one that it stops
at. -/
theorem writeAll_error {before after : Files} {changes : List FileChange}
    {told told' : List Event} {failure : Failure}
    (ran : (writeAll Files.host changes).on told before = ((.error failure, told'), after)) :
    ∃ done change rest told₁ between, changes = done ++ change :: rest
      ∧ (writeAll Files.host done).on told before = ((.ok (), told₁), between)
      ∧ Wrote between change (.error failure) after := by
  induction changes generalizing before told with
  | nil => cases ran
  | cons change rest ih =>
    rw [writeAll_cons, Work.on_bind] at ran
    have wrote := wrote_of_write before change told
    match first : (write Files.host change).on told before with
    | ((.error cause, told₁), between) =>
      rw [first] at ran wrote
      cases ran
      exact ⟨[], change, rest, told, before, rfl, rfl, wrote⟩
    | ((.ok (), told₁), between) =>
      rw [first] at ran
      obtain ⟨done, last, others, told₂, reached, rfl, ran, stopped⟩ := ih ran
      refine ⟨change :: done, last, others, told₂, reached, rfl, ?_, stopped⟩
      rw [writeAll_cons, Work.on_bind, first]
      exact ran

end Generate

end OpenApiTypes
