/-
A whole run in terms of its plan. A run that cannot plan says why and ends
with code 1; one that only checks tells from the plan alone what it prints;
one that writes does what `writeAll` does with it. None of that depends on
the host as long as it answers like a tree of files.

`Watched` is a tree of files with a note of every path that an action was
tried on. `attempts` reads that note after a run, and `attempts_eq_nil` says
that it is empty exactly if no planned file is stale.
-/
import Mathlib.Data.List.Nodup
import OpenApiTypes.Proofs.Project.Writing

namespace OpenApiTypes

variable {α σ : Type}

/-- The outcome of a run that writes. -/
def Outcome.ofWriting (result : Except Failure Unit) (events : List Event) : Outcome :=
  match result with
  | .ok _ => { printed := "generated\n", events }
  | .error failure => { code := 1, complaint := failure.message ++ "\n", events }

theorem FileChange.isStale_eq_false {change : FileChange} :
    change.isStale = false ↔ change.existing = some change.wanted := by
  simp [FileChange.isStale]

namespace Generate

-- ======================================================== whole runs

section Host

variable {host : Host (StateM σ)} {request : Request} {events : List Event} {s s' : σ}

theorem run_of_ok {code : Nat} {printed : String}
    (worked : (work host request).on [] s = ((.ok (code, printed), events), s')) :
    run host request s = ({ code, printed, events }, s') := by
  have reached : (work host request).outcome s = ((events, .ok (code, printed)), s') := by
    rw [Work.outcome_eq, worked]
  simp only [run, Bind.bind, StateT.bind, reached]
  rfl

theorem run_of_error {failure : Failure}
    (worked : (work host request).on [] s = ((.error failure, events), s')) :
    run host request s
      = ({ code := 1, complaint := failure.message ++ "\n", events }, s') := by
  have reached : (work host request).outcome s = ((events, .error failure), s') := by
    rw [Work.outcome_eq, worked]
  simp only [run, Bind.bind, StateT.bind, reached]
  rfl

variable {files : Files} (answers : host.toReader.Answers files s)
include answers

/-- Without a plan nothing happens. -/
theorem run_of_plan_error {failure : Failure}
    (failed : Work.result (plan files.reader request) [] = (.error failure, events)) :
    run host request s
      = ({ code := 1, complaint := failure.message ++ "\n", events }, s) := by
  refine run_of_error ?_
  rw [work, Work.on_bind, plan_mirrors answers request [], failed]

/-- A run that checks only looks at the plan. -/
theorem run_of_check {changes : List FileChange} (check : request.check = true)
    (found : Work.result (plan files.reader request) [] = (.ok changes, events)) :
    run host request s
      = ({ code := (checked changes).1, printed := (checked changes).2, events }, s) := by
  refine run_of_ok ?_
  rw [work, Work.on_bind, plan_mirrors answers request [], found]
  simp only [check, if_true]
  rfl

/-- A run that writes does so with the plan, and says at what it stops. -/
theorem run_of_write {changes : List FileChange} {told : List Event}
    {result : Except Failure Unit} (write : request.check = false)
    (found : Work.result (plan files.reader request) [] = (.ok changes, events))
    (wrote : (writeAll host changes).on events s = ((result, told), s')) :
    run host request s = (Outcome.ofWriting result told, s') := by
  have worked : (work host request).on [] s
      = ((result.map fun _ => (0, "generated\n"), told), s') := by
    rw [work, Work.on_bind, plan_mirrors answers request [], found]
    simp only [write, Bool.false_eq_true, if_false, Work.on_bind, wrote]
    cases result <;> rfl
  cases result with
  | ok _ => exact run_of_ok worked
  | error failure => exact run_of_error worked

end Host

/-- A run that writes what is not as it should be. -/
def writing (files : Files) (request : Request) : Outcome × Files :=
  run Files.host { request with check := false } files

/-- A run that only checks. -/
def checking (files : Files) (request : Request) : Outcome × Files :=
  run Files.host { request with check := true } files

variable {files : Files} {request : Request} {changes : List FileChange}

/-- A run that has no plan leaves the files as they are. -/
theorem run_of_unplanned {failure : Failure} (failed : planned files request = .error failure) :
    ∃ events, run Files.host request files
      = ({ code := 1, complaint := failure.message ++ "\n", events }, files) := by
  rw [planned_eq] at failed
  exact ⟨_, run_of_plan_error files.host_answers (Prod.ext failed rfl)⟩

/-- A run that checks tells the stale files from the plan and leaves all of
them as they are. -/
theorem checking_of_planned (found : planned files request = .ok changes) :
    ∃ events, checking files request
      = ({ code := (checked changes).1, printed := (checked changes).2, events }, files) := by
  have found : planned files { request with check := true } = .ok changes := found
  rw [planned_eq] at found
  exact ⟨_, run_of_check files.host_answers rfl (Prod.ext found rfl)⟩

/-- A run that writes goes as far as the writing of the plan. -/
theorem writing_of_planned (found : planned files request = .ok changes) :
    ∃ told told' result after,
      (writeAll Files.host changes).on told files = ((result, told'), after)
        ∧ writing files request = (.ofWriting result told', after) := by
  have found : planned files { request with check := false } = .ok changes := found
  rw [planned_eq] at found
  exact ⟨_, _, _, _, rfl, run_of_write files.host_answers rfl (Prod.ext found rfl) rfl⟩

-- ======================================================= all written

/-- Where no file is stale, nothing is written. -/
theorem writeAll_of_fresh (host : Host (StateM σ)) (fresh : stale changes = [])
    (told : List Event) (s : σ) :
    ∃ told', (writeAll host changes).on told s = ((.ok (), told'), s) := by
  induction changes generalizing told with
  | nil => exact ⟨told, rfl⟩
  | cons change rest ih =>
    rw [stale_cons] at fresh
    split at fresh
    · cases fresh
    · rename_i kept
      rw [writeAll_cons, write_of_fresh host (by simpa using kept)]
      exact ih fresh _

/-- A run leaves files that are as they should be. -/
theorem writing_of_fresh (found : planned files request = .ok changes)
    (fresh : stale changes = []) : (writing files request).2 = files := by
  obtain ⟨told, told', result, after, wrote, ran⟩ := writing_of_planned found
  obtain ⟨told₁, kept⟩ := writeAll_of_fresh Files.host fresh told files
  rw [kept] at wrote
  rw [ran]
  cases wrote
  rfl

/-- A planned file that is not stale holds its text already. -/
theorem readText_of_fresh (found : planned files request = .ok changes) {change : FileChange}
    (mem : change ∈ changes) (fresh : change.isStale = false) :
    files.readText change.path = .ok change.wanted := by
  obtain ⟨dir, outputs, -, -, rfl⟩ := planned_eq_ok.1 found
  obtain ⟨file, -, rfl⟩ := List.mem_map.1 mem
  have held : (files.readText (Path.join dir file.1)).toOption = some file.2 :=
    FileChange.isStale_eq_false.1 fresh
  change files.readText (Path.join dir file.1) = .ok file.2
  cases read : files.readText (Path.join dir file.1) with
  | error cause =>
    rw [read] at held
    cases held
  | ok text =>
    rw [read] at held
    cases held
    rfl

theorem destinations_stale_sublist (files : Files) (changes : List FileChange) :
    (destinations files (stale changes)).Sublist (destinations files changes) :=
  List.filter_sublist.map _

/-- Among files with destinations of their own, one that is not stale is not
in the place of one that is. -/
theorem not_mem_of_fresh (apart : (destinations files changes).Nodup) {change : FileChange}
    (mem : change ∈ changes) (fresh : change.isStale = false) :
    files.destination change.path ∉ destinations files (stale changes) := by
  intro taken
  obtain ⟨other, inside, same⟩ := List.mem_map.1 taken
  obtain ⟨inside, isStale⟩ := List.mem_filter.1 inside
  obtain rfl : other = change := List.inj_on_of_nodup_map apart inside mem same
  rw [fresh] at isStale
  cases isStale

/-- What a run that ends well does to the files: it only touches the places
of the stale ones and their ways, and where no two files share a place, each
of them holds its text. -/
theorem writing_done (found : planned files request = .ok changes)
    (done : (writing files request).1.code = 0) :
    Files.Grown (ways files (stale changes)) (destinations files (stale changes)) files
        (writing files request).2
      ∧ ((destinations files changes).Nodup → ∀ change ∈ changes,
          (writing files request).2.readText change.path = .ok change.wanted) := by
  obtain ⟨told, told', result, after, wrote, ran⟩ := writing_of_planned found
  rw [ran] at done ⊢
  cases result with
  | error failure => cases done
  | ok _ =>
    obtain ⟨grown, holding⟩ := writeAll_ok wrote
    refine ⟨grown, fun apart change mem => ?_⟩
    cases isStale : change.isStale with
    | true =>
      exact holding (apart.sublist (destinations_stale_sublist files changes)) change
        (List.mem_filter.2 ⟨mem, isStale⟩)
    | false =>
      exact grown.readText (readText_of_fresh found mem isStale)
        (not_mem_of_fresh apart mem isStale)

-- ============================================================ attempts

/-- A tree of files with the paths that an action was tried on. -/
structure Watched where
  files : Files
  tried : List String := []

namespace Watched

/-- A question, which leaves no trace. -/
def asking (question : StateM Files α) : StateM Watched α := fun watched =>
  let (answer, files) := question watched.files
  (answer, { watched with files })

/-- An action on a path, which is noted. -/
def acting (path : String) (action : StateM Files α) : StateM Watched α := fun watched =>
  let (answer, files) := action watched.files
  (answer, ⟨files, watched.tried ++ [path]⟩)

/-- The file operations with a note of every action. -/
def host : Host (StateM Watched) where
  currentDirectory := asking Files.host.currentDirectory
  exists? path := asking (Files.host.exists? path)
  readText path := asking (Files.host.readText path)
  list path := asking (Files.host.list path)
  createDirectories path := acting path (Files.host.createDirectories path)
  writeText path text := acting path (Files.host.writeText path text)

theorem host_answers (watched : Watched) : host.toReader.Answers watched.files watched :=
  ⟨rfl, fun _ => rfl, fun _ => rfl, fun _ => rfl⟩

end Watched

/-- The paths that a run which writes tries an action on. -/
def attempts (files : Files) (request : Request) : List String :=
  (run Watched.host { request with check := false } ⟨files, []⟩).2.tried

theorem tried_of_writeText (change : FileChange) (told : List Event) (watched : Watched) :
    ((writeText Watched.host change).on told watched).2.tried
      = watched.tried ++ [change.path] := by
  simp only [writeText, Work.on_bind, Work.on_ask]
  cases (Watched.host.writeText change.path change.wanted watched).1 <;> rfl

/-- Writing a file tries something exactly if the file is stale. -/
theorem tried_of_write (change : FileChange) (told : List Event) (watched : Watched) :
    ∃ more, ((write Watched.host change).on told watched).2.tried = watched.tried ++ more
      ∧ (more = [] ↔ change.isStale = false) := by
  cases stale : change.isStale with
  | false =>
    rw [write_of_fresh _ stale]
    exact ⟨[], (List.append_nil _).symm, by simp⟩
  | true =>
    rw [write_of_stale _ stale]
    cases Path.parent? change.path with
    | none => exact ⟨[change.path], tried_of_writeText change told watched, by simp⟩
    | some parent =>
      simp only [Work.on_bind, Work.on_ask]
      cases (Watched.host.createDirectories parent watched).1 with
      | error cause => exact ⟨[parent], rfl, by simp⟩
      | ok _ =>
        refine ⟨[parent, change.path], ?_, by simp⟩
        change ((writeText Watched.host change).on told _).2.tried = _
        rw [tried_of_writeText]
        exact List.append_assoc watched.tried [parent] [change.path]

/-- Writing files tries something exactly if one of them is stale. -/
theorem tried_of_writeAll (changes : List FileChange) (told : List Event) (watched : Watched) :
    ∃ more, ((writeAll Watched.host changes).on told watched).2.tried = watched.tried ++ more
      ∧ (more = [] ↔ stale changes = []) := by
  induction changes generalizing told watched with
  | nil => exact ⟨[], (List.append_nil _).symm, by simp [stale]⟩
  | cons change rest ih =>
    obtain ⟨more, tried, silent⟩ := tried_of_write change told watched
    rw [writeAll_cons, Work.on_bind]
    cases isStale : change.isStale with
    | false =>
      rw [write_of_fresh _ isStale]
      obtain ⟨others, later, quiet⟩ := ih (told ++ [.unchanged change.path]) watched
      exact ⟨others, later, by simpa [stale_cons, isStale] using quiet⟩
    | true =>
      rw [isStale] at silent
      rcases first : (write Watched.host change).on told watched with ⟨⟨result, told'⟩, reached⟩
      rw [first] at tried
      cases result with
      | error failure => exact ⟨more, tried, by simp [stale_cons, isStale, silent]⟩
      | ok _ =>
        obtain ⟨others, later, -⟩ := ih told' reached
        refine ⟨more ++ others, ?_, by simp [stale_cons, isStale, silent]⟩
        rw [← List.append_assoc, ← tried]
        exact later

/-- A run tries to write exactly if a planned file is stale. -/
theorem attempts_eq_nil (found : planned files request = .ok changes) :
    attempts files request = [] ↔ stale changes = [] := by
  have found : planned files { request with check := false } = .ok changes := found
  rw [planned_eq] at found
  obtain ⟨more, tried, silent⟩ := tried_of_writeAll changes
    (Work.result (plan files.reader { request with check := false }) []).2 ⟨files, []⟩
  have ran := run_of_write (Watched.host_answers ⟨files, []⟩) rfl (Prod.ext found rfl) rfl
  have noted : attempts files request = more := by
    rw [attempts, ran]
    exact tried
  rw [noted, silent]

end Generate

end OpenApiTypes
