/-
A run that writes and a run that only checks, on the same files: the check
fails exactly if the other one would try to write, and after that one has
ended well there is nothing left to do. The second half is about two plans,
the second of them made from the files that the first run has left. It wants
the same texts only because the run has kept away from everything that
planning reads, which is what `Clear` asks for.

Not being in the place of the settings is not enough for that. A run without
a settings file may make a directory there, on the way to a file below it,
and the next run takes the directory for its settings and fails
(`places_in_the_way`).
-/
import OpenApiTypes.Proofs.Project.Destinations

namespace OpenApiTypes.Generate

open Files (Grown)

variable {files before after : Files} {request : Request} {changes : List FileChange}

-- ========================================================== statements

/-- Somewhere below a directory. -/
def Inside (dir place : Place) : Prop := ∃ rest, rest ≠ [] ∧ place = dir ++ rest

/-- The planned files have places of their own, and these keep away from the
settings, the document and the templates. The settings must not be on the
way to one of them either. -/
structure Clear (files : Files) (request : Request) (changes : List FileChange) : Prop where
  apart : (destinations files changes).Nodup
  settings : files.destination (configPath files request) ∉ destinations files changes
  passage : files.destination (configPath files request) ∉ ways files changes
  input : ∀ config input, settled files request = .ok config → config.input = some input →
    files.destination input ∉ destinations files changes
  templates : ∀ config dir, settled files request = .ok config →
    config.templatesDir = some dir →
      ∀ place ∈ destinations files changes, ¬Inside (files.destination dir) place

/-- A place is as it was, or it was empty and a directory on the way to some
files is there. -/
def Untouched (before after : Files) (changes : List FileChange) (place : Place) : Prop :=
  after.node? place = before.node? place
    ∨ (place ∈ ways before changes ∧ before.node? place = none
        ∧ after.node? place = some .directory)

/-- All planned files are written and nothing is left to do. -/
structure Complete (before after : Files) (request : Request) (changes : List FileChange) :
    Prop where
  holds : ∀ change ∈ changes, after.readText change.path = .ok change.wanted
  others : ∀ place, place ∉ destinations before (stale changes) →
    Untouched before after (stale changes) place
  strays : after.strays = before.strays
  upToDate : (checking after request).1.code = 0
    ∧ (checking after request).1.printed = "up to date\n"
  checked : (checking after request).2 = after
  attempts : attempts after request = []
  written : (writing after request).2 = after

/-- Of the planned files, some are done with, the next one could not be
written, and the others have not been looked at. -/
structure Stopped (before after : Files) (done : List FileChange) (change : FileChange)
    (rest : List FileChange) : Prop where
  stale : change.isStale = true
  holds : ∀ earlier ∈ Generate.stale done, after.readText earlier.path = .ok earlier.wanted
  others : ∀ place, place ∉ destinations before (Generate.stale done) →
    Untouched before after (Generate.stale done ++ [change]) place
  strays : after.strays = before.strays
  later : ∀ other ∈ change :: rest,
    Untouched before after (Generate.stale done ++ [change]) (before.destination other.path)

/-- The two kinds of runs agree on some planned files. -/
structure Agreement (files : Files) (request : Request) (changes : List FileChange) : Prop where
  unchanged : (checking files request).2 = files
  checks : (checking files request).1.code = 0 ↔ attempts files request = []
  succeeds : (writing files request).1.code = 0 →
    Complete files (writing files request).2 request changes
  fails : (writing files request).1.code ≠ 0 → ∃ done change rest,
    changes = done ++ change :: rest
      ∧ Stopped files (writing files request).2 done change rest

-- ============================================================ checking

theorem checked_of_stale_eq_nil (none : stale changes = []) :
    checked changes = (0, "up to date\n") := by
  unfold stale at none
  simp [checked, none]

theorem checked_code : (checked changes).1 = 0 ↔ stale changes = [] := by
  unfold checked stale
  split <;> simp_all

/-- A check succeeds exactly if nothing would be written. -/
theorem checking_iff (found : planned files request = .ok changes) :
    (checking files request).1.code = 0 ↔ attempts files request = [] := by
  obtain ⟨events, ran⟩ := checking_of_planned found
  rw [ran, attempts_eq_nil found]
  exact checked_code

-- ===================================================== planning again

/-- Growing where the planned files are and on their ways disturbs nothing
that planning reads. -/
theorem Clear.undisturbed (clear : Clear files request changes) :
    Undisturbed files request (ways files (stale changes))
      (destinations files (stale changes)) := by
  have places := (destinations_stale_sublist files changes).subset
  have passages : ways files (stale changes) ⊆ ways files changes := by
    intro place mem
    obtain ⟨change, inside, passed⟩ := List.mem_flatMap.1 mem
    exact List.mem_flatMap.2 ⟨change, List.mem_of_mem_filter inside, passed⟩
  refine ⟨fun mem => clear.passage (passages mem), fun mem => clear.settings (places mem), ?_, ?_⟩
  · intro config given input named mem
    exact clear.input config input given named (places mem)
  · intro config given dir named name mem
    exact clear.templates config dir given named _ (places mem)
      ⟨[name], List.cons_ne_nil _ _, rfl⟩

/-- Once the planned files hold their texts, and nothing that planning reads
was disturbed, a new plan finds none of them stale. -/
theorem planned_again (wf : before.WellFormed) (found : planned before request = .ok changes)
    (grown : Grown (ways before (stale changes)) (destinations before (stale changes)) before after)
    (clear : Clear before request changes)
    (holds : ∀ change ∈ changes, after.readText change.path = .ok change.wanted) :
    ∃ changes', planned after request = .ok changes' ∧ stale changes' = [] := by
  obtain ⟨dir, outputs, told, reached, rfl⟩ := planned_eq_ok.1 found
  have again := wanted_follows grown wf clear.undisturbed (dir, outputs) told reached
  refine ⟨_, planned_eq_ok.2 ⟨dir, outputs, told, again, rfl⟩, ?_⟩
  refine List.filter_eq_nil_iff.2 fun change mem => ?_
  obtain ⟨file, inside, rfl⟩ := List.mem_map.1 mem
  have held : after.readText (Path.join dir file.1) = .ok file.2 :=
    holds (changeIn before dir file) (List.mem_map_of_mem inside)
  have fresh : (changeIn after dir file).isStale = false := by
    rw [FileChange.isStale_eq_false, changeIn, held]
    rfl
  simp [fresh]

/-- Outside the written places a tree that has grown is as it was, but for
directories on the ways. -/
theorem untouched_of_grown {written : List Place}
    (grown : Grown (ways before changes) written before after) {place : Place}
    (apart : place ∉ written) : Untouched before after changes place := by
  rcases grown.node place with same | made | ⟨mem, -⟩
  · exact .inl same
  · exact .inr made
  · exact absurd mem apart

/-- After a run that ends well there is nothing left to do. -/
theorem complete_of_writing (wf : files.WellFormed) (found : planned files request = .ok changes)
    (clear : Clear files request changes) (ended : (writing files request).1.code = 0) :
    Complete files (writing files request).2 request changes := by
  obtain ⟨grown, holding⟩ := writing_done found ended
  have holds := holding clear.apart
  obtain ⟨changes', again, fresh⟩ := planned_again wf found grown clear holds
  obtain ⟨events, checks⟩ := checking_of_planned again
  rw [checked_of_stale_eq_nil fresh] at checks
  exact {
    holds
    others := fun place apart => untouched_of_grown grown apart
    strays := grown.strays
    upToDate := by rw [checks]; exact ⟨rfl, rfl⟩
    checked := by rw [checks]
    attempts := (attempts_eq_nil again).2 fresh
    written := writing_of_fresh again fresh }

-- ============================================================ stopping

/-- A run that stops at a file has written the stale ones before it, and
nothing else. -/
theorem stopped_of_writing (found : planned files request = .ok changes)
    (apart : (destinations files changes).Nodup) (ended : (writing files request).1.code ≠ 0) :
    ∃ done change rest, changes = done ++ change :: rest
      ∧ Stopped files (writing files request).2 done change rest := by
  obtain ⟨told, told', result, after, wrote, ran⟩ := writing_of_planned found
  rw [ran] at ended ⊢
  cases result with
  | ok _ => exact absurd rfl ended
  | error failure =>
    obtain ⟨done, change, rest, told₁, between, rfl, first, stopped⟩ := writeAll_error wrote
    refine ⟨done, change, rest, rfl, ?_⟩
    obtain ⟨grown, holding⟩ := writeAll_ok first
    obtain ⟨isStale, further⟩ := stopped.of_error
    rw [grown.way] at further
    have ways : ways files (stale done ++ [change])
        = ways files (stale done) ++ files.way change.path := by
      simp [Generate.ways]
    have whole : Grown (Generate.ways files (stale done ++ [change]))
        (destinations files (stale done)) files after := by
      rw [ways]
      simpa using grown.append further
    rw [destinations, List.map_append] at apart
    obtain ⟨single, -, disjoint⟩ := List.nodup_append.1 apart
    have places := destinations_stale_sublist files done
    exact {
      stale := isStale
      holds := fun earlier mem =>
        further.readText (holding (single.sublist places) earlier mem) List.not_mem_nil
      others := fun place outside => untouched_of_grown whole outside
      strays := whole.strays
      later := fun other mem => untouched_of_grown whole fun inside =>
        disjoint _ (places.subset inside) _ (List.mem_map_of_mem mem) rfl }

/-- The two kinds of runs agree. Without a plan neither does anything and
both end with code 1. -/
theorem runs_agree (wf : files.WellFormed) :
    (∀ failure, planned files request = .error failure →
        ((writing files request).1.code = 1 ∧ (writing files request).2 = files)
          ∧ (checking files request).1.code = 1 ∧ (checking files request).2 = files)
      ∧ ∀ changes, planned files request = .ok changes → Clear files request changes →
          Agreement files request changes := by
  constructor
  · intro failure failed
    have writes : planned files { request with check := false } = .error failure := failed
    have checks : planned files { request with check := true } = .error failure := failed
    obtain ⟨told, wrote⟩ := run_of_unplanned writes
    obtain ⟨told', checked⟩ := run_of_unplanned checks
    rw [writing, checking, wrote, checked]
    exact ⟨⟨rfl, rfl⟩, rfl, rfl⟩
  · intro changes found clear
    obtain ⟨events, checked⟩ := checking_of_planned found
    exact {
      unchanged := by rw [checked]
      checks := checking_iff found
      succeeds := complete_of_writing wf found clear
      fails := stopped_of_writing found clear.apart }

theorem settled_sample :
    settled (sample "http.ts") {} =
      .ok { input := some "/w/openapi.json", templatesDir := some "/w/t" } := by
  decide +kernel

/-- The sample is clear, and a run completes it. -/
theorem runs_agree_sample :
    Clear (sample "http.ts") {}
        [⟨"src/api/types.ts", Template.banner, none⟩,
          ⟨"src/api/http.ts", "export \x7b\x7d;\n", none⟩]
      ∧ Complete (sample "http.ts") (writing (sample "http.ts") {}).2 {}
          [⟨"src/api/types.ts", Template.banner, none⟩,
            ⟨"src/api/http.ts", "export \x7b\x7d;\n", none⟩] := by
  have clear : Clear (sample "http.ts") {}
      [⟨"src/api/types.ts", Template.banner, none⟩,
        ⟨"src/api/http.ts", "export \x7b\x7d;\n", none⟩] := by
    refine ⟨by decide, by decide, by decide, ?_, ?_⟩
    · intro config input given named
      rw [settled_sample] at given
      cases given
      cases named
      decide
    · intro config dir given named place mem inside
      rw [settled_sample] at given
      cases given
      cases named
      have dir : (sample "http.ts").destination "/w/t" = ["w", "t"] := by decide
      have places : destinations (sample "http.ts")
          [⟨"src/api/types.ts", Template.banner, none⟩,
            ⟨"src/api/http.ts", "export \x7b\x7d;\n", none⟩]
          = [["w", "src", "api", "types.ts"], ["w", "src", "api", "http.ts"]] := by decide
      obtain ⟨rest, -, below⟩ := inside
      simp only [places, List.mem_cons, List.not_mem_nil, or_false] at mem
      rcases mem with rfl | rfl <;> simp [dir] at below
  have agreement := (runs_agree (wellFormed_sample (by decide))).2 _ planned_sample clear
  exact ⟨clear, agreement.succeeds (by decide +kernel)⟩

/-- A project in the directory `w` with a document and nothing else. -/
def bare : Files where
  here := ["w"]
  entries := [(["w"], .directory), (["w", "openapi.json"], .file "\x7b\x7d".toUTF8)]

/-- The request for types in a directory that is called like the settings. -/
def ambiguous : Request := { input := some "openapi.json", outputDir := some "swagger-ts.toml" }

theorem wellFormed_bare : bare.WellFormed where
  here := by decide
  names := by decide
  parents := by
    intro entry mem
    simp only [bare, List.mem_cons, List.not_mem_nil, or_false] at mem
    rcases mem with rfl | rfl <;> rfl

/-- A project whose types go below a directory that is called like its second
template, and where a directory stands at the place of the first one. -/
def crowded : Files where
  here := ["w"]
  entries :=
    [(["w"], .directory),
      (["w", "openapi.json"], .file "\x7b\x7d".toUTF8),
      (["w", "swagger-ts.toml"],
        .file ("input = \"openapi.json\"\noutput_file = \"b.ts/types.ts\"\n" ++
          "templates_dir = \"t\"\n").toUTF8),
      (["w", "t"], .directory),
      (["w", "t", "a.ts"], .file "".toUTF8),
      (["w", "t", "b.ts"], .file "".toUTF8),
      (["w", "src"], .directory),
      (["w", "src", "api"], .directory),
      (["w", "src", "api", "a.ts"], .directory)]

theorem wellFormed_crowded : crowded.WellFormed where
  here := by decide
  names := by decide
  parents := by
    intro entry mem
    simp only [crowded, List.mem_cons, List.not_mem_nil, or_false] at mem
    rcases mem with rfl | rfl | rfl | rfl | rfl | rfl | rfl | rfl | rfl <;> rfl

/-- Directories on the way to a file take places that are needed. A run whose
only file goes below the place of the settings, where nothing is, ends well
and cannot be repeated; and a run that stops at its second file may have made
a directory in the place of the third one. -/
theorem places_in_the_way :
    (bare.WellFormed
      ∧ planned bare ambiguous = .ok [⟨"swagger-ts.toml/types.ts", Template.banner, none⟩]
      ∧ settled bare ambiguous =
          .ok { input := some "openapi.json", outputDir := some "swagger-ts.toml" }
      ∧ bare.destination "swagger-ts.toml/types.ts" = ["w", "swagger-ts.toml", "types.ts"]
      ∧ bare.destination (configPath bare ambiguous) = ["w", "swagger-ts.toml"]
      ∧ bare.destination "openapi.json" = ["w", "openapi.json"]
      ∧ (writing bare ambiguous).1.code = 0
      ∧ (checking (writing bare ambiguous).2 ambiguous).1.code = 1
      ∧ (checking (writing bare ambiguous).2 ambiguous).1.complaint =
          "Failed to read /w/swagger-ts.toml: Is a directory (os error 21)\n")
    ∧ (crowded.WellFormed
      ∧ planned crowded {} =
          .ok [⟨"src/api/b.ts/types.ts", Template.banner, none⟩, ⟨"src/api/a.ts", "", none⟩,
            ⟨"src/api/b.ts", "", none⟩]
      ∧ settled crowded {} =
          .ok { input := some "/w/openapi.json", outputFile := some "b.ts/types.ts",
                templatesDir := some "/w/t" }
      ∧ crowded.destination "src/api/b.ts/types.ts" = ["w", "src", "api", "b.ts", "types.ts"]
      ∧ crowded.destination "src/api/a.ts" = ["w", "src", "api", "a.ts"]
      ∧ crowded.destination "src/api/b.ts" = ["w", "src", "api", "b.ts"]
      ∧ (writing crowded {}).1.complaint =
          "Failed to write src/api/a.ts: Is a directory (os error 21)\n"
      ∧ crowded.node? ["w", "src", "api", "b.ts"] = none
      ∧ ((writing crowded {}).2.node? ["w", "src", "api", "b.ts"]).map FileNode.isFile
          = some false) := by
  refine ⟨⟨wellFormed_bare, by decide +kernel⟩, wellFormed_crowded, ?_⟩
  -- A merge sort of two templates is not evaluated in the kernel.
  simp only [planned, writing, run, work, plan, templates, Template.load, Template.arrange,
    Text.sortByName_eq_insertionSort]
  decide +kernel

end OpenApiTypes.Generate
