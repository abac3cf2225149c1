/-
What a check tells about the planned files, one by one. It is silent about a
file whose bytes are the planned ones, shows the difference where another
text is read, and calls a file missing where no text can be read
(`checking_tells`). The last is more than it says: besides nothing at all, a
directory or a file that is no text may stand there (`missing_though_there`).

The check decides by the text and not by the bytes, and the two agree because
a text has one encoding.
-/
import OpenApiTypes.Proofs.Project.Agreement

namespace OpenApiTypes

-- ====================================================== bytes and texts

theorem Files.readBytes_eq_ok {files : Files} {path : String} {bytes : ByteArray} :
    files.readBytes path = .ok bytes ↔
      files.find path = .ok (files.destination path, .file bytes) := by
  unfold readBytes
  rw [bind_eq_ok]
  constructor
  · rintro ⟨⟨place, node⟩, found, read⟩
    obtain ⟨-, rfl, -⟩ := find_eq_ok.1 found
    cases node with
    | directory => cases read
    | file content =>
      cases read
      exact found
  · intro found
    exact ⟨_, found, rfl⟩

/-- A path reads a text exactly if it leads to a file with the bytes of the
text. -/
theorem Files.readText_iff_readBytes {files : Files} {path text : String} :
    files.readText path = .ok text ↔ files.readBytes path = .ok text.toUTF8 := by
  rw [readText_eq_ok, readBytes_eq_ok]
  constructor
  · rintro ⟨bytes, found, decoded⟩
    rwa [← Text.fromUTF8?_eq_some.1 decoded]
  · intro found
    exact ⟨_, found, Text.fromUTF8?_eq_some.2 rfl⟩

/-- The ways in which no text is read from a path: it leads to nothing, to a
directory, or to a file that is no text. -/
inductive Files.NoText (files : Files) (path : String) : Prop
  | nothing (absent : files.exists? path = false)
  | directory (found : files.find path = .ok (files.destination path, .directory))
  | notText (bytes : ByteArray)
      (found : files.find path = .ok (files.destination path, .file bytes))
      (invalid : String.fromUTF8? bytes = none)

theorem Files.noText_iff {files : Files} {path : String} :
    files.NoText path ↔ ∀ text, files.readText path ≠ .ok text := by
  constructor
  · intro unread text read
    obtain ⟨bytes, found, decoded⟩ := readText_eq_ok.1 read
    cases unread with
    | nothing absent =>
      rw [exists?, found] at absent
      cases absent
    | directory found' =>
      rw [found'] at found
      cases found
    | notText bytes' found' invalid =>
      rw [found'] at found
      cases found
      rw [invalid] at decoded
      cases decoded
  · intro unread
    match found : files.find path with
    | .error cause => exact .nothing (by rw [exists?, found]; rfl)
    | .ok (place, node) =>
      obtain ⟨-, rfl, -⟩ := find_eq_ok.1 found
      match node with
      | .directory => exact .directory found
      | .file bytes =>
        refine .notText bytes found ?_
        cases decoded : String.fromUTF8? bytes with
        | none => rfl
        | some text => exact absurd (readText_eq_ok.2 ⟨bytes, found, decoded⟩) (unread text)

namespace Generate

variable {files : Files} {request : Request} {changes : List FileChange} {change : FileChange}

-- ============================================================= reports

/-- The file is there, with the planned bytes. -/
def InPlace (files : Files) (change : FileChange) : Prop :=
  files.readBytes change.path = .ok change.wanted.toUTF8

/-- What a check tells about a planned file. Exactly one of the cases
applies. -/
inductive Tells (files : Files) (change : FileChange) : String → Prop
  | inPlace (held : InPlace files change) : Tells files change ""
  | missing (unread : files.NoText change.path) :
      Tells files change (change.path ++ " is missing\n")
  | differs (text difference : String) (read : files.readText change.path = .ok text)
      (other : text ≠ change.wanted)
      (shown : FileChange.diff? ⟨change.path, change.wanted, some text⟩ = some difference) :
      Tells files change difference

/-- A planned file holds beside its text what is read from its path. -/
theorem existing_of_planned (found : planned files request = .ok changes) (mem : change ∈ changes) :
    change.existing = (files.readText change.path).toOption := by
  obtain ⟨dir, outputs, -, -, rfl⟩ := planned_eq_ok.1 found
  obtain ⟨file, -, rfl⟩ := List.mem_map.1 mem
  rfl

/-- The files that are in place are those that are not stale. -/
theorem inPlace_iff (found : planned files request = .ok changes) (mem : change ∈ changes) :
    InPlace files change ↔ change.isStale = false := by
  rw [FileChange.isStale_eq_false, existing_of_planned found mem, InPlace,
    ← Files.readText_iff_readBytes]
  cases files.readText change.path with
  | error cause => simp [Except.toOption]
  | ok text => simp [Except.toOption]

/-- What is told about a planned file: nothing if it is not stale. -/
def reportOf (change : FileChange) : String := if change.isStale then change.report else ""

/-- The report on a planned file fits what is at its path. -/
theorem tells_reportOf (found : planned files request = .ok changes) (mem : change ∈ changes) :
    Tells files change (reportOf change) := by
  have existing := existing_of_planned found mem
  unfold reportOf
  split
  · rename_i stale
    cases read : files.readText change.path with
    | error cause =>
      have unread : files.NoText change.path :=
        Files.noText_iff.2 fun text held => by rw [read] at held; cases held
      have none : change.existing = none := by rw [existing, read]; rfl
      simpa [FileChange.report, FileChange.diff?, none] using Tells.missing unread
    | ok text =>
      have some : change.existing = some text := by rw [existing, read]; rfl
      have other : text ≠ change.wanted := by
        rintro rfl
        simp [FileChange.isStale, some] at stale
      refine .differs text _ read other ?_
      simp [FileChange.report, FileChange.diff?, FileChange.header, some, other]
  · rename_i fresh
    exact .inPlace ((inPlace_iff found mem).2 (Bool.eq_false_iff.2 fresh))

/-- The stale files are the ones that are reported on. -/
theorem join_reports (changes : List FileChange) :
    String.join ((stale changes).map FileChange.report) = String.join (changes.map reportOf) := by
  induction changes with
  | nil => rfl
  | cons change rest ih =>
    rw [stale_cons, List.map_cons, String.join_cons, ← ih, reportOf]
    split
    · rw [List.map_cons, String.join_cons]
    · rw [String.empty_append]

/-- No report is as short as the message that all is up to date. -/
theorem length_report (change : FileChange) : 12 ≤ change.report.length := by
  have missing : " is missing\n".length = 12 := by decide
  have title : "\x1b[1m+++ ".length = 8 := by decide
  have ending : " (current)\x1b[0m\n".length = 15 := by decide
  unfold FileChange.report FileChange.diff?
  split
  · simp only [Option.getD_none, String.length_append]
    omega
  · split
    · simp only [Option.getD_none, String.length_append]
      omega
    · simp only [Option.getD_some, FileChange.header, String.length_append]
      omega

/-- With a stale file a check fails and prints the reports. -/
theorem checked_of_stale_ne_nil (some : stale changes ≠ []) :
    checked changes = (1, String.join (changes.map reportOf)) := by
  rw [← join_reports]
  unfold stale at some
  unfold checked
  split
  · rename_i none
    exact absurd none some
  · rfl

/-- Reports are never the message that all is up to date. -/
theorem checked_printed : (checked changes).2 = "up to date\n" ↔ stale changes = [] := by
  constructor
  · intro printed
    refine Classical.byContradiction fun some => ?_
    rw [checked_of_stale_ne_nil some, ← join_reports] at printed
    obtain ⟨first, rest, parts⟩ := List.exists_cons_of_ne_nil some
    have long := length_report first
    have size := congrArg String.length printed
    have short : "up to date\n".length = 11 := by decide
    rw [parts, List.map_cons, String.join_cons, String.length_append, short] at size
    omega
  · intro none
    rw [checked_of_stale_eq_nil none]

/-- A check leaves all files as they are and tells about each planned one
what `Tells` says. It ends with code 0 and says that all is up to date
exactly if all planned files are in place. -/
theorem checking_tells (found : planned files request = .ok changes) :
    (checking files request).2 = files
      ∧ ((checking files request).1.code = 0 ↔ ∀ change ∈ changes, InPlace files change)
      ∧ ((checking files request).1.printed = "up to date\n" ↔
          ∀ change ∈ changes, InPlace files change)
      ∧ ∃ reports, List.Forall₂ (Tells files) changes reports
          ∧ ((∃ change ∈ changes, ¬InPlace files change) →
              (checking files request).1.code = 1
                ∧ (checking files request).1.printed = String.join reports) := by
  obtain ⟨events, ran⟩ := checking_of_planned found
  have allInPlace : (∀ change ∈ changes, InPlace files change) ↔ stale changes = [] := by
    rw [stale, List.filter_eq_nil_iff]
    refine forall₂_congr fun change mem => ?_
    rw [inPlace_iff found mem, Bool.not_eq_true]
  have reports : List.Forall₂ (Tells files) changes (changes.map reportOf) := by
    rw [List.forall₂_map_right_iff, List.forall₂_same]
    exact fun change mem => tells_reportOf found mem
  rw [ran, allInPlace]
  refine ⟨rfl, checked_code, checked_printed, _, reports, ?_⟩
  rintro ⟨change, mem, other⟩
  have some : stale changes ≠ [] := fun none => other (allInPlace.2 none change mem)
  rw [checked_of_stale_ne_nil some]
  exact ⟨rfl, rfl⟩

-- ============================================================ a sample

/-- A project in the directory `w` in which something stands where the types
are to be. -/
def occupied (node : FileNode) : Files where
  here := ["w"]
  entries :=
    [(["w"], .directory),
      (["w", "openapi.json"], .file "\x7b\x7d".toUTF8),
      (["w", "swagger-ts.toml"], .file "input = \"openapi.json\"\nbanner = false\n".toUTF8),
      (["w", "src"], .directory),
      (["w", "src", "api"], .directory),
      (["w", "src", "api", "types.ts"], node)]

/-- The types of the sample have no text, and another one is read. -/
theorem planned_occupied :
    planned (occupied (.file "old\n".toUTF8)) {} =
      .ok [⟨"src/api/types.ts", "", some "old\n"⟩] := by
  decide +kernel

/-- The other text is all that is told about. -/
theorem checking_tells_occupied :
    (checking (occupied (.file "old\n".toUTF8)) {}).1.code = 1
      ∧ Tells (occupied (.file "old\n".toUTF8)) ⟨"src/api/types.ts", "", some "old\n"⟩
          (checking (occupied (.file "old\n".toUTF8)) {}).1.printed := by
  obtain ⟨-, -, -, reports, each, failing⟩ := checking_tells planned_occupied
  have other : ¬InPlace (occupied (.file "old\n".toUTF8))
      ⟨"src/api/types.ts", "", some "old\n"⟩ := by
    unfold InPlace
    decide +kernel
  obtain ⟨code, printed⟩ := failing ⟨_, List.mem_cons_self, other⟩
  obtain ⟨report, rest, first, none, rfl⟩ := List.forall₂_cons_left_iff.1 each
  obtain rfl := List.forall₂_nil_left_iff.1 none
  rw [printed, String.join_cons, String.join_nil, String.append_empty]
  exact ⟨code, first⟩

/-- A file that is no text, and a directory, are there and are called
missing. -/
theorem missing_though_there :
    ((occupied (.file ⟨#[0xFF, 0x0A]⟩)).exists? "src/api/types.ts" = true
        ∧ planned (occupied (.file ⟨#[0xFF, 0x0A]⟩)) {} = .ok [⟨"src/api/types.ts", "", none⟩]
        ∧ (checking (occupied (.file ⟨#[0xFF, 0x0A]⟩)) {}).1.printed
            = "src/api/types.ts is missing\n")
      ∧ (occupied .directory).exists? "src/api/types.ts" = true
        ∧ planned (occupied .directory) {} = .ok [⟨"src/api/types.ts", "", none⟩]
        ∧ (checking (occupied .directory) {}).1.printed = "src/api/types.ts is missing\n" := by
  decide +kernel

end Generate

end OpenApiTypes
