/-
Defaults that are written out in a settings file. An entry for a key that
the file does not have yet changes nothing but its own setting, wherever it
stands among the others (`ofText?_adds`), and every text that can be read has
room for one, since a line can be put first (`Key.adds_line`).

What a default is worth is another matter: these are the settings as they
stand in the file, before their paths are counted from anywhere.
-/
import Mathlib.Data.List.Nodup
import OpenApiTypes.Project.Config
import OpenApiTypes.Proofs.Outcomes

namespace OpenApiTypes

namespace Toml

-- ====================================================== adding entries

/-- Two texts of which the second says what the first says and has one entry
more, for a key that the first does not have. A text that cannot be read
still cannot be read. -/
inductive Adds (entry : String × Value) (text text' : String) : Prop
  | read (before after : List (String × Value)) (old : entries? text = some (before ++ after))
      (new : entries? text' = some (before ++ entry :: after))
  | refused (old : entries? text = none) (new : entries? text' = none)

/-- A text without the byte order mark that may stand before it. -/
def unmarked : List Char → List Char
  | '\uFEFF' :: rest => rest
  | cs => cs

theorem entries?_eq_some {text : String} {entries : List (String × Value)} :
    entries? text = some entries ↔
      entriesWithin ((unmarked text.toList).length + 1) (unmarked text.toList) = some entries
        ∧ (entries.map Prod.fst).Nodup := by
  change Option.bind (entriesWithin ((unmarked text.toList).length + 1) (unmarked text.toList))
    (fun found => if (found.map Prod.fst).Nodup then some found else none) = some entries ↔ _
  rw [Option.bind_eq_some_iff]
  constructor
  · rintro ⟨found, within, kept⟩
    split at kept
    · cases kept
      exact ⟨within, ‹_›⟩
    · cases kept
  · rintro ⟨within, distinct⟩
    exact ⟨entries, within, if_pos distinct⟩

/-- The entries of a text that does not end at once. -/
theorem entriesWithin_succ (fuel : Nat) {cs : List Char} (more : cs ≠ []) :
    entriesWithin (fuel + 1) cs =
      match finishLine? cs with
      | some rest => entriesWithin fuel rest
      | none => (readEntry (skipSpace cs)).bind fun (entry, rest) =>
          (entriesWithin fuel rest).map (entry :: ·) := by
  rw [entriesWithin]
  · cases finishLine? cs with
    | some rest => rfl
    | none =>
      cases readEntry (skipSpace cs) with
      | none => rfl
      | some found =>
        obtain ⟨entry, rest⟩ := found
        simp only [Option.bind_eq_bind, Option.bind_some]
        cases entriesWithin fuel rest <;> rfl
  · exact more

/-- What was read within some steps is read within more. -/
theorem entriesWithin_add {fuel : Nat} (more : Nat) {cs : List Char}
    {entries : List (String × Value)} (read : entriesWithin fuel cs = some entries) :
    entriesWithin (fuel + more) cs = some entries := by
  induction fuel generalizing cs entries with
  | zero => cases read
  | succ fuel ih =>
    rw [Nat.succ_add]
    cases cs with
    | nil => exact read
    | cons c rest =>
      rw [entriesWithin_succ _ (List.cons_ne_nil _ _)] at read ⊢
      cases ended : finishLine? (c :: rest) with
      | some rest =>
        rw [ended] at read
        exact ih read
      | none =>
        rw [ended] at read
        obtain ⟨⟨entry, rest⟩, first, others⟩ := Option.bind_eq_some_iff.1 read
        obtain ⟨found, later, rfl⟩ := Option.map_eq_some_iff.1 others
        simp only [first, Option.bind_some, ih later, Option.map_some]

/-- A text with a line put before its own lines, after the mark if there is
one. -/
def putFirst (line : List Char) (text : String) : String :=
  match text.toList with
  | '\uFEFF' :: rest => String.ofList ('\uFEFF' :: (line ++ rest))
  | cs => String.ofList (line ++ cs)

/-- A line that gives a value to a key, whatever stands after it. -/
structure IsEntry (entry : String × Value) (line : List Char) : Prop where
  marked : ∀ cs, unmarked (line ++ cs) = line ++ cs
  full : ∀ cs, finishLine? (line ++ cs) = none
  read : ∀ cs, readEntry (skipSpace (line ++ cs)) = some (entry, cs)

theorem IsEntry.unmarked_putFirst {entry : String × Value} {line : List Char}
    (isEntry : IsEntry entry line) (text : String) :
    unmarked (putFirst line text).toList = line ++ unmarked text.toList := by
  unfold putFirst
  split
  · rename_i rest marked
    rw [String.toList_ofList, marked]
    rfl
  · rename_i plain
    rw [String.toList_ofList, isEntry.marked, unmarked]
    exact plain

/-- A line for a new key can be put before the lines of a text. -/
theorem IsEntry.adds {entry : String × Value} {line : List Char} (isEntry : IsEntry entry line)
    {text : String} {entries : List (String × Value)} (read : entries? text = some entries)
    (absent : entry.1 ∉ entries.map Prod.fst) : Adds entry text (putFirst line text) := by
  obtain ⟨within, distinct⟩ := entries?_eq_some.1 read
  refine .read [] entries read (entries?_eq_some.2 ⟨?_, List.nodup_cons.2 ⟨absent, distinct⟩⟩)
  rw [isEntry.unmarked_putFirst]
  generalize unmarked text.toList = cs at within ⊢
  obtain ⟨c, others, rfl⟩ : ∃ c others, line = c :: others := by
    refine List.exists_cons_of_ne_nil ?_
    rintro rfl
    cases isEntry.full []
  -- the line takes one step, and its own length leaves more than enough for the others
  have enough : (c :: others ++ cs).length = cs.length + 1 + others.length := by
    simp only [List.cons_append, List.length_cons, List.length_append]
    omega
  have some : c :: others ++ cs ≠ [] := List.cons_ne_nil _ _
  rw [entriesWithin_succ _ some, isEntry.full, enough]
  simp only [isEntry.read, Option.bind_some, entriesWithin_add _ within, Option.map_some,
    List.nil_append]

end Toml

namespace Config

/-- The settings that have a documented default. -/
inductive Key where
  | outputDir
  | outputFile
  | unknownType
  | failurePolicy
  | maxDepth
  | banner
  deriving DecidableEq, Repr

namespace Key

-- =========================================================== defaults

/-- The default as it is written in a settings file. -/
def entry : Key → String × Toml.Value
  | outputDir => ("output_dir", .text "src/api")
  | outputFile => ("output_file", .text "types.ts")
  | unknownType => ("unknown_type", .text "any")
  | failurePolicy => ("failure_policy", .text "all-or-nothing")
  | maxDepth => ("max_depth", .integer 64)
  | banner => ("banner", .truth true)

/-- A line that writes the default. -/
def line : Key → List Char
  | outputDir => "output_dir = \"src/api\"\n".toList
  | outputFile => "output_file = \"types.ts\"\n".toList
  | unknownType => "unknown_type = \"any\"\n".toList
  | failurePolicy => "failure_policy = \"all-or-nothing\"\n".toList
  | maxDepth => "max_depth = 64\n".toList
  | banner => "banner = true\n".toList

theorem isEntry_line (key : Key) : Toml.IsEntry key.entry key.line := by
  cases key <;> exact ⟨fun _ => rfl, fun _ => rfl, fun _ => rfl⟩

/-- A default can be written out first in every text that can be read and
says nothing about its key. -/
theorem adds_line {key : Key} {text : String} {entries : List (String × Toml.Value)}
    (read : Toml.entries? text = some entries) (absent : key.entry.1 ∉ entries.map Prod.fst) :
    Toml.Adds key.entry text (Toml.putFirst key.line text) :=
  key.isEntry_line.adds read absent

/-- Settings in which the default was written. -/
def fill : Key → Config → Config
  | outputDir, config => { config with outputDir := some "src/api" }
  | outputFile, config => { config with outputFile := some "types.ts" }
  | unknownType, config => { config with unknownType := .any }
  | failurePolicy, config => { config with failurePolicy := .allOrNothing }
  | maxDepth, config => { config with maxDepth := some 64 }
  | banner, config => { config with banner := some true }

/-- Whether a setting is as it is without anything written for it. -/
def Unset : Key → Config → Prop
  | outputDir, config => config.outputDir = none
  | outputFile, config => config.outputFile = none
  | unknownType, config => config.unknownType = .any
  | failurePolicy, config => config.failurePolicy = .allOrNothing
  | maxDepth, config => config.maxDepth = none
  | banner, config => config.banner = none

theorem unset_empty (key : Key) : key.Unset {} := by
  cases key <;> rfl

-- =========================================================== one entry

theorem set?_entry (key : Key) (config : Config) :
    config.set? key.entry = some (key.fill config) := by
  cases key <;> rfl

variable {key : Key} {config config' : Config}

/-- An entry for another key does the same before and after the default is
written. -/
theorem set?_fill {entry : String × Toml.Value} (other : entry.1 ≠ key.entry.1) :
    (key.fill config).set? entry = (config.set? entry).map key.fill := by
  unfold set?
  split <;> cases key <;> first | rfl | exact absurd rfl other

/-- And it leaves the setting alone. -/
theorem unset_of_set? {entry : String × Toml.Value} (other : entry.1 ≠ key.entry.1)
    (unset : key.Unset config) (set : config.set? entry = some config') : key.Unset config' := by
  unfold set? at set
  split at set <;> cases set <;> cases key <;> first | exact unset | exact absurd rfl other

-- ========================================================= all entries

variable {entries : List (String × Toml.Value)}

theorem foldlM_fill (others : ∀ entry ∈ entries, entry.1 ≠ key.entry.1) :
    entries.foldlM set? (key.fill config) = (entries.foldlM set? config).map key.fill := by
  induction entries generalizing config with
  | nil => rfl
  | cons entry rest ih =>
    rw [List.foldlM_cons, List.foldlM_cons, set?_fill (others entry List.mem_cons_self)]
    cases config.set? entry with
    | none => rfl
    | some config => exact ih fun entry mem => others entry (List.mem_cons_of_mem _ mem)

theorem unset_of_foldlM (others : ∀ entry ∈ entries, entry.1 ≠ key.entry.1)
    (unset : key.Unset config) (read : entries.foldlM set? config = some config') :
    key.Unset config' := by
  induction entries generalizing config with
  | nil =>
    cases read
    exact unset
  | cons entry rest ih =>
    rw [List.foldlM_cons] at read
    obtain ⟨between, first, later⟩ := Option.bind_eq_some_iff.1 read
    exact ih (fun entry mem => others entry (List.mem_cons_of_mem _ mem))
      (unset_of_set? (others entry List.mem_cons_self) unset first) later

/-- One entry more, with the default of a key that has none yet, fills in
that default and changes nothing else, wherever the entry stands. -/
theorem ofEntries?_insert {before after : List (String × Toml.Value)}
    (distinct : ((before ++ key.entry :: after).map Prod.fst).Nodup) :
    ofEntries? (before ++ key.entry :: after) = (ofEntries? (before ++ after)).map key.fill
      ∧ ∀ config, ofEntries? (before ++ after) = some config → key.Unset config := by
  rw [List.map_append, List.map_cons, List.nodup_middle, List.nodup_cons, ← List.map_append]
    at distinct
  have others : ∀ entry ∈ before ++ after, entry.1 ≠ key.entry.1 := fun entry mem same =>
    distinct.1 (same ▸ List.mem_map_of_mem mem)
  refine ⟨?_, fun config read => unset_of_foldlM others key.unset_empty read⟩
  simp only [ofEntries?, List.foldlM_append, List.foldlM_cons, Option.bind_eq_bind]
  cases before.foldlM set? {} with
  | none => rfl
  | some config =>
    simp only [Option.bind_some, set?_entry]
    exact foldlM_fill fun entry mem => others entry (List.mem_append_right _ mem)

/-- A text to which a default was added gives the settings that it gave,
with the default filled in. -/
theorem ofText?_adds {text text' : String} (adds : Toml.Adds key.entry text text') :
    ofText? text' = (ofText? text).map key.fill
      ∧ ∀ config, ofText? text = some config → key.Unset config := by
  cases adds with
  | read before after old new =>
    simp only [ofText?, old, new, Option.bind_eq_bind, Option.bind_some]
    exact ofEntries?_insert (Toml.entries?_eq_some.1 new).2
  | refused old new =>
    simp only [ofText?, old, new]
    exact ⟨rfl, fun config read => nomatch read⟩

end Key

end Config

end OpenApiTypes
