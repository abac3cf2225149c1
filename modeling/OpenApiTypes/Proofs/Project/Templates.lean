/-
Which templates a directory has. Its sources are the regular files with one
of the two extensions after a text, and each of them becomes one template,
under the stem of its name; a stem that stands before both extensions gives
two templates one name. A name that only ends like one of a source counts for
nothing (`names_passed_over`): its stem is no text, or there is none.

`load_readable` says what loading comes to for every directory that can be
read, however it is listed. The order of the entries cannot show: with the
names put in order, equal names are neighbours, so the first clash is the
least name that is taken twice (`firstClash?_eq_some`), and where there is
none the names alone settle the order.
-/
import Mathlib.Data.List.Duplicate
import OpenApiTypes.Proofs.Project.Destinations

namespace OpenApiTypes

open Text (nameLE compareNames)

namespace Template

-- =========================================================== sources

namespace Source

/-- No two sources are listed alike. -/
theorem entry_injective : Function.Injective entry := fun _ _ same =>
  Option.some.inj ((ofListed?_entry _).symm.trans (ofListed?_eq_some.2 same))

/-- The sources among some entries, in the order of the entries. -/
def among (entries : List DirectoryEntry) : List Source := entries.filterMap ofListed?

theorem mem_among {entries : List DirectoryEntry} {source : Source} :
    source ∈ among entries ↔ source.entry ∈ entries := by
  simp only [among, List.mem_filterMap, ofListed?_eq_some]
  exact ⟨fun ⟨entry, mem, same⟩ => same ▸ mem, fun mem => ⟨_, mem, rfl⟩⟩

theorem nodup_among {entries : List DirectoryEntry}
    (distinct : (entries.map DirectoryEntry.name).Nodup) : (among entries).Nodup := by
  refine (List.Nodup.of_map _ distinct).filterMap fun a b source inA inB => ?_
  rw [Option.mem_def, ofListed?_eq_some] at inA inB
  rw [inA, inB]

/-- An entry that is a source: a regular file whose name has a text before
its last dot, and one of the two extensions after it. -/
structure Listed (entry : DirectoryEntry) : Prop where
  regular : entry.isFile = true
  parts : ∃ stem ext : String,
    Path.cutAtLast '.'.toUInt8 entry.name = (Text.utf8 stem, some (Text.utf8 ext))
      ∧ (ext = "ts" ∨ ext = "tsf")

theorem listed_iff {entry : DirectoryEntry} :
    Listed entry ↔ ∃ source : Source, source.entry = entry := by
  constructor
  · rintro ⟨regular, stem, ext, cut, known⟩
    obtain ⟨some, -, whole⟩ := Path.cutAtLast_eq_some.1 cut
    have named : stem ≠ "" := by
      rintro rfl
      exact some rfl
    refine ⟨⟨stem, ext, named, known⟩, ?_⟩
    rw [Source.entry, utf8_name, ← whole, ← regular]
  · rintro ⟨source, rfl⟩
    exact ⟨rfl, _, _, source.cut_name, source.known⟩

/-- The template that a source becomes, with what each name holds. -/
def template (text : String → String) (source : Source) : Template :=
  ⟨source.file, text source.name⟩

end Source

-- =========================================================== reading

/-- A directory that can be read: it lists its entries, each with a name of
its own, and every source among them holds a text. -/
structure Readable (reader : Reader Id) (dir : String) (entries : List DirectoryEntry)
    (text : String → String) : Prop where
  listed : reader.list dir = .ok entries
  distinct : (entries.map DirectoryEntry.name).Nodup
  texts : ∀ source : Source, source.entry ∈ entries →
    reader.readText (Path.join dir source.name) = .ok (text source.name)

variable {reader : Reader Id} {dir : String} {entries : List DirectoryEntry}
  {text : String → String}

/-- Reading gives a template for each source, and nothing for anything
else. -/
theorem result_readAll
    (texts : ∀ source : Source, source.entry ∈ entries →
      reader.readText (Path.join dir source.name) = .ok (text source.name))
    (told : List Event) :
    (readAll reader dir entries).result told
      = (.ok ((Source.among entries).map (Source.template text)), told) := by
  induction entries with
  | nil => rfl
  | cons entry rest ih =>
    have others := ih fun source mem => texts source (List.mem_cons_of_mem _ mem)
    cases found : Source.ofListed? entry with
    | none => simp only [readAll, found, others, Source.among, List.filterMap_cons_none found]
    | some source =>
      obtain rfl := Source.ofListed?_eq_some.1 found
      have answer := texts source List.mem_cons_self
      simp only [readAll, found, Work.result_bind, Work.result_ask, answer, Except.mapError, others]
      simp only [Source.among, List.filterMap_cons_some found]
      rfl

/-- What is loaded depends on what the directory lists and on what its
sources hold. -/
theorem load_congr {reader' : Reader Id} (listed : reader'.list dir = reader.list dir)
    (texts : ∀ source : Source, reader'.readText (Path.join dir source.name)
      = reader.readText (Path.join dir source.name)) : load reader' dir = load reader dir := by
  have read : ∀ entries, readAll reader' dir entries = readAll reader dir entries := by
    intro entries
    induction entries with
    | nil => rfl
    | cons entry rest ih =>
      simp only [readAll]
      cases Source.ofListed? entry with
      | none => exact ih
      | some source => simp only [texts, ih]
  simp only [load, listed, read]

/-- Loading is arranging what the sources hold. -/
theorem result_load (readable : Readable reader dir entries text) (told : List Event) :
    (load reader dir).result told =
      match arrange dir ((Source.among entries).map (Source.template text)) with
      | .ok templates => (.ok templates, told ++ [.loadedTemplates dir templates.length])
      | .error failure => (.error failure, told) := by
  simp only [load, Work.result_bind, Work.result_ask, readable.listed, Except.mapError,
    result_readAll readable.texts, Work.result_lift]
  cases arrange dir ((Source.among entries).map (Source.template text)) with
  | error failure => rfl
  | ok templates => rfl

/-- Where no entry is a source, nothing is loaded. -/
theorem result_load_of_among_eq_nil (listed : reader.list dir = .ok entries)
    (none : Source.among entries = []) (told : List Event) :
    (load reader dir).result told = (.ok [], told ++ [.loadedTemplates dir 0]) := by
  have absent : ∀ source : Source, source.entry ∈ entries →
      reader.readText (Path.join dir source.name) = .ok (id source.name) := by
    intro source mem
    rw [← Source.mem_among, none] at mem
    cases mem
  have arranged : arrange dir [] = .ok [] := by simp [arrange, Text.sortByName, firstClash?]
  simp only [load, Work.result_bind, Work.result_ask, listed, Except.mapError,
    result_readAll absent, none, List.map_nil, Work.result_lift, arranged]
  rfl

-- ============================================================ clashes

/-- In ascending order the first clash is a name that is taken twice, and the
least of these. -/
theorem firstClash?_eq_some {templates : List Template} {file : String}
    (sorted : templates.Pairwise fun a b => nameLE a.file b.file = true)
    (clash : firstClash? templates = some file) :
    List.Duplicate file (templates.map Template.file)
      ∧ ∀ other, List.Duplicate other (templates.map Template.file) →
          nameLE file other = true := by
  induction templates with
  | nil => cases clash
  | cons first rest ih =>
    cases rest with
    | nil => cases clash
    | cons second others =>
      obtain ⟨least, ordered⟩ := List.pairwise_cons.1 sorted
      unfold firstClash? at clash
      split at clash
      · rename_i same
        cases clash
        refine ⟨List.Mem.duplicate_cons_self (by simp [same]), fun other twice => ?_⟩
        obtain ⟨template, mem, rfl⟩ := List.mem_map.1 twice.mem
        rcases List.mem_cons.1 mem with rfl | inside
        · simpa using Text.nameLE_total template.file template.file
        · exact least template inside
      · rename_i differs
        obtain ⟨twice, smallest⟩ := ih ordered clash
        refine ⟨twice.duplicate_cons _, fun other again => ?_⟩
        rcases List.duplicate_cons_iff.1 again with ⟨rfl, mem⟩ | again
        · exact absurd mem (file_notMem_of_differs sorted differs)
        · exact smallest other again

/-- A stem that stands before both extensions among the files of a
directory. -/
structure Contested (entries : List DirectoryEntry) (stem : String) : Prop where
  named : stem ≠ ""
  ts : ⟨Text.utf8 (stem ++ ".ts"), true⟩ ∈ entries
  tsf : ⟨Text.utf8 (stem ++ ".tsf"), true⟩ ∈ entries

/-- What two items have in common comes twice among what all have. -/
theorem duplicate_map_of_ne {α β : Type} {f : α → β} {items : List α} {a b : α}
    (inA : a ∈ items) (inB : b ∈ items) (differ : a ≠ b) (same : f a = f b) :
    List.Duplicate (f a) (items.map f) := by
  obtain ⟨before, after, rfl⟩ := List.append_of_mem inA
  rw [List.map_append, List.map_cons]
  rcases List.mem_append.1 inB with early | late
  · have first : f a ∈ before.map f := same ▸ List.mem_map_of_mem early
    exact List.duplicate_iff_sublist.2
      ((List.singleton_sublist.2 first).append (List.singleton_sublist.2 List.mem_cons_self))
  · rcases List.mem_cons.1 late with rfl | late
    · exact absurd rfl differ
    · have again : f a ∈ after.map f := same ▸ List.mem_map_of_mem late
      exact (List.Mem.duplicate_cons_self again).mono_sublist (List.sublist_append_right _ _)

/-- A name is taken twice exactly if its stem is contested. -/
theorem duplicate_file_iff (distinct : (entries.map DirectoryEntry.name).Nodup) {file : String} :
    List.Duplicate file ((Source.among entries).map Source.file)
      ↔ ∃ stem, file = stem ++ ".ts" ∧ Contested entries stem := by
  have listed_ts {source : Source} (ts : source.extension = "ts") :
      source ∈ Source.among entries ↔ ⟨Text.utf8 (source.stem ++ ".ts"), true⟩ ∈ entries := by
    simp [Source.mem_among, Source.entry, Source.name, ts, String.append_assoc]
  have listed_tsf {source : Source} (tsf : source.extension = "tsf") :
      source ∈ Source.among entries ↔ ⟨Text.utf8 (source.stem ++ ".tsf"), true⟩ ∈ entries := by
    simp [Source.mem_among, Source.entry, Source.name, tsf, String.append_assoc]
  constructor
  · intro twice
    obtain ⟨pair, inside, whole⟩ := List.sublist_map_iff.1 (List.duplicate_iff_sublist.1 twice)
    have size : pair.length = 2 := by rw [← List.length_map Source.file, ← whole]; rfl
    obtain ⟨a, b, rfl⟩ := List.length_eq_two.1 size
    obtain ⟨rfl, same⟩ : file = a.file ∧ file = b.file := by simpa using whole
    have differ : a ≠ b := by simpa using inside.nodup (Source.nodup_among distinct)
    have stems : a.stem = b.stem := by simpa [Source.file] using same
    have inA : a ∈ Source.among entries := inside.subset (by simp)
    have inB : b ∈ Source.among entries := inside.subset (by simp)
    refine ⟨a.stem, rfl, ?_⟩
    rcases a.known with tsA | tsfA <;> rcases b.known with tsB | tsfB
    · exact absurd (Source.ext stems (tsA.trans tsB.symm)) differ
    · exact ⟨a.named, (listed_ts tsA).1 inA, stems ▸ (listed_tsf tsfB).1 inB⟩
    · exact ⟨a.named, stems ▸ (listed_ts tsB).1 inB, (listed_tsf tsfA).1 inA⟩
    · exact absurd (Source.ext stems (tsfA.trans tsfB.symm)) differ
  · rintro ⟨stem, rfl, named, ts, tsf⟩
    let short : Source := ⟨stem, "ts", named, .inl rfl⟩
    let long : Source := ⟨stem, "tsf", named, .inr rfl⟩
    have inShort : short ∈ Source.among entries := (listed_ts rfl).2 ts
    have inLong : long ∈ Source.among entries := (listed_tsf rfl).2 tsf
    have same : short.file = long.file := rfl
    exact duplicate_map_of_ne inShort inLong (by simp [short, long]) same

-- ============================================================ loading

/-- No stem is contested exactly if the templates have distinct names. -/
theorem uncontested_iff (distinct : (entries.map DirectoryEntry.name).Nodup) :
    (∀ stem, ¬Contested entries stem) ↔ ((Source.among entries).map Source.file).Nodup := by
  rw [List.nodup_iff_forall_not_duplicate]
  constructor
  · intro uncontested file twice
    obtain ⟨stem, -, contested⟩ := (duplicate_file_iff distinct).1 twice
    exact uncontested stem contested
  · intro single stem contested
    exact single _ ((duplicate_file_iff distinct).2 ⟨stem, rfl, contested⟩)

/-- Sorting templates is sorting their sources. -/
theorem sortByName_sources (text : String → String) (sources : List Source) :
    Text.sortByName Template.file (sources.map (Source.template text))
      = (Text.sortByName Source.file sources).map (Source.template text) := by
  unfold Text.sortByName
  exact (List.map_mergeSort (f := Source.template text) fun _ _ _ _ => rfl).symm

/-- The templates of some entries are refused for the least contested stem,
or else they are its sources in ascending order. -/
theorem arrange_sources (dir : String) (text : String → String)
    (distinct : (entries.map DirectoryEntry.name).Nodup) :
    (∃ stem, Contested entries stem
        ∧ (∀ other, Contested entries other → nameLE (stem ++ ".ts") (other ++ ".ts") = true)
        ∧ arrange dir ((Source.among entries).map (Source.template text))
            = .error (.templateClash (stem ++ ".ts") dir))
      ∨ (∀ stem, ¬Contested entries stem)
        ∧ arrange dir ((Source.among entries).map (Source.template text))
            = .ok ((Text.sortByName Source.file (Source.among entries)).map
                (Source.template text)) := by
  have twice_iff : ∀ file, List.Duplicate file
      ((Text.sortByName Template.file
        ((Source.among entries).map (Source.template text))).map Template.file)
      ↔ ∃ stem, file = stem ++ ".ts" ∧ Contested entries stem := by
    intro file
    rw [← duplicate_file_iff distinct, List.duplicate_iff_two_le_count,
      List.duplicate_iff_two_le_count, ((Text.sortByName_perm _ _).map Template.file).count_eq,
      List.map_map]
    rfl
  have sorted : (Text.sortByName Template.file
      ((Source.among entries).map (Source.template text))).Pairwise fun a b =>
        nameLE a.file b.file = true := Text.pairwise_sortByName _
  simp only [arrange]
  cases clash : firstClash?
      (Text.sortByName Template.file ((Source.among entries).map (Source.template text))) with
  | some file =>
    obtain ⟨twice, least⟩ := firstClash?_eq_some sorted clash
    obtain ⟨stem, rfl, contested⟩ := (twice_iff file).1 twice
    exact .inl ⟨stem, contested,
      fun other again => least _ ((twice_iff _).2 ⟨other, rfl, again⟩), rfl⟩
  | none =>
    have apart := nodup_of_firstClash? sorted clash
    refine .inr ⟨fun stem contested => ?_, by rw [sortByName_sources]⟩
    exact ((twice_iff _).2 ⟨stem, rfl, contested⟩).not_nodup apart

/-- The order in which a directory lists its entries does not matter to what
is arranged from them. -/
theorem arrange_perm {entries' : List DirectoryEntry}
    (distinct : (entries.map DirectoryEntry.name).Nodup) (moved : entries'.Perm entries) :
    arrange dir ((Source.among entries').map (Source.template text))
      = arrange dir ((Source.among entries).map (Source.template text)) := by
  have distinct' : (entries'.map DirectoryEntry.name).Nodup :=
    ((moved.map DirectoryEntry.name).nodup_iff).2 distinct
  have alike : ∀ stem, Contested entries' stem ↔ Contested entries stem := fun stem =>
    ⟨fun ⟨named, ts, tsf⟩ => ⟨named, moved.mem_iff.1 ts, moved.mem_iff.1 tsf⟩,
      fun ⟨named, ts, tsf⟩ => ⟨named, moved.mem_iff.2 ts, moved.mem_iff.2 tsf⟩⟩
  rcases arrange_sources dir text distinct' with ⟨stem', in', least', is'⟩ | ⟨none', is'⟩ <;>
    rcases arrange_sources dir text distinct with ⟨stem, inside, least, is⟩ | ⟨none, is⟩
  · have same : stem' ++ ".ts" = stem ++ ".ts" :=
      Text.nameLE_antisymm (least' stem ((alike stem).2 inside)) (least stem' ((alike stem').1 in'))
    rw [is', is, same]
  · exact absurd ((alike stem').1 in') (none stem')
  · exact absurd ((alike stem).2 inside) (none' stem)
  · have sources : (Source.among entries').Perm (Source.among entries) :=
      moved.filterMap Source.ofListed?
    rw [is', is, Text.sortByName_eq_of_perm ((uncontested_iff distinct').1 none') sources]

/-- What loading the templates of a directory comes to. If some stem stands
before both extensions, the clash of the least such name is reported. If none
does, there is one template for each source, with what the file holds, in
strictly ascending order; nothing else is loaded. How the directory is listed
does not matter. -/
theorem load_readable (readable : Readable reader dir entries text) (told : List Event) :
    ((∃ stem, Contested entries stem
          ∧ (∀ other, Contested entries other → nameLE (stem ++ ".ts") (other ++ ".ts") = true)
          ∧ (load reader dir).result told = (.error (.templateClash (stem ++ ".ts") dir), told))
        ∨ (∀ stem, ¬Contested entries stem)
          ∧ ∃ sources : List Source, (sources.map Source.entry).Nodup
            ∧ (∀ source, source ∈ sources ↔ source.entry ∈ entries)
            ∧ (∀ entry ∈ entries, Source.Listed entry ↔ entry ∈ sources.map Source.entry)
            ∧ (sources.Pairwise fun a b => compareNames a.file b.file = .lt)
            ∧ (load reader dir).result told
              = (.ok (sources.map fun source => ⟨source.file, text source.name⟩),
                told ++ [.loadedTemplates dir sources.length]))
      ∧ ∀ (reader' : Reader Id) (entries' : List DirectoryEntry), entries'.Perm entries →
          Readable reader' dir entries' text →
          (load reader' dir).result told = (load reader dir).result told := by
  refine ⟨?_, fun reader' entries' moved readable' => ?_⟩
  · rw [result_load readable]
    rcases arrange_sources dir text readable.distinct with ⟨stem, inside, least, is⟩ | ⟨none, is⟩
    · exact .inl ⟨stem, inside, least, by rw [is]⟩
    · have moved := Text.sortByName_perm Source.file (Source.among entries)
      have whole : ∀ source, source ∈ Text.sortByName Source.file (Source.among entries)
          ↔ source.entry ∈ entries := fun source => moved.mem_iff.trans Source.mem_among
      refine .inr ⟨none, Text.sortByName Source.file (Source.among entries), ?_, whole, ?_, ?_, ?_⟩
      · exact (moved.nodup_iff.2 (Source.nodup_among readable.distinct)).map
          Source.entry_injective
      · intro entry mem
        rw [Source.listed_iff, List.mem_map]
        constructor
        · rintro ⟨source, rfl⟩
          exact ⟨source, (whole source).2 mem, rfl⟩
        · rintro ⟨source, -, same⟩
          exact ⟨source, same⟩
      · exact Text.pairwise_lt_sortByName ((uncontested_iff readable.distinct).1 none)
      · simp only [is, List.length_map]
        rfl
  · rw [result_load readable, result_load readable', arrange_perm readable.distinct moved]

/-- A directory `t` with chosen contents. -/
def shelf (contents : List (String × FileNode)) (strays : List Stray) : Files where
  here := ["w"]
  entries :=
    (["w"], .directory) :: (["w", "t"], .directory)
      :: contents.map fun (name, node) => (["w", "t", name], node)
  strays := strays

/-- A file with a text in it, under a name that ends like the name of a
template and begins with a byte that no text has. -/
def garbled : Stray where
  directory := ["w", "t"]
  name := 0xFF :: Text.utf8 ".ts"
  unspelled := by decide +kernel
  node := .file "5".toUTF8

/-- Two templates, one of them with a dotted stem, a directory that is called
like a template, a name without an extension and one that is all extension. -/
def mixed : List (String × FileNode) :=
  [("b.tsf", .file "2".toUTF8), ("a.d.ts", .file "1".toUTF8), ("c.ts", .directory),
    ("README", .file "3".toUTF8), (".ts", .file "4".toUTF8)]

/-- What a directory lists for a text. -/
def spelled (name : String) (isFile : Bool) : DirectoryEntry := ⟨Text.utf8 name, isFile⟩

/-- What the mixed directory lists besides a stray. -/
def mixedEntries : List DirectoryEntry :=
  [spelled "b.tsf" true, spelled "a.d.ts" true, spelled "c.ts" false, spelled "README" true,
    spelled ".ts" true]

def mixedText (name : String) : String := if name = "b.tsf" then "2" else "1"

theorem readable_mixed (order : List (String × FileNode)) (entries : List DirectoryEntry)
    (listed : (shelf order [garbled]).list "t" = .ok entries)
    (distinct : (entries.map DirectoryEntry.name).Nodup)
    (texts : ∀ source ∈ Source.among entries,
      (shelf order [garbled]).readText (Path.join "t" source.name)
        = .ok (mixedText source.name)) :
    Readable (shelf order [garbled]).reader "t" entries mixedText :=
  ⟨listed, distinct, fun source mem => texts source (Source.mem_among.2 mem)⟩

/-- The mixed directory with a stray gives the same two templates in either
order. -/
theorem load_readable_mixed :
    ∃ templates told,
      (load (shelf mixed [garbled]).reader "t").result [] = (.ok templates, told)
        ∧ (load (shelf mixed.reverse [garbled]).reader "t").result [] = (.ok templates, told)
        ∧ templates.length = 2 ∧ ⟨"a.d.ts", "1"⟩ ∈ templates ∧ ⟨"b.ts", "2"⟩ ∈ templates := by
  have readable : Readable (shelf mixed [garbled]).reader "t"
      (mixedEntries ++ [⟨garbled.name, true⟩]) mixedText :=
    readable_mixed _ _ (by decide +kernel) (by decide) (by decide +kernel)
  have turned : Readable (shelf mixed.reverse [garbled]).reader "t"
      (mixedEntries.reverse ++ [⟨garbled.name, true⟩]) mixedText :=
    readable_mixed _ _ (by decide +kernel) (by decide) (by decide +kernel)
  have uncontested := (uncontested_iff readable.distinct).2 (by decide +kernel)
  obtain ⟨came, same⟩ := load_readable readable []
  rcases came with ⟨stem, contested, -⟩ | ⟨-, sources, single, listed, -, -, loaded⟩
  · exact absurd contested (uncontested stem)
  · have moved : sources.Perm (Source.among (mixedEntries ++ [⟨garbled.name, true⟩])) :=
      (List.perm_ext_iff_of_nodup (single.of_map _) (Source.nodup_among readable.distinct)).2
        fun source => (listed source).trans Source.mem_among.symm
    have contents := moved.map fun source => Template.mk source.file (mixedText source.name)
    have order := (List.reverse_perm mixedEntries).append_right [⟨garbled.name, true⟩]
    refine ⟨_, _, loaded, (same _ _ order turned).trans loaded, ?_, ?_, ?_⟩
    · rw [contents.length_eq]
      decide +kernel
    · exact contents.mem_iff.2 (by decide +kernel)
    · exact contents.mem_iff.2 (by decide +kernel)

/-- Two files with nothing before the extensions that they seem to have. -/
def stemless : List (String × FileNode) :=
  [("" ++ ".ts", .file "a".toUTF8), ("" ++ ".tsf", .file "b".toUTF8)]

/-- Two directories with files that end in `.ts` and give no template. In the
first the only entry is such a file, with a text in it, and what stands before
its extension is no text. In the second nothing stands before `.ts` and
`.tsf`: these are names without an extension, so they do not clash either. -/
theorem names_passed_over :
    ((shelf [] [garbled]).list "t" = .ok [⟨garbled.name, true⟩]
        ∧ Path.cutAtLast '.'.toUInt8 garbled.name = ([0xFF], some (Text.utf8 "ts"))
        ∧ garbled.node = .file "5".toUTF8
        ∧ (load (shelf [] [garbled]).reader "t").result [] = (.ok [], [.loadedTemplates "t" 0]))
      ∧ (shelf stemless []).list "t"
          = .ok [spelled ("" ++ ".ts") true, spelled ("" ++ ".tsf") true]
        ∧ (load (shelf stemless []).reader "t").result []
          = (.ok [], [.loadedTemplates "t" 0]) := by
  have garbledListed : (shelf [] [garbled]).list "t" = .ok [⟨garbled.name, true⟩] := by
    decide +kernel
  have stemlessListed : (shelf stemless []).list "t"
      = .ok [spelled ("" ++ ".ts") true, spelled ("" ++ ".tsf") true] := by
    decide +kernel
  refine ⟨⟨garbledListed, by decide, rfl, ?_⟩, stemlessListed, ?_⟩
  · exact result_load_of_among_eq_nil garbledListed (by decide +kernel) []
  · exact result_load_of_among_eq_nil stemlessListed (by decide +kernel) []

end Template

end OpenApiTypes
