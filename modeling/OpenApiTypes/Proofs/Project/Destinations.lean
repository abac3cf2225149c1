/-
Where the planned files go. The names of the templates have no slash and are
distinct, since sorting puts equal names side by side and a clash is refused;
so the templates have destinations of their own. The file with the types is
named freely, and nothing compares it with them: its destination is the one
that may be taken twice, and then the template is written over the types.
-/
import OpenApiTypes.Proofs.Order.Names
import OpenApiTypes.Proofs.Project.Runs

namespace OpenApiTypes

-- ====================================================== output names

namespace Template

/-- A template is written under a name. -/
theorem Source.isName_file {source : Source} (isName : Path.IsName source.name) :
    Path.IsName source.file := by
  have slash : '/' ∉ source.stem.toList := fun mem =>
    isName.2.1 (by rw [Source.name]; simp [mem])
  have long : ∀ short : String, short.length < 3 → source.file ≠ short := by
    rintro short size same
    have ending : ".ts".length = 3 := rfl
    rw [← same, Source.file, String.length_append, ending] at size
    omega
  refine ⟨long _ (by decide), ?_, long _ (by decide), long _ (by decide)⟩
  simpa [Source.file] using slash

/-- In ascending order a name that differs from the next one does not come
again. -/
theorem file_notMem_of_differs {first second : Template} {others : List Template}
    (sorted : (first :: second :: others).Pairwise fun a b => Text.nameLE a.file b.file = true)
    (differs : first.file ≠ second.file) :
    first.file ∉ (second :: others).map Template.file := by
  obtain ⟨least, ordered⟩ := List.pairwise_cons.1 sorted
  intro mem
  obtain ⟨other, inside, same⟩ := List.mem_map.1 mem
  -- a name that comes again would have its neighbour between the two
  have between : Text.nameLE second.file other.file = true := by
    rcases List.mem_cons.1 inside with rfl | inside
    · simpa using Text.nameLE_total other.file other.file
    · exact (List.pairwise_cons.1 ordered).1 other inside
  have back : Text.nameLE second.file first.file = true := same ▸ between
  exact differs (Text.nameLE_antisymm (least second List.mem_cons_self) back)

/-- Where no two neighbours in ascending order share a name, no two templates
do. -/
theorem nodup_of_firstClash? {templates : List Template}
    (sorted : templates.Pairwise fun a b => Text.nameLE a.file b.file = true)
    (apart : firstClash? templates = none) : (templates.map Template.file).Nodup := by
  induction templates with
  | nil => exact List.nodup_nil
  | cons first rest ih =>
    cases rest with
    | nil => simp
    | cons second others =>
      unfold firstClash? at apart
      split at apart
      · cases apart
      · rename_i differs
        exact List.nodup_cons.2
          ⟨file_notMem_of_differs sorted differs, ih (List.pairwise_cons.1 sorted).2 apart⟩

/-- Templates that can be arranged have names of their own. -/
theorem nodup_of_arrange {dir : String} {templates arranged : List Template}
    (ok : arrange dir templates = .ok arranged) :
    (arranged.map Template.file).Nodup ∧ arranged.Perm templates := by
  simp only [arrange] at ok
  split at ok
  · cases ok
  · rename_i apart
    cases ok
    exact ⟨nodup_of_firstClash? (Text.pairwise_sortByName templates) apart,
      Text.sortByName_perm _ _⟩

/-- Every template that is read comes from a source in its directory. -/
theorem exists_source_of_readAll {files : Files} {dir : String} {entries : List DirectoryEntry}
    {templates : List Template} {told told' : List Event}
    (read : (readAll files.reader dir entries).result told = (.ok templates, told'))
    {template : Template} (mem : template ∈ templates) :
    ∃ source : Source, source.entry ∈ entries ∧ template.file = source.file := by
  induction entries generalizing templates told with
  | nil =>
    cases read
    cases mem
  | cons entry rest ih =>
    simp only [readAll] at read
    cases found : Source.ofListed? entry with
    | none =>
      rw [found] at read
      obtain ⟨source, inside, named⟩ := ih read mem
      exact ⟨source, List.mem_cons_of_mem _ inside, named⟩
    | some source =>
      simp only [found, Work.result_bind_eq_ok] at read
      obtain ⟨contents, between, -, others, later, readRest, made⟩ := read
      cases made
      rcases List.mem_cons.1 mem with rfl | mem
      · exact ⟨source, Source.ofListed?_eq_some.1 found ▸ List.mem_cons_self, rfl⟩
      · obtain ⟨source, inside, named⟩ := ih readRest mem
        exact ⟨source, List.mem_cons_of_mem _ inside, named⟩

/-- The templates of a directory have distinct names. -/
theorem names_of_load {files : Files} (wf : files.WellFormed) {dir : String}
    {templates : List Template} {told told' : List Event}
    (loaded : (load files.reader dir).result told = (.ok templates, told')) :
    (templates.map Template.file).Nodup ∧ ∀ template ∈ templates, Path.IsName template.file := by
  simp only [load, Work.result_bind_eq_ok, Work.result_ask_eq_ok, Work.result_lift] at loaded
  obtain ⟨entries, told₁, ⟨answer, -⟩, read, told₂, found, arranged, told₃, ordered, _, _, -,
    made⟩ := loaded
  cases made
  obtain ⟨distinct, moved⟩ := nodup_of_arrange (congrArg Prod.fst ordered)
  refine ⟨distinct, fun template mem => ?_⟩
  obtain ⟨source, inside, named⟩ := exists_source_of_readAll found (moved.mem_iff.1 mem)
  rw [named]
  exact source.isName_file (wf.isName_of_list answer inside rfl)

end Template

namespace Generate

-- ======================================================= destinations

/-- The templates of the settings have distinct names. -/
theorem names_of_templates {files : Files} (wf : files.WellFormed) {config : Config}
    {loaded : List Template} {told told' : List Event}
    (read : (templates files.reader config).result told = (.ok loaded, told')) :
    (loaded.map Template.file).Nodup ∧ ∀ template ∈ loaded, Path.IsName template.file := by
  unfold templates at read
  cases given : config.templatesDir with
  | some dir =>
    rw [given] at read
    exact Template.names_of_load wf read
  | none =>
    rw [given] at read
    cases read
    exact ⟨List.nodup_nil, fun _ mem => nomatch mem⟩

/-- What is wanted is the file with the types and then the templates, which
have distinct names. -/
theorem wanted_outputs {files : Files} (wf : files.WellFormed) {request : Request}
    {dir : String} {outputs : List (String × String)} {told : List Event}
    (found : Work.result (wanted files.reader request) [] = (.ok (dir, outputs), told)) :
    ∃ config types templates, settled files request = .ok config
      ∧ dir = config.outputDirectory ∧ outputs = (config.typesFile, types) :: templates
      ∧ (templates.map Prod.fst).Nodup ∧ ∀ file ∈ templates, Path.IsName file.1 := by
  simp only [wanted, Work.result_bind_eq_ok] at found
  obtain ⟨config, told₁, given, ⟨input, format⟩, told₂, -, loaded, told₃, read, -, -, -, -, -, -,
    types, told₄, -, made⟩ := found
  cases made
  obtain ⟨distinct, names⟩ := names_of_templates wf read
  refine ⟨config, types, loaded.map fun t => (t.file, t.contents), ?_, rfl, rfl, ?_, ?_⟩
  · rw [settled_eq, given]
  · rw [List.map_map]
    exact distinct
  · intro file mem
    obtain ⟨template, inside, rfl⟩ := List.mem_map.1 mem
    exact names template inside

/-- Files with distinct names in one directory have destinations of their
own. -/
theorem nodup_destinations (files : Files) (dir : String) {outputs : List (String × String)}
    (distinct : (outputs.map Prod.fst).Nodup) (names : ∀ file ∈ outputs, Path.IsName file.1) :
    (destinations files (outputs.map (changeIn files dir))).Nodup := by
  have places : destinations files (outputs.map (changeIn files dir))
      = (outputs.map Prod.fst).map fun name => files.destination dir ++ [name] := by
    rw [destinations, List.map_map, List.map_map]
    exact List.map_congr_left fun file mem => files.destination_join_name (names file mem) dir
  rw [places]
  refine distinct.map fun a b same => ?_
  simpa using same

/-- The planned files are the types and then the templates. The templates
have destinations of their own, in the output directory; the types have one
of their own exactly if no template has it too. Where they do, every file
holds what is planned for it after a run that ends well. -/
theorem planned_destinations {files : Files} (wf : files.WellFormed) {request : Request}
    {changes : List FileChange} (found : planned files request = .ok changes) :
    ∃ config types templates, settled files request = .ok config
      ∧ changes = types :: templates
      ∧ types.path = Path.join config.outputDirectory config.typesFile
      ∧ (∀ place ∈ destinations files templates,
          ∃ name, place = files.destination config.outputDirectory ++ [name])
      ∧ (destinations files templates).Nodup
      ∧ ((destinations files changes).Nodup ↔
          files.destination types.path ∉ destinations files templates)
      ∧ ((destinations files changes).Nodup → (writing files request).1.code = 0 →
          ∀ change ∈ changes,
            (writing files request).2.readText change.path = .ok change.wanted) := by
  obtain ⟨dir, outputs, told, reached, rfl⟩ := planned_eq_ok.1 found
  obtain ⟨config, types, others, given, rfl, rfl, distinct, names⟩ := wanted_outputs wf reached
  have apart := nodup_destinations files config.outputDirectory distinct names
  refine ⟨config, _, _, given, rfl, rfl, ?_, apart, ?_, fun single done =>
    (writing_done found done).2 single⟩
  · intro place mem
    obtain ⟨change, inside, rfl⟩ := List.mem_map.1 mem
    obtain ⟨file, listed, rfl⟩ := List.mem_map.1 inside
    exact ⟨file.1, files.destination_join_name (names file listed) _⟩
  · exact List.nodup_cons.trans (and_iff_left apart)

-- =========================================================== a sample

/-- A project in the directory `w`: a document without schemas, and one
template, whose name is chosen. -/
def sample (template : String) : Files where
  here := ["w"]
  entries :=
    [(["w"], .directory),
      (["w", "openapi.json"], .file "\x7b\x7d".toUTF8),
      (["w", "swagger-ts.toml"],
        .file "input = \"openapi.json\"\ntemplates_dir = \"t\"\n".toUTF8),
      (["w", "t"], .directory),
      (["w", "t", template], .file "export \x7b\x7d;\n".toUTF8)]

instance (name : String) : Decidable (Path.IsName name) :=
  inferInstanceAs (Decidable (_ ∧ _))

theorem wellFormed_sample {template : String} (isName : Path.IsName template) :
    (sample template).WellFormed where
  here name mem := by
    obtain rfl : name = "w" := List.mem_singleton.1 mem
    decide
  names := by
    have fixed : ∀ name ∈ ["w", "openapi.json", "swagger-ts.toml", "t"], Path.IsName name := by
      decide
    intro entry mem name inside
    simp only [sample, List.mem_cons, List.not_mem_nil, or_false] at mem
    rcases mem with rfl | rfl | rfl | rfl | rfl <;>
      simp only [List.mem_cons, List.not_mem_nil, or_false] at inside <;> grind
  parents := by
    intro entry mem
    simp only [sample, List.mem_cons, List.not_mem_nil, or_false] at mem
    rcases mem with rfl | rfl | rfl | rfl | rfl <;> rfl

/-- The files that are planned for the sample, nothing of which is there. -/
theorem planned_sample :
    planned (sample "http.ts") {} =
      .ok [⟨"src/api/types.ts", Template.banner, none⟩,
        ⟨"src/api/http.ts", "export \x7b\x7d;\n", none⟩] := by
  decide +kernel

/-- The sample has destinations of its own for its two files, and both hold
what is planned after a run. -/
theorem planned_destinations_sample :
    (sample "http.ts").WellFormed
      ∧ (writing (sample "http.ts") {}).2.readText "src/api/types.ts" = .ok Template.banner
      ∧ (writing (sample "http.ts") {}).2.readText "src/api/http.ts"
          = .ok "export \x7b\x7d;\n" := by
  have wf : (sample "http.ts").WellFormed := wellFormed_sample (by decide)
  obtain ⟨config, types, templates, -, -, -, -, -, -, holds⟩ :=
    planned_destinations wf planned_sample
  have each := holds (by decide +kernel) (by decide +kernel)
  exact ⟨wf, each _ List.mem_cons_self, each _ (List.mem_cons_of_mem _ List.mem_cons_self)⟩

/-- A template that is called like the types is written over them by a run
that ends well, and a check that follows fails. -/
theorem types_overwritten :
    (planned (sample "types.ts") {} =
        .ok [⟨"src/api/types.ts", Template.banner, none⟩,
          ⟨"src/api/types.ts", "export \x7b\x7d;\n", none⟩])
      ∧ (writing (sample "types.ts") {}).1.code = 0
      ∧ (writing (sample "types.ts") {}).2.readText "src/api/types.ts" = .ok "export \x7b\x7d;\n"
      ∧ (checking (writing (sample "types.ts") {}).2 {}).1.code = 1 := by
  decide +kernel

end Generate

end OpenApiTypes
