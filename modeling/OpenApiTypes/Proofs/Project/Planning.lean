/-
What a plan consists of. Everything but the last step of planning decides
which files are wanted and what they are to hold; the last step puts beside
each of them what its path reads now. So a plan changes only there as long
as the settings, the document and the templates stay.

`wanted_follows` is the heart of it: once a tree has grown away from those,
the same files are wanted. The settings need the most care. A run without a
settings file has looked for one in vain, and a directory that was made where
it looked would be found the next time.
-/
import OpenApiTypes.Proofs.Project.Reading

namespace OpenApiTypes

variable {m : Type → Type} [Monad m]

namespace Generate

-- ========================================================= the plan

/-- The output directory with the files that are wanted in it. -/
def wanted (reader : Reader m) (request : Request) : Work m (String × List (String × String)) := do
  let config ← settings reader request
  let (input, format) ← source config
  let templates ← templates reader config
  let text ← Work.ask (reader.readText input) (.unreadable input)
  Work.tell (.readDocument input text.utf8ByteSize :: optionsEvents config.options)
  let types ← Work.ofOutcome (typesText config.options config.showsBanner format text)
  pure (config.outputDirectory, files config types templates)

theorem plan_eq_wanted [LawfulMonad m] (reader : Reader m) (request : Request) :
    plan reader request
      = wanted reader request >>= fun (dir, outputs) => outputs.mapM (change reader dir) := by
  simp only [plan, wanted, bind_assoc, pure_bind]

/-- A wanted file beside what its path reads in a tree. -/
def changeIn (files : Files) (dir : String) (file : String × String) : FileChange :=
  let path := Path.join dir file.1
  ⟨path, file.2, (files.readText path).toOption⟩

theorem result_mapM_change (files : Files) (dir : String) (outputs : List (String × String))
    (told : List Event) :
    Work.result (outputs.mapM (change files.reader dir)) told
      = (.ok (outputs.map (changeIn files dir)), told) := by
  induction outputs with
  | nil => rfl
  | cons file rest ih =>
    have first : Work.result (change files.reader dir file) told
        = (.ok (changeIn files dir file), told) := rfl
    simp only [List.mapM_cons, Work.result_bind, first, ih]
    rfl

/-- What the files of a tree are to become. -/
def planned (files : Files) (request : Request) : Except Failure (List FileChange) :=
  ((plan Files.host.toReader request).outcome files).1.2

/-- The settings that a run works with in a tree. -/
def settled (files : Files) (request : Request) : Except Failure Config :=
  ((settings Files.host.toReader request).outcome files).1.2

theorem planned_eq (files : Files) (request : Request) :
    planned files request = (Work.result (plan files.reader request) []).1 := by
  simp only [planned, Work.outcome_eq, plan_mirrors files.host_answers request []]

theorem settled_eq (files : Files) (request : Request) :
    settled files request = (Work.result (settings files.reader request) []).1 := by
  simp only [settled, Work.outcome_eq, settings_mirrors files.host_answers request []]

/-- A plan is what is wanted, beside what is there. -/
theorem planned_eq_ok {files : Files} {request : Request} {changes : List FileChange} :
    planned files request = .ok changes ↔
      ∃ dir outputs told, Work.result (wanted files.reader request) [] = (.ok (dir, outputs), told)
        ∧ changes = outputs.map (changeIn files dir) := by
  rw [planned_eq, plan_eq_wanted, Work.result_bind]
  match Work.result (wanted files.reader request) [] with
  | (.error failure, told) => simp
  | (.ok (dir, outputs), told) => simp [result_mapM_change, eq_comm]

/-- Where the settings are looked for. -/
def configPath (files : Files) (request : Request) : String :=
  request.config.getD (Path.join (Files.pathOf files.here) Config.fileName)

end Generate

-- ==================================================== after growing

variable {made written : List Place} {before after : Files}

/-- A name in the current directory is there after growing if it was before,
unless something was made or written at its place. -/
theorem Files.Grown.exists?_here (grown : Files.Grown made written before after)
    (wf : before.WellFormed) {name : String} (isName : Path.IsName name)
    (unmade : before.here ++ [name] ∉ made) (unwritten : before.here ++ [name] ∉ written) :
    after.exists? (Path.join (Files.pathOf before.here) name)
      = before.exists? (Path.join (Files.pathOf before.here) name) := by
  have place := wf.destination_here isName
  rw [Bool.eq_iff_iff, Files.exists?_iff, Files.exists?_iff, grown.destination, place]
  constructor
  · rintro ⟨-, node, present⟩
    rcases grown.node (before.here ++ [name]) with same | ⟨mem, -⟩ | ⟨mem, -⟩
    · rw [same] at present
      exact ⟨wf.open_here isName present, node, present⟩
    · exact absurd mem unmade
    · exact absurd mem unwritten
  · rintro ⟨isOpen, node, present⟩
    exact ⟨grown.isOpen isOpen, node, grown.kept present unwritten⟩

open Work (Follows)

theorem Config.fileName_isName : Path.IsName Config.fileName := by
  simp [Path.IsName, Config.fileName]

theorem Config.load_follows (grown : Files.Grown made written before after) {path : String}
    (unwritten : before.destination path ∉ written) (told : List Event) :
    Follows told (Config.load before.reader path) (Config.load after.reader path) :=
  .bind (.ask fun _ read => grown.readText read unwritten) fun _ _ _ => .refl _

theorem Config.discover_follows (grown : Files.Grown made written before after)
    (wf : before.WellFormed)
    (unmade : before.here ++ [Config.fileName] ∉ made)
    (unwritten : before.here ++ [Config.fileName] ∉ written) (told : List Event) :
    Follows told (Config.discover before.reader (Files.pathOf before.here))
      (Config.discover after.reader (Files.pathOf before.here)) := by
  have looked : after.reader.exists? (Path.join (Files.pathOf before.here) Config.fileName)
      = before.reader.exists? (Path.join (Files.pathOf before.here) Config.fileName) :=
    grown.exists?_here wf Config.fileName_isName unmade unwritten
  simp only [Config.discover, looked]
  refine .bind (.refl _) fun existed _ _ => ?_
  cases existed with
  | true =>
    refine Config.load_follows grown ?_ _
    rwa [wf.destination_here Config.fileName_isName]
  | false => exact .refl _

/-- The settings stay as long as nothing is made or written where they are
looked for. -/
theorem Generate.settings_follows (grown : Files.Grown made written before after)
    (wf : before.WellFormed) {request : Request}
    (unmade : before.destination (Generate.configPath before request) ∉ made)
    (unwritten : before.destination (Generate.configPath before request) ∉ written)
    (told : List Event) :
    Follows told (Generate.settings before.reader request)
      (Generate.settings after.reader request) := by
  unfold Generate.settings
  cases given : request.config with
  | some path =>
    simp only [Generate.configPath, given, Option.getD_some] at unwritten
    exact .bind (Config.load_follows grown unwritten told) fun _ _ _ => .refl _
  | none =>
    simp only [Generate.configPath, given, Option.getD_none,
      wf.destination_here Config.fileName_isName] at unmade unwritten
    have current : after.reader.currentDirectory = before.reader.currentDirectory :=
      congrArg (fun here => Except.ok (Files.pathOf here)) grown.here
    rw [current]
    refine .bind (.refl _) fun dir told found => ?_
    obtain rfl : dir = Files.pathOf before.here := by
      cases found
      rfl
    exact .bind (Config.discover_follows grown wf unmade unwritten told) fun _ _ _ => .refl _

-- ========================================================= templates

/-- Only the files of a directory matter to its templates. -/
theorem Template.readAll_files (reader : Reader m) (dir : String)
    (entries : List DirectoryEntry) :
    Template.readAll reader dir (entries.filter (·.isFile))
      = Template.readAll reader dir entries := by
  induction entries with
  | nil => rfl
  | cons entry rest ih =>
    cases regular : entry.isFile with
    | true => simp only [List.filter_cons_of_pos, regular, Template.readAll, ih]
    | false =>
      have skipped : Template.Source.ofListed? entry = none := by
        simp [Template.Source.ofListed?, regular]
      rw [List.filter_cons_of_neg (by simp [regular]), ih, Template.readAll, skipped]

/-- The files that a directory lists. -/
def Template.filesOf (reader : Reader m) (dir : String) : Work m (List DirectoryEntry) := do
  let entries ← Work.ask (reader.list dir) (.noTemplates dir)
  pure (entries.filter (·.isFile))

theorem Template.load_eq_filesOf [LawfulMonad m] (reader : Reader m) (dir : String) :
    Template.load reader dir = (do
      let entries ← Template.filesOf reader dir
      let templates ← Template.arrange dir (← Template.readAll reader dir entries)
      Work.tell [.loadedTemplates dir templates.length]
      pure templates) := by
  simp only [Template.load, Template.filesOf, bind_assoc, pure_bind, Template.readAll_files]

theorem Template.result_filesOf {files : Files} {dir : String} {told told' : List Event}
    {entries : List DirectoryEntry} :
    (Template.filesOf files.reader dir).result told = (.ok entries, told') ↔
      told' = told
        ∧ ∃ listed, files.list dir = .ok listed ∧ entries = listed.filter (·.isFile) := by
  simp only [Template.filesOf, Work.result_bind_eq_ok, Work.result_ask_eq_ok]
  constructor
  · rintro ⟨listed, _, ⟨answer, rfl⟩, made⟩
    cases made
    exact ⟨rfl, listed, answer, rfl⟩
  · rintro ⟨rfl, listed, answer, rfl⟩
    exact ⟨listed, _, ⟨answer, rfl⟩, rfl⟩

/-- What a directory lists are names, as far as they are texts. -/
theorem Files.WellFormed.isName_of_list {files : Files} (wf : files.WellFormed) {path : String}
    {entries : List DirectoryEntry} (listed : files.list path = .ok entries)
    {entry : DirectoryEntry} (mem : entry ∈ entries) {name : String}
    (spelled : entry.name = Text.utf8 name) : Path.IsName name := by
  obtain ⟨-, rfl⟩ := Files.list_eq_ok.1 listed
  rcases List.mem_append.1 mem with mem | mem
  · obtain ⟨⟨place, node⟩, inside, found⟩ := List.mem_filterMap.1 mem
    simp only [Files.entryAt?] at found
    split at found
    · rename_i last isLast
      split at found
      · obtain rfl : last = name := Text.utf8_injective (by rw [← spelled, ← Option.some.inj found])
        exact wf.names _ inside _ (List.mem_of_getLast? isLast)
      · cases found
    · cases found
  · -- a stray has no text for a name
    obtain ⟨stray, -, found⟩ := List.mem_filterMap.1 mem
    unfold Files.strayAt? at found
    split at found
    · cases found
      have unspelled := stray.unspelled
      rw [Text.ofUtf8?_eq_some.2 spelled] at unspelled
      cases unspelled
    · cases found

theorem Template.readAll_follows (grown : Files.Grown made written before after) {dir : String}
    (apart : ∀ name, before.destination dir ++ [name] ∉ written)
    {entries : List DirectoryEntry}
    (names : ∀ entry ∈ entries, ∀ name, entry.name = Text.utf8 name → Path.IsName name)
    (told : List Event) :
    Follows told (Template.readAll before.reader dir entries)
      (Template.readAll after.reader dir entries) := by
  induction entries generalizing told with
  | nil => exact .refl _
  | cons entry rest ih =>
    have others := ih fun entry mem => names entry (List.mem_cons_of_mem _ mem)
    simp only [Template.readAll]
    cases found : Template.Source.ofListed? entry with
    | none => exact others told
    | some source =>
      obtain rfl := Template.Source.ofListed?_eq_some.1 found
      have isName := names _ List.mem_cons_self source.name rfl
      refine .bind (.ask fun text read => grown.readText read ?_) fun _ told' _ =>
        .bind (others told') fun _ _ _ => .refl _
      rw [before.destination_join_name isName dir]
      exact apart source.name

/-- The templates stay as long as nothing is written in their directory. -/
theorem Template.load_follows (grown : Files.Grown made written before after)
    (wf : before.WellFormed) {dir : String}
    (apart : ∀ name, before.destination dir ++ [name] ∉ written) (told : List Event) :
    Follows told (Template.load before.reader dir) (Template.load after.reader dir) := by
  simp only [Template.load_eq_filesOf]
  refine .bind ?_ fun entries told' found => .bind ?_ fun _ _ _ => .refl _
  · intro entries told' found
    obtain ⟨rfl, listed, answer, rfl⟩ := Template.result_filesOf.1 found
    obtain ⟨listed', answer', same⟩ := grown.list answer apart
    exact Template.result_filesOf.2 ⟨rfl, listed', answer', same.symm⟩
  · obtain ⟨rfl, listed, answer, rfl⟩ := Template.result_filesOf.1 found
    exact Template.readAll_follows grown apart
      (fun entry mem _ => wf.isName_of_list answer (List.mem_of_mem_filter mem)) _

-- ==================================================== what is wanted

/-- Nothing that planning reads is disturbed by growing: the settings, the
document and the templates. -/
structure Generate.Undisturbed (files : Files) (request : Request) (made written : List Place) :
    Prop where
  unmade : files.destination (configPath files request) ∉ made
  unwritten : files.destination (configPath files request) ∉ written
  input : ∀ config, settled files request = .ok config →
    ∀ input, config.input = some input → files.destination input ∉ written
  templates : ∀ config, settled files request = .ok config →
    ∀ dir, config.templatesDir = some dir → ∀ name, files.destination dir ++ [name] ∉ written

theorem Generate.input_of_source {config : Config} {input : String} {format : DocumentFormat}
    (found : Generate.source config = .ok (input, format)) : config.input = some input := by
  unfold Generate.source at found
  split at found
  · cases found
  · rename_i path named
    split at found
    · cases found
    · rename_i ext _
      cases known : DocumentFormat.ofExtension ext with
      | error cause =>
        rw [known] at found
        cases found
      | ok format =>
        rw [known] at found
        cases found
        exact named

/-- What is wanted stays as long as nothing that planning reads is
disturbed. -/
theorem Generate.wanted_follows (grown : Files.Grown made written before after)
    (wf : before.WellFormed) {request : Request}
    (undisturbed : Generate.Undisturbed before request made written) :
    Follows [] (Generate.wanted before.reader request) (Generate.wanted after.reader request) := by
  refine .bind (Generate.settings_follows grown wf undisturbed.unmade undisturbed.unwritten [])
    fun config told found => ?_
  have known : Generate.settled before request = .ok config := by
    rw [Generate.settled_eq, found]
  refine .bind (.refl _) fun (input, format) told given => ?_
  refine .bind ?_ fun templates told _ => .bind ?_ fun text told _ => .refl _
  · unfold Generate.templates
    cases given : config.templatesDir with
    | some dir =>
      exact Template.load_follows grown wf (undisturbed.templates config known dir given) _
    | none => exact .refl _
  · refine .ask fun text read => grown.readText read (undisturbed.input config known input ?_)
    rw [Work.result_lift] at given
    exact Generate.input_of_source (congrArg Prod.fst given)

end OpenApiTypes
