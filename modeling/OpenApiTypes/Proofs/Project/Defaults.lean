/-
What a default is worth that is written out in the settings file. For five of
the six keys it is worth nothing: the plan is the same with it and without
it. The output directory is the sixth. Its default stands in for a missing
path and so counts from the current directory, while a path in the file
counts from the directory of the file; so the same path written out is
another directory, unless a flag decides about it or the path of the file is
a bare name.

`planned_filled` says for every key which plan the longer file gives, in
terms of the plan of the shorter one; `default_moved` is the sixth key on a
file that lies in a directory of its own.
-/
import OpenApiTypes.Proofs.Project.Rewriting
import OpenApiTypes.Proofs.Project.Runs
import OpenApiTypes.Proofs.Project.Settings
import OpenApiTypes.Proofs.Project.Templates

namespace OpenApiTypes

-- =========================================== what a plan takes from settings

/-- Settings that mean the same for a plan. -/
structure Config.Alike (a b : Config) : Prop where
  input : a.input = b.input
  templatesDir : a.templatesDir = b.templatesDir
  options : a.options = b.options
  showsBanner : a.showsBanner = b.showsBanner
  typesFile : a.typesFile = b.typesFile
  outputDirectory : a.outputDirectory = b.outputDirectory

namespace Generate

/-- The files that some settings want in their output directory. -/
def wantedBy (reader : Reader Id) (config : Config) :
    Work Id (String × List (String × String)) := do
  let (input, format) ← source config
  let templates ← templates reader config
  let text ← Work.ask (reader.readText input) (.unreadable input)
  Work.tell (.readDocument input text.utf8ByteSize :: optionsEvents config.options)
  let types ← Work.ofOutcome (typesText config.options config.showsBanner format text)
  pure (config.outputDirectory, files config types templates)

theorem wanted_eq_wantedBy (reader : Reader Id) (request : Request) :
    wanted reader request = settings reader request >>= wantedBy reader := rfl

/-- What some settings want, beside what is there. -/
def plannedBy (files : Files) (config : Config) : Except Failure (List FileChange) :=
  ((wantedBy files.reader config).result []).1.map fun (dir, outputs) =>
    outputs.map (changeIn files dir)

/-- The directory that the paths in the settings file count from. -/
def configBase (files : Files) (request : Request) : String :=
  (Path.parent? (configPath files request)).getD "."

/-- Settings that mean the same want the same files. -/
theorem wantedBy_alike {config config' : Config} (alike : config'.Alike config)
    (reader : Reader Id) : wantedBy reader config' = wantedBy reader config := by
  have source : source config' = source config := by simp only [Generate.source, alike.input]
  have templates : templates reader config' = templates reader config := by
    simp only [Generate.templates, alike.templatesDir]
  simp only [wantedBy, source, templates, alike.options, alike.showsBanner, files,
    alike.typesFile, alike.outputDirectory]

theorem plannedBy_alike {config config' : Config} (alike : config'.Alike config)
    (files : Files) : plannedBy files config' = plannedBy files config := by
  simp only [plannedBy, wantedBy_alike alike]

-- ================================================== reading the settings

theorem result_loadConfig {files : Files} {path text : String}
    (read : files.readText path = .ok text) (told : List Event) :
    (Config.load files.reader path).result told =
      match Config.ofText? text with
      | some config => (.ok (config.resolve ((Path.parent? path).getD ".")), told)
      | none => (.error (.badConfig path), told) := by
  have answer : files.reader.readText path = .ok text := read
  simp only [Config.load, Work.result_bind, Work.result_ask, answer, Except.mapError]
  cases Config.ofText? text with
  | none => rfl
  | some config => rfl

/-- A settings file that can be read decides about the settings. -/
theorem result_settings {files : Files} {request : Request} {text : String}
    (read : files.readText (configPath files request) = .ok text) :
    (settings files.reader request).result [] =
      match Config.ofText? text with
      | some config => (.ok (overridden request (config.resolve (configBase files request))), [])
      | none => (.error (.badConfig (configPath files request)), []) := by
  cases given : request.config with
  | some path =>
    simp only [configPath, configBase, given, Option.getD_some] at read ⊢
    simp only [settings, given, Work.result_bind, result_loadConfig read]
    cases Config.ofText? text <;> rfl
  | none =>
    simp only [configPath, configBase, given, Option.getD_none] at read ⊢
    have current : files.reader.currentDirectory = .ok (Files.pathOf files.here) := rfl
    -- a file that can be read is found where it is looked for
    have found : files.reader.exists? (Path.join (Files.pathOf files.here) Config.fileName)
        = true := by
      obtain ⟨bytes, found, -⟩ := Files.readText_eq_ok.1 read
      obtain ⟨isOpen, -, present⟩ := Files.find_eq_ok.1 found
      exact Files.exists?_iff.2 ⟨isOpen, _, present⟩
    have discovered : (Config.discover files.reader (Files.pathOf files.here)).result []
        = (Config.load files.reader
            (Path.join (Files.pathOf files.here) Config.fileName)).result [] := by
      simp only [Config.discover, found]
      rfl
    simp only [settings, given, Work.result_bind, Work.result_ask, current, Except.mapError,
      discovered, result_loadConfig read]
    cases Config.ofText? text <;> rfl

/-- The plan of a tree with a settings file. -/
theorem planned_of_read {files : Files} {request : Request} {text : String}
    (read : files.readText (configPath files request) = .ok text) :
    planned files request =
      match Config.ofText? text with
      | some config =>
          plannedBy files (overridden request (config.resolve (configBase files request)))
      | none => .error (.badConfig (configPath files request)) := by
  rw [planned_eq, plan_eq_wanted, wanted_eq_wantedBy, Work.result_bind, Work.result_bind,
    result_settings read]
  cases Config.ofText? text with
  | none => rfl
  | some config =>
    simp only [plannedBy]
    match (wantedBy files.reader
      (overridden request (config.resolve (configBase files request)))).result [] with
    | (.error failure, told) => rfl
    | (.ok (dir, outputs), told) => simp only [result_mapM_change, Except.map]

/-- The settings of a tree with a settings file. -/
theorem settled_of_read {files : Files} {request : Request} {text : String}
    (read : files.readText (configPath files request) = .ok text) :
    settled files request =
      match Config.ofText? text with
      | some config => .ok (overridden request (config.resolve (configBase files request)))
      | none => .error (.badConfig (configPath files request)) := by
  rw [settled_eq, result_settings read]
  cases Config.ofText? text <;> rfl

-- ================================================ rewriting the settings

/-- Neither the document of some settings nor a template stands at a
place. -/
structure Away (files : Files) (config : Config) (place : Place) : Prop where
  document : ∀ input, config.input = some input → files.destination input ≠ place
  templates : ∀ dir, config.templatesDir = some dir →
    ∀ source : Template.Source, files.destination (Path.join dir source.name) ≠ place

/-- Nothing that planning reads beside the settings stands at a place, nor
does a file that is planned. -/
structure Unread (files : Files) (request : Request) (place : Place) : Prop where
  away : ∀ config, settled files request = .ok config → Away files config place
  outputs : ∀ changes, planned files request = .ok changes → place ∉ destinations files changes

variable {files : Files} {place : Place} {config : Config} {request : Request}
  {key : Config.Key} {text text' : String}

theorem templates_rewrite (bytes : ByteArray) (away : Away files config place) :
    templates (files.rewrite place bytes).reader config = templates files.reader config := by
  unfold templates
  cases given : config.templatesDir with
  | none => rfl
  | some dir =>
    exact Template.load_congr (files.list_rewrite place bytes dir) fun source =>
      files.readText_rewrite_of_ne place bytes (away.templates dir given source)

theorem wantedBy_rewrite (bytes : ByteArray) (away : Away files config place) :
    (wantedBy (files.rewrite place bytes).reader config).result []
      = (wantedBy files.reader config).result [] := by
  simp only [wantedBy, Work.result_bind, Work.result_lift, templates_rewrite bytes away]
  cases found : source config with
  | error failure => rfl
  | ok named =>
    obtain ⟨input, format⟩ := named
    have same : (files.rewrite place bytes).reader.readText input = files.reader.readText input :=
      files.readText_rewrite_of_ne place bytes (away.document input (input_of_source found))
    simp only [same]

/-- Another text in a file that planning does not read leaves the plan of
some settings as it is. -/
theorem plannedBy_rewrite (bytes : ByteArray) (away : Away files config place)
    (outputs : ∀ changes, plannedBy files config = .ok changes →
      place ∉ destinations files changes) :
    plannedBy (files.rewrite place bytes) config = plannedBy files config := by
  simp only [plannedBy, wantedBy_rewrite bytes away] at outputs ⊢
  generalize (wantedBy files.reader config).result [] = reached at outputs ⊢
  obtain ⟨failure | ⟨dir, wanted⟩, told⟩ := reached
  · simp only [Except.map]
  · have free : place ∉ destinations files (wanted.map (changeIn files dir)) := outputs _ rfl
    refine congrArg Except.ok (List.map_congr_left fun file mem => ?_)
    have elsewhere : files.destination (Path.join dir file.1) ≠ place := by
      intro same
      refine free (same ▸ ?_)
      exact List.mem_map.2 ⟨changeIn files dir file, List.mem_map_of_mem mem, rfl⟩
    simp only [changeIn, files.readText_rewrite_of_ne place bytes elsewhere]

-- ========================================================== the default

/-- The request that says the same as a default that is written out: for the
output directory, to put the files where the path in the settings file leads
if nothing else is asked for. The other defaults say nothing. -/
def asked (base : String) : Config.Key → Request → Request
  | .outputDir, request =>
      { request with outputDir := request.outputDir <|> some (Path.join base "src/api") }
  | _, request => request

theorem configPath_asked (files : Files) (base : String) (key : Config.Key) (request : Request) :
    configPath files (asked base key request) = configPath files request := by
  cases key <;> rfl

/-- A default that is filled in means what the request says for it. -/
theorem alike_filled (unset : key.Unset config) (base : String) (request : Request) :
    (overridden request ((key.fill config).resolve base)).Alike
      (overridden (asked base key request) (config.resolve base)) := by
  obtain ⟨asksConfig, asksInput, asksDir, check⟩ := request
  cases key <;> simp only [Config.Key.Unset] at unset <;> constructor <;>
    simp [overridden, Config.resolve, Config.Key.fill, asked, Config.options, Config.showsBanner,
      Config.typesFile, Config.outputDirectory, unset]

/-- A request that asks for the default output directory anyway means what
it means without. -/
theorem alike_asked (unset : key.Unset config) {base : String} {request : Request}
    (idle : key ≠ .outputDir ∨ request.outputDir ≠ none ∨ base = "") :
    (overridden (asked base key request) (config.resolve base)).Alike
      (overridden request (config.resolve base)) := by
  by_cases dir : key = .outputDir
  · subst dir
    have unwritten : config.outputDir = none := unset
    refine ⟨rfl, rfl, rfl, rfl, rfl, ?_⟩
    rcases idle with other | asks | rfl
    · exact absurd rfl other
    · obtain ⟨given, is⟩ := Option.ne_none_iff_exists'.1 asks
      simp [Config.outputDirectory, overridden, asked, is]
    · have plain : Path.join "" "src/api" = "src/api" := by decide
      cases request.outputDir <;>
        simp [Config.outputDirectory, overridden, asked, Config.resolve, unwritten, plain]
  · have same : asked base key request = request := by
      cases key <;> first | rfl | exact absurd rfl dir
    rw [same]
    exact ⟨rfl, rfl, rfl, rfl, rfl, rfl⟩

/-- A file that planning does not read may as well hold something else. -/
theorem plannedBy_unread (bytes : ByteArray) (settles : settled files request = .ok config)
    (plans : planned files request = plannedBy files config)
    (unread : Unread files request place) :
    plannedBy (files.rewrite place bytes) config = plannedBy files config :=
  plannedBy_rewrite bytes (unread.away config settles) fun changes is =>
    unread.outputs changes (plans.trans is)

/-- The plan after a default was written out in the settings file, while
nothing else that planning reads stands there. It is the plan for the request
that says the same: for the output directory this asks for `src/api` from the
directory of the settings file on, and for every other key it asks for
nothing. So nothing changes for the other keys, nor where a flag decides
about the directory, nor where the directory of the settings file is the
empty path. -/
theorem planned_filled (read : files.readText (configPath files request) = .ok text)
    (adds : Toml.Adds key.entry text text')
    (unread : Unread files (asked (configBase files request) key request)
      (files.destination (configPath files request))) :
    let after := files.rewrite (files.destination (configPath files request)) text'.toUTF8
    planned after request = planned files (asked (configBase files request) key request)
      ∧ (key ≠ .outputDir ∨ request.outputDir ≠ none ∨ configBase files request = "" →
          planned after request = planned files request) := by
  intro after
  set base := configBase files request with counted
  have path : configPath files (asked base key request) = configPath files request :=
    configPath_asked files base key request
  have same : configBase files (asked base key request) = base := by
    rw [configBase, path, counted, configBase]
  have readAsked : files.readText (configPath files (asked base key request)) = .ok text := by
    rwa [path]
  have readAfter : after.readText (configPath after request) = .ok text' :=
    files.readText_rewrite read text'
  have stays : configBase after request = base := rfl
  obtain ⟨filled, unset⟩ := Config.Key.ofText?_adds adds
  have plans := planned_of_read readAsked
  have settles := settled_of_read readAsked
  rw [same, path] at plans settles
  rw [planned_of_read readAfter, filled, stays, planned_of_read read, plans]
  cases found : Config.ofText? text with
  | none => exact ⟨rfl, fun _ => rfl⟩
  | some config =>
    rw [found] at plans settles
    have moved : plannedBy after (overridden request ((key.fill config).resolve base))
        = plannedBy files (overridden (asked base key request) (config.resolve base)) :=
      (plannedBy_alike (alike_filled (unset config found) base request) after).trans
        (plannedBy_unread text'.toUTF8 settles plans unread)
    refine ⟨moved, fun idle => moved.trans ?_⟩
    exact plannedBy_alike (alike_asked (unset config found) idle) files

-- =========================================================== a sample

/-- A project in the directory `w`, of which the settings and the document
are in a directory of their own. -/
def nested (settings : String) : Files where
  here := ["w"]
  entries :=
    [(["w"], .directory), (["w", "sub"], .directory),
      (["w", "sub", "openapi.json"], .file "\x7b\x7d".toUTF8),
      (["w", "sub", "swagger-ts.toml"], .file settings.toUTF8)]

/-- A run with the settings of the sample. -/
def nestedRequest : Request := { config := some "sub/swagger-ts.toml" }

/-- Settings that say nothing about the output directory. -/
def silent : String := "input = \"openapi.json\"\n"

/-- The same settings after a line with the default of the output
directory. -/
def outspoken : String := Toml.putFirst (Config.Key.outputDir).line silent

theorem adds_outspoken : Toml.Adds (Config.Key.outputDir).entry silent outspoken := by
  have read : Toml.entries? silent = some [("input", .text "openapi.json")] := by
    decide +kernel
  exact Config.Key.adds_line read (by decide)

/-- With its default written out, the output directory of the sample is the
one that a flag would ask for by the path from the settings file on. -/
theorem planned_filled_nested :
    planned ((nested silent).rewrite ["w", "sub", "swagger-ts.toml"] outspoken.toUTF8)
        nestedRequest
      = planned (nested silent) { nestedRequest with outputDir := some "sub/src/api" } := by
  have read : (nested silent).readText (configPath (nested silent) nestedRequest) = .ok silent := by
    decide +kernel
  have settles : settled (nested silent)
      (asked (configBase (nested silent) nestedRequest) .outputDir nestedRequest)
        = .ok { input := some "sub/openapi.json", outputDir := some "sub/src/api" } := by
    decide +kernel
  have plans : planned (nested silent)
      (asked (configBase (nested silent) nestedRequest) .outputDir nestedRequest)
        = .ok [⟨"sub/src/api/types.ts", Template.banner, none⟩] := by
    decide +kernel
  refine (planned_filled read adds_outspoken ⟨fun config is => ⟨?_, ?_⟩, ?_⟩).1
  · intro input named
    obtain rfl := Except.ok.inj (settles.symm.trans is)
    cases named
    decide +kernel
  · intro dir named
    obtain rfl := Except.ok.inj (settles.symm.trans is)
    cases named
  · intro changes is
    obtain rfl := Except.ok.inj (plans.symm.trans is)
    decide +kernel

/-- The default of the output directory, written out in settings that lie in
a directory of their own, moves the planned file there. -/
theorem default_moved :
    Toml.Adds (Config.Key.outputDir).entry silent outspoken
      ∧ planned (nested silent) nestedRequest
          = .ok [⟨"src/api/types.ts", Template.banner, none⟩]
      ∧ planned (nested outspoken) nestedRequest
          = .ok [⟨"sub/src/api/types.ts", Template.banner, none⟩] :=
  ⟨adds_outspoken, by decide +kernel, by decide +kernel⟩

end Generate

end OpenApiTypes
