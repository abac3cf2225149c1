/-
The command: it finds the settings, plans every file that it wants to have,
and then either writes the files that are not so yet or only reports them.
The plan is complete before anything is written, so a document that does not
compile or a template that cannot be read leaves all files as they were.
-/
import OpenApiTypes.Project.Config
import OpenApiTypes.Project.FileChange
import OpenApiTypes.Project.Template

namespace OpenApiTypes

/-- What the command is asked for. A path given here goes before the one in
the settings. -/
structure Request where
  config : Option String := none
  input : Option String := none
  outputDir : Option String := none
  check : Bool := false
  deriving DecidableEq, Repr

/-- What a run comes to: its exit code, what it prints, what it complains
about, and the events on the way. -/
structure Outcome where
  code : Nat := 0
  printed : String := ""
  complaint : String := ""
  events : List Event := []

namespace Generate

/-- The text of the types file for a document. -/
def typesText (options : Options) (showsBanner : Bool) (format : DocumentFormat)
    (text : String) : List Event × Except Failure String :=
  match Document.parse text format with
  | .error cause => ([], .error (.document cause))
  | .ok document =>
      let definitions := Definition.collect document
      let collected := Definition.collectEvents document
      let (compiled, types) := Compilation.tryCompile options definitions
      match types with
      | .error cause =>
          (collected ++ compiled ++ [.failed cause.message definitions.length],
            .error (.compilation cause))
      | .ok types =>
          (collected ++ compiled, .ok (if showsBanner then Template.banner ++ types else types))

/-- The settings with the paths that are asked for in place of their own. -/
def overridden (request : Request) (config : Config) : Config :=
  { config with
    input := request.input <|> config.input
    outputDir := request.outputDir <|> config.outputDir }

/-- The document of the settings, with the notation that its name tells. -/
def source (config : Config) : Except Failure (String × DocumentFormat) :=
  match config.input with
  | none => .error .noInput
  | some input =>
      match Path.extension? input with
      | none => .error (.noExtension input)
      | some ext => ((DocumentFormat.ofExtension ext).map (input, ·)).mapError .document

/-- The events about the choices that are made for the types. -/
def optionsEvents (options : Options) : List Event :=
  .options options.unknownType.keyword options.maxDepth
    :: if options.failurePolicy = .isolate then [.isolating] else []

/-- The files to be had, with their names in the output directory: the types
and then the templates. -/
def files (config : Config) (types : String) (templates : List Template) :
    List (String × String) :=
  (config.typesFile, types) :: templates.map fun t => (t.file, t.contents)

variable {m : Type → Type} [Monad m]

-- ======================================================== planning

/-- The settings that a run works with. -/
def settings (reader : Reader m) (request : Request) : Work m Config := do
  let config ←
    match request.config with
    | some path => Config.load reader path
    | none => do
        let dir ← Work.ask reader.currentDirectory .noCurrentDirectory
        Config.discover reader dir
  pure (overridden request config)

/-- The templates of the settings. -/
def templates (reader : Reader m) (config : Config) : Work m (List Template) :=
  match config.templatesDir with
  | some dir => Template.load reader dir
  | none => pure []

/-- A file of the output directory, beside what it holds now. -/
def change (reader : Reader m) (dir : String) (file : String × String) :
    Work m FileChange := do
  let path := Path.join dir file.1
  let existing ← Work.look (reader.readText path)
  pure ⟨path, file.2, existing.toOption⟩

/-- Every file that the command wants to have. -/
def plan (reader : Reader m) (request : Request) : Work m (List FileChange) := do
  let config ← settings reader request
  let (input, format) ← source config
  let templates ← templates reader config
  let text ← Work.ask (reader.readText input) (.unreadable input)
  Work.tell (.readDocument input text.utf8ByteSize :: optionsEvents config.options)
  let types ← Work.ofOutcome (typesText config.options config.showsBanner format text)
  (files config types templates).mapM (change reader config.outputDirectory)

-- ========================================================= writing

/-- Writes a file that is not as it should be. -/
def write (host : Host m) (change : FileChange) : Work m Unit := do
  if change.isStale then
    if let some parent := Path.parent? change.path then
      Work.ask (host.createDirectories parent) (.notCreated parent)
    Work.ask (host.writeText change.path change.wanted) (.notWritten change.path)
    Work.tell [.wrote change.path change.wanted.utf8ByteSize]
  else Work.tell [.unchanged change.path]

/-- Writes the files that are not as they should be, up to the first that
cannot be written. -/
def writeAll (host : Host m) (changes : List FileChange) : Work m Unit :=
  changes.forM (write host)

/-- What a run prints that only checks, and its exit code. -/
def checked (changes : List FileChange) : Nat × String :=
  match changes.filter FileChange.isStale with
  | [] => (0, "up to date\n")
  | stale => (1, String.join (stale.map FileChange.report))

/-- Does what the command is asked for, as far as it succeeds, and gives the
exit code with what is printed. -/
def work (host : Host m) (request : Request) : Work m (Nat × String) := do
  let changes ← plan host.toReader request
  if request.check then pure (checked changes)
  else
    writeAll host changes
    pure (0, "generated\n")

/-- A run of the command. -/
def run (host : Host m) (request : Request) : m Outcome := do
  match ← (work host request).outcome with
  | (events, .ok (code, printed)) => pure { code, printed, events }
  | (events, .error failure) =>
      pure { code := 1, complaint := failure.message ++ "\n", events }

end Generate

end OpenApiTypes
