/-
The settings of a project, read from a file beside its documents. Every
setting may be left out. A path in the file counts from the directory of the
file, whereas the path that stands in for a missing one counts from where
the command runs.
-/
import OpenApiTypes.Project.Path
import OpenApiTypes.Project.Toml
import OpenApiTypes.Project.Work

namespace OpenApiTypes

/-- The settings as they are given. -/
structure Config where
  input : Option String := none
  outputDir : Option String := none
  outputFile : Option String := none
  templatesDir : Option String := none
  unknownType : UnknownType := .any
  failurePolicy : FailurePolicy := .allOrNothing
  maxDepth : Option Nat := none
  banner : Option Bool := none
  deriving DecidableEq, Repr

namespace Config

/-- The name under which settings are looked for. -/
def fileName : String := "swagger-ts.toml"

-- ======================================================== defaults

/-- The directory that receives the files. -/
def outputDirectory (config : Config) : String := config.outputDir.getD "src/api"

/-- The name of the file with the types. -/
def typesFile (config : Config) : String := config.outputFile.getD "types.ts"

/-- Whether the types start with a banner. -/
def showsBanner (config : Config) : Bool := config.banner.getD true

/-- The choices about the types. -/
def options (config : Config) : Options where
  unknownType := config.unknownType
  failurePolicy := config.failurePolicy
  maxDepth := config.maxDepth.getD 64

-- ========================================================= reading

/-- The settings with one more of them given. A key that is not known and a
value of the wrong kind are refused. -/
def set? (config : Config) : String × Toml.Value → Option Config
  | ("input", .text path) => some { config with input := some path }
  | ("output_dir", .text path) => some { config with outputDir := some path }
  | ("output_file", .text name) => some { config with outputFile := some name }
  | ("templates_dir", .text path) => some { config with templatesDir := some path }
  | ("unknown_type", .text "any") => some { config with unknownType := .any }
  | ("unknown_type", .text "unknown") => some { config with unknownType := .unknown }
  | ("failure_policy", .text "all-or-nothing") =>
      some { config with failurePolicy := .allOrNothing }
  | ("failure_policy", .text "isolate") => some { config with failurePolicy := .isolate }
  | ("max_depth", .integer (.ofNat depth)) => some { config with maxDepth := some depth }
  | ("banner", .truth shown) => some { config with banner := some shown }
  | _ => none

/-- The settings that a list of keys and values gives. -/
def ofEntries? (entries : List (String × Toml.Value)) : Option Config :=
  entries.foldlM set? {}

/-- The settings that a text gives. -/
def ofText? (text : String) : Option Config := do ofEntries? (← Toml.entries? text)

/-- The settings with their paths counted from a directory. -/
def resolve (base : String) (config : Config) : Config :=
  { config with
    input := config.input.map (Path.join base)
    outputDir := config.outputDir.map (Path.join base)
    templatesDir := config.templatesDir.map (Path.join base) }

variable {m : Type → Type} [Monad m]

/-- The settings in a file. -/
def load (reader : Reader m) (path : String) : Work m Config := do
  let text ← Work.ask (reader.readText path) (.unreadable path)
  match ofText? text with
  | some config => pure (config.resolve ((Path.parent? path).getD "."))
  | none => throw (.badConfig path)

/-- The settings in the file of the usual name in a directory, or those that
are chosen where there is none. -/
def discover (reader : Reader m) (dir : String) : Work m Config := do
  let path := Path.join dir fileName
  if ← Work.look (reader.exists? path) then load reader path
  else
    Work.tell [.noConfig path]
    pure {}

end Config

end OpenApiTypes
