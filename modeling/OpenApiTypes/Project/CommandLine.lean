/-
The command line. It is read from left to right, and the first thing that
asks for a help text or cannot be understood decides what happens.
-/
import OpenApiTypes.Project.Generate

namespace OpenApiTypes

/-- What a command line asks for: the command, a text, or nothing that can
be understood. -/
inductive Command where
  | generate (request : Request)
  | show (text : String)
  | misuse
  deriving DecidableEq, Repr

namespace CommandLine

-- =========================================================== texts

/-- The version. -/
def version : String := "swagger-ts 0.4.0\n"

/-- Lines as a text. -/
def linesText (lines : List String) : String := String.join (lines.map (· ++ "\n"))

/-- The help text of the program. -/
def help : String :=
  linesText [
    "Generate TypeScript types from an OpenAPI document",
    "",
    "Usage: swagger-ts [COMMAND]",
    "",
    "Commands:",
    "  generate  Generate types.ts from an OpenAPI document",
    "  help      Print this message or the help of the given subcommand(s)",
    "",
    "Options:",
    "  -h, --help     Print help",
    "  -V, --version  Print version"]

/-- The help text of the command. -/
def generateHelp : String :=
  linesText [
    "Generate types.ts from an OpenAPI document",
    "",
    "Usage: swagger-ts generate [OPTIONS]",
    "",
    "Options:",
    "      --config <CONFIG_PATH>  Config file (defaults to ./swagger-ts.toml when present)",
    "  -i, --input <DOCUMENT>      OpenAPI document (.json, .yaml or .yml)",
    "  -o, --output-dir <DIR>      Directory receiving the generated files",
    "      --check                 Do not write anything; fail if the generated files are "
      ++ "out of date",
    "  -h, --help                  Print help"]

/-- The help text of the help. -/
def helpHelp : String :=
  linesText [
    "Print this message or the help of the given subcommand(s)",
    "",
    "Usage: swagger-ts help [COMMAND]...",
    "",
    "Arguments:",
    "  [COMMAND]...  Print help for the subcommand(s)"]

/-- What is said about a command line that cannot be understood. -/
def misuseText : String :=
  linesText [
    "error: the command line cannot be understood",
    "",
    "Usage: swagger-ts [COMMAND]",
    "",
    "For more information, try \"--help\"."]

-- ========================================================= options

/-- The options that take a path. -/
inductive PathOption where
  | config
  | input
  | outputDir
  deriving DecidableEq, Repr

/-- The request with a path for an option, which is not empty and has not
been given before. -/
def setPath? (request : Request) (option : PathOption) (path : String) :
    Option Request :=
  if path = "" then none
  else
    match option with
    | .config => if request.config.isSome then none else some { request with config := path }
    | .input => if request.input.isSome then none else some { request with input := path }
    | .outputDir =>
        if request.outputDir.isSome then none else some { request with outputDir := path }

/-- What one argument means: a path for an option, an option whose path is
the next argument, the option that only checks, the wish for help, the end
of the options, or nothing. -/
inductive Argument where
  | path (option : PathOption) (path : String)
  | pathNext (option : PathOption)
  | check
  | help
  | endOfOptions
  | unknown
  deriving DecidableEq, Repr

/-- The meaning of an option that is written with a single letter. What
follows the letter is the path, with or without an equals sign. -/
def Argument.ofLetter (option : PathOption) : List Char → Argument
  | [] => .pathNext option
  | '=' :: value => .path option (String.ofList value)
  | value => .path option (String.ofList value)

/-- The meaning of an option that is written as a word. -/
def Argument.ofWord (word : String) (value : Option String) : Argument :=
  let taking (option : PathOption) : Argument :=
    match value with
    | none => .pathNext option
    | some value => .path option value
  match word, value with
  | "config", _ => taking .config
  | "input", _ => taking .input
  | "output-dir", _ => taking .outputDir
  | "check", none => .check
  | "help", none => .help
  | _, _ => .unknown

/-- The meaning of an argument of the command. -/
def Argument.ofText (text : String) : Argument :=
  match text.toList with
  | ['-', '-'] => .endOfOptions
  | '-' :: '-' :: word =>
      Argument.ofWord (String.ofList (word.takeWhile (· ≠ '=')))
        (match word.dropWhile (· ≠ '=') with
          | [] => none
          | _ :: value => some (String.ofList value))
  | '-' :: 'i' :: value => Argument.ofLetter .input value
  | '-' :: 'o' :: value => Argument.ofLetter .outputDir value
  | '-' :: 'h' :: _ => .help
  | _ => .unknown

/-- Whether an argument is the value of the option before it: it does not
start with a hyphen, or it is nothing else. -/
def isValue (text : String) : Bool := text = "-" || text.toList.head? ≠ some '-'

/-- What the arguments after the command ask for. -/
def generate (request : Request) : List String → Command
  | [] => .generate request
  | arg :: rest =>
      match Argument.ofText arg with
      | .help => .show generateHelp
      | .unknown => .misuse
      | .endOfOptions => if rest = [] then .generate request else .misuse
      | .check => if request.check then .misuse else generate { request with check := true } rest
      | .path option path =>
          match setPath? request option path with
          | some request => generate request rest
          | none => .misuse
      | .pathNext option =>
          match rest with
          | [] => .misuse
          | path :: rest =>
              if isValue path then
                match setPath? request option path with
                | some request => generate request rest
                | none => .misuse
              else .misuse

/-- What the arguments of the program ask for. -/
def parse : List String → Command
  | [] => .show (help ++ "\n")
  | ["--"] => .show (help ++ "\n")
  | "generate" :: rest => generate {} rest
  | ["help"] => .show help
  | ["help", "generate"] => .show generateHelp
  | ["help", "help"] => .show helpHelp
  | "--help" :: _ => .show help
  | "--version" :: _ => .show version
  | arg :: _ =>
      match arg.toList with
      | '-' :: 'h' :: _ => .show help
      | '-' :: 'V' :: _ => .show version
      | _ => .misuse

/-- A run of the program. -/
def run {m : Type → Type} [Monad m] (host : Host m) (args : List String) : m Outcome :=
  match parse args with
  | .generate request => Generate.run host request
  | .show text => pure { printed := text }
  | .misuse => pure { code := 2, complaint := misuseText }

end CommandLine

end OpenApiTypes
