/-
Why the command could not do its work. Nothing is written unless everything
that is to be written is known, so all but the last two causes leave the
files as they are.
-/
import OpenApiTypes.Compilation
import OpenApiTypes.Document.Format
import OpenApiTypes.Project.Host

namespace OpenApiTypes

/-- The causes. -/
inductive Failure where
  | noCurrentDirectory (cause : FileError)
  | unreadable (path : String) (cause : FileError)
  | badConfig (path : String)
  | noInput
  | noExtension (path : String)
  | document (cause : DocumentError)
  | compilation (cause : CompilationError)
  | noTemplates (dir : String) (cause : FileError)
  | unreadableTemplate (path : String) (cause : FileError)
  | templateClash (file dir : String)
  | notCreated (dir : String) (cause : FileError)
  | notWritten (path : String) (cause : FileError)
  deriving DecidableEq, Repr

/-- The cause in words. -/
def Failure.message : Failure → String
  | noCurrentDirectory cause => "Failed to determine current directory: " ++ cause.message
  | unreadable path cause => "Failed to read " ++ path ++ ": " ++ cause.message
  | badConfig path => "Failed to parse " ++ path
  | noInput => "No input document given; pass --input or set `input` in swagger-ts.toml"
  | noExtension path => "Cannot tell the format of " ++ path
  | document cause => cause.message
  | compilation cause =>
      cause.message ++ " (set failure_policy = \"isolate\" to keep the other definitions)"
  | noTemplates dir cause => "Failed to read templates dir " ++ dir ++ ": " ++ cause.message
  | unreadableTemplate path cause =>
      "Failed to read template " ++ path ++ ": " ++ cause.message
  | templateClash file dir =>
      "Template " ++ file ++ " exists both as .ts and .tsf in " ++ dir
  | notCreated dir cause => "Failed to create " ++ dir ++ ": " ++ cause.message
  | notWritten path cause => "Failed to write " ++ path ++ ": " ++ cause.message

end OpenApiTypes
