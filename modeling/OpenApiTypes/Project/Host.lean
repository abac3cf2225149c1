/-
What the command needs from its surroundings: a few questions about files
that change nothing, and two actions that do. The command is written for any
monad that can answer; it runs on a real disk as well as on a tree of files
that is a plain value.
-/

namespace OpenApiTypes

/-- Why a file operation failed. -/
inductive FileError where
  | notFound
  | alreadyExists
  | notDirectory
  | isDirectory
  | notText
  | other (text : String)
  deriving DecidableEq, Repr

/-- The cause in words. -/
def FileError.message : FileError → String
  | notFound => "No such file or directory (os error 2)"
  | alreadyExists => "File exists (os error 17)"
  | notDirectory => "Not a directory (os error 20)"
  | isDirectory => "Is a directory (os error 21)"
  | notText => "stream did not contain valid UTF-8"
  | other text => text

/-- What a directory lists: the bytes of a name, which need not be those of a
text, and whether a regular file has it. -/
structure DirectoryEntry where
  name : List UInt8
  isFile : Bool
  deriving DecidableEq, Repr

/-- The questions about files. -/
structure Reader (m : Type → Type) where
  currentDirectory : m (Except FileError String)
  exists? : String → m Bool
  readText : String → m (Except FileError String)
  list : String → m (Except FileError (List DirectoryEntry))

/-- The questions and the actions. -/
structure Host (m : Type → Type) extends Reader m where
  createDirectories : String → m (Except FileError Unit)
  writeText : String → String → m (Except FileError Unit)

end OpenApiTypes
