/-
The program: the command on the files of the disk, with the events that the
environment asks for.
-/
import OpenApiTypes.LogFilter
import OpenApiTypes.Project.CommandLine

namespace OpenApiTypes.Disk

/-- The cause of a failed file operation. -/
def causeOf : IO.Error → FileError
  | .noFileOrDirectory .. => .notFound
  | .alreadyExists .. => .alreadyExists
  | .inappropriateType _ 20 _ => .notDirectory
  | .inappropriateType _ 21 _ => .isDirectory
  | error => .other (toString error)

/-- An operation with its failure as a value. -/
def attempt {α : Type} (action : IO α) : IO (Except FileError α) := do
  match ← action.toBaseIO with
  | .ok value => pure (.ok value)
  | .error error => pure (.error (causeOf error))

/-- The text of a file. -/
def readText (path : String) : IO (Except FileError String) := do
  match ← attempt (IO.FS.readBinFile path) with
  | .error cause => pure (.error cause)
  | .ok bytes =>
      match String.fromUTF8? bytes with
      | some text => pure (.ok text)
      | none => pure (.error .notText)

/-- What a directory lists. A name that is no text is given with other
characters in it, and no file is found under those. -/
def list (path : String) : IO (Except FileError (List DirectoryEntry)) :=
  attempt do
    let dir := (← IO.currentDir) / path
    (← dir.readDir).toList.mapM fun entry => do
      match ← entry.path.metadata.toBaseIO with
      | .ok found => pure ⟨Text.utf8 entry.fileName, found.type matches .file⟩
      | .error _ => pure ⟨Text.utf8 entry.fileName, false⟩

/-- The file operations of the disk. -/
def host : Host IO where
  currentDirectory := attempt do pure (← IO.currentDir).toString
  exists? path := do ((← IO.currentDir) / path).pathExists
  readText := readText
  list := list
  createDirectories path := attempt do IO.FS.createDirAll ((← IO.currentDir) / path)
  writeText path text := attempt (IO.FS.writeFile path text)

end OpenApiTypes.Disk

open OpenApiTypes

def main (args : List String) : IO UInt32 := do
  let filter := LogFilter.ofSetting (← IO.getEnv "SWAGGER_TS_LOG")
  let outcome ← CommandLine.run Disk.host args
  for event in outcome.events do
    if filter.shows event then IO.eprintln event.line
  IO.eprint outcome.complaint
  IO.print outcome.printed
  return outcome.code.toUInt32
