/-
A tree of files as a plain value, and the file operations on it. A place in
the tree is the list of names that leads there from the root. A path is
walked step by step: a dot stays, two dots go up, and every step needs a
directory to start from, so that a file on the way or a missing directory is
noticed where it stands. What has a name that is no text cannot be reached by
a path; it only shows in what its directory lists.
-/
import OpenApiTypes.Project.Host
import OpenApiTypes.Project.Path
import OpenApiTypes.Text.Utf8

namespace OpenApiTypes

/-- What stands at a place. -/
inductive FileNode where
  | file (bytes : ByteArray)
  | directory

/-- Whether it is a file. -/
def FileNode.isFile : FileNode → Bool
  | file _ => true
  | directory => false

/-- Where something stands: the names from the root on. -/
abbrev Place := List String

/-- Something in a directory under a name that is no text. -/
structure Stray where
  directory : Place
  name : List UInt8
  unspelled : Text.ofUtf8? name = none
  node : FileNode

/-- A tree of files with the directory that relative paths count from. -/
structure Files where
  here : Place
  entries : List (Place × FileNode)
  strays : List Stray := []

namespace Files

/-- What stands at a place. The root is always a directory. -/
def node? (files : Files) (place : Place) : Option FileNode :=
  if place = [] then some .directory else files.entries.lookup place

/-- Puts something at a place. -/
def put (files : Files) (place : Place) (node : FileNode) : Files :=
  { files with entries := (place, node) :: files.entries.filter (·.1 ≠ place) }

/-- Takes away what stands at a place and below it. -/
def erase (files : Files) (place : Place) : Files :=
  { files with
    entries := files.entries.filter fun (p, _) => !place.isPrefixOf p
    strays := files.strays.filter fun stray => !place.isPrefixOf stray.directory }

-- ================================================= walking a path

/-- A place, provided that it is a directory. -/
def enter (files : Files) (place : Place) : Except FileError Place :=
  match files.node? place with
  | some .directory => .ok place
  | some (.file _) => .error .notDirectory
  | none => .error .notFound

/-- The place that some steps lead to. -/
def walk (files : Files) (place : Place) : List String → Except FileError Place
  | [] => .ok place
  | step :: steps => do
      let place ← files.enter place
      match step with
      | "." => walk files place steps
      | ".." => walk files place.dropLast steps
      | name => walk files (place ++ [name]) steps

/-- Where a path starts. -/
def start (files : Files) (path : String) : Place :=
  if Path.isAbsolute path then [] else files.here

/-- The steps of a path. -/
def steps (path : String) : List String :=
  ((Path.segments path.toList).filter (· ≠ [])).map String.ofList

/-- Whether a path ends in a slash. -/
def endsInSlash (path : String) : Bool := path.toList.getLast? = some '/'

/-- The place that a path leads to. A slash at the end asks for a
directory. -/
def locate (files : Files) (path : String) : Except FileError Place := do
  if path = "" then throw .notFound
  let place ← files.walk (files.start path) (steps path)
  if endsInSlash path then files.enter place else pure place

/-- What stands where a path leads to. -/
def find (files : Files) (path : String) : Except FileError (Place × FileNode) := do
  let place ← files.locate path
  match files.node? place with
  | some node => pure (place, node)
  | none => throw .notFound

-- ================================================= questions

/-- The path of a place. -/
def pathOf (place : Place) : String :=
  if place = [] then "/" else String.join (place.map ("/" ++ ·))

/-- The bytes of the file that a path leads to. -/
def readBytes (files : Files) (path : String) : Except FileError ByteArray := do
  match ← files.find path with
  | (_, .file bytes) => pure bytes
  | (_, .directory) => throw .isDirectory

/-- The text of the file that a path leads to. -/
def readText (files : Files) (path : String) : Except FileError String := do
  match String.fromUTF8? (← files.readBytes path) with
  | some text => pure text
  | none => throw .notText

/-- Whether a path leads to something. -/
def exists? (files : Files) (path : String) : Bool := (files.find path).toBool

/-- The entry of a directory for what stands at a place, if it stands there. -/
def entryAt? (dir : Place) : Place × FileNode → Option DirectoryEntry
  | (place, node) =>
      match place.getLast? with
      | some name => if place.dropLast = dir then some ⟨Text.utf8 name, node.isFile⟩ else none
      | none => none

/-- The entry of a directory for a stray, if it stands there. -/
def strayAt? (dir : Place) (stray : Stray) : Option DirectoryEntry :=
  if stray.directory = dir then some ⟨stray.name, stray.node.isFile⟩ else none

/-- What the directory at a place lists. -/
def listing (files : Files) (dir : Place) : List DirectoryEntry :=
  files.entries.filterMap (entryAt? dir) ++ files.strays.filterMap (strayAt? dir)

/-- What the directory lists that a path leads to. -/
def list (files : Files) (path : String) : Except FileError (List DirectoryEntry) := do
  match ← files.find path with
  | (_, .file _) => throw .notDirectory
  | (place, .directory) => pure (files.listing place)

-- ================================================= actions

/-- Writes a file. A directory in its place is kept, and a slash at the end
of the path asks for one. -/
def writeBytes (files : Files) (path : String) (bytes : ByteArray) :
    Except FileError Files := do
  if path = "" then throw .notFound
  if endsInSlash path then
    let above ← files.walk (files.start path) (steps path).dropLast
    let _ ← files.enter above
    throw .isDirectory
  let place ← files.walk (files.start path) (steps path)
  match files.node? place with
  | some .directory => throw .isDirectory
  | _ => pure (files.put place (.file bytes))

/-- Writes a text to a file. -/
def writeText (files : Files) (path text : String) : Except FileError Files :=
  files.writeBytes path text.toUTF8

/-- Makes one directory. -/
def createDirectory (files : Files) (path : String) : Except FileError Files := do
  if path = "" then throw .notFound
  let place ← files.walk (files.start path) (steps path)
  match files.node? place with
  | some _ => throw .alreadyExists
  | none => pure (files.put place .directory)

/-- Whether a path leads to a directory. -/
def isDirectory (files : Files) (path : String) : Bool :=
  match files.find path with
  | .ok (_, .directory) => true
  | _ => false

/-- A directory made anew, or the one that is there already. -/
def ensureDirectory (files : Files) (path : String) : Except FileError Files :=
  match files.createDirectory path with
  | .ok files => .ok files
  | .error error => if files.isDirectory path then .ok files else .error error

/-- Makes a directory and those above it that are missing, as far as a
number of steps up. What was made before a failure stays. -/
def createWithin : Nat → Files → String → Files × Except FileError Unit
  | 0, files, _ => (files, .error .notFound)
  | depth + 1, files, path =>
      if path = "" then (files, .ok ())
      else
        match files.ensureDirectory path with
        | .ok files => (files, .ok ())
        | .error .notFound =>
            match Path.parent? path with
            | none => (files, .error .notFound)
            | some parent =>
                match createWithin depth files parent with
                | (files, .error error) => (files, .error error)
                | (files, .ok ()) =>
                    match files.ensureDirectory path with
                    | .ok files => (files, .ok ())
                    | .error error => (files, .error error)
        | .error error => (files, .error error)

/-- Makes a directory and those above it that are missing. -/
def createDirectories (files : Files) (path : String) : Files × Except FileError Unit :=
  createWithin (path.length + 1) files path

/-- The file operations as changes of the tree. -/
def host : Host (StateM Files) where
  currentDirectory files := (.ok (pathOf files.here), files)
  exists? path files := (files.exists? path, files)
  readText path files := (files.readText path, files)
  list path files := (files.list path, files)
  createDirectories path files :=
    let (files, outcome) := files.createDirectories path
    (outcome, files)
  writeText path text files :=
    match files.writeText path text with
    | .ok files => (.ok (), files)
    | .error error => (.error error, files)

end Files

end OpenApiTypes
