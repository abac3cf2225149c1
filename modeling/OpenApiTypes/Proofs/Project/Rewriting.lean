/-
Another text in a file that is there already. Nothing else about the tree
changes, so every path leads where it led, with the same refusals on the way,
and every question but the one for that file's text has the answer it had.
-/
import OpenApiTypes.Proofs.Project.Growth

namespace OpenApiTypes

-- ============================================================== nodes

/-- A file with other bytes; a directory stays as it is. -/
def FileNode.holding (bytes : ByteArray) : FileNode → FileNode
  | file _ => file bytes
  | directory => directory

namespace Files

/-- What stands at a place, once the file at another one holds other
bytes. -/
def overwritten (place : Place) (bytes : ByteArray) (other : Place) (node : FileNode) : FileNode :=
  if other = place then node.holding bytes else node

@[simp]
theorem overwritten_directory (place : Place) (bytes : ByteArray) (other : Place) :
    overwritten place bytes other .directory = .directory :=
  ite_self _

@[simp]
theorem isFile_overwritten (place : Place) (bytes : ByteArray) (other : Place)
    (node : FileNode) : (overwritten place bytes other node).isFile = node.isFile := by
  unfold overwritten
  split
  · cases node <;> rfl
  · rfl

theorem overwritten_of_ne {place other : Place} (apart : other ≠ place) (bytes : ByteArray)
    (node : FileNode) : overwritten place bytes other node = node :=
  if_neg apart

/-- A file is overwritten by a file. -/
theorem exists_overwritten_file (place : Place) (bytes : ByteArray) (other : Place)
    (old : ByteArray) : ∃ new, overwritten place bytes other (.file old) = .file new := by
  by_cases same : other = place
  · exact ⟨bytes, if_pos same⟩
  · exact ⟨old, if_neg same⟩

/-- The tree with other bytes in the file at a place. -/
def rewrite (files : Files) (place : Place) (bytes : ByteArray) : Files :=
  { files with
    entries := files.entries.map fun (other, node) =>
      (other, overwritten place bytes other node) }

-- ============================================================== paths

variable (files : Files) (place : Place) (bytes : ByteArray)

theorem node?_rewrite (other : Place) :
    (files.rewrite place bytes).node? other
      = (files.node? other).map (overwritten place bytes other) := by
  have lookup : ∀ entries : List (Place × FileNode),
      (entries.map fun (p, node) => (p, overwritten place bytes p node)).lookup other
        = (entries.lookup other).map (overwritten place bytes other) := by
    intro entries
    induction entries with
    | nil => rfl
    | cons entry rest ih =>
      obtain ⟨key, node⟩ := entry
      simp only [List.map_cons, List.lookup_cons]
      cases same : other == key with
      | false => exact ih
      | true =>
        obtain rfl : other = key := by simpa using same
        rfl
  unfold node?
  split
  · simp
  · exact lookup files.entries

theorem enter_rewrite (other : Place) :
    (files.rewrite place bytes).enter other = files.enter other := by
  simp only [enter, node?_rewrite]
  rcases files.node? other with _ | old | _
  · rfl
  · obtain ⟨new, is⟩ := exists_overwritten_file place bytes other old
    simp only [Option.map_some, is]
  · simp only [Option.map_some, overwritten_directory]

theorem walk_rewrite (start : Place) (steps : List String) :
    (files.rewrite place bytes).walk start steps = files.walk start steps := by
  induction steps generalizing start with
  | nil => rfl
  | cons step rest ih => simp only [walk_cons, enter_rewrite, ih]

theorem locate_rewrite (path : String) :
    (files.rewrite place bytes).locate path = files.locate path := by
  have start : (files.rewrite place bytes).start path = files.start path := rfl
  simp only [locate, walk_rewrite, enter_rewrite, start]

/-- A path leads to the same place as before, or is refused for the same
cause. -/
theorem find_rewrite (path : String) :
    (files.rewrite place bytes).find path
      = (files.find path).map fun (other, node) => (other, overwritten place bytes other node) := by
  simp only [find, locate_rewrite, map_bind]
  refine bind_congr fun other => ?_
  rw [node?_rewrite]
  cases files.node? other <;> rfl

-- ========================================================== questions

/-- The files elsewhere read as before. -/
theorem readText_rewrite_of_ne {path : String} (apart : files.destination path ≠ place) :
    (files.rewrite place bytes).readText path = files.readText path := by
  have same : (files.rewrite place bytes).find path = files.find path := by
    rw [find_rewrite]
    cases found : files.find path with
    | error cause => rfl
    | ok reached =>
      obtain ⟨other, node⟩ := reached
      obtain ⟨-, rfl, -⟩ := find_eq_ok.1 found
      simp only [Except.map, overwritten_of_ne apart]
  simp only [readText, readBytes, same]

/-- The file itself reads as what was written into it. -/
theorem readText_rewrite {path old : String} (read : files.readText path = .ok old)
    (text : String) :
    (files.rewrite (files.destination path) text.toUTF8).readText path = .ok text := by
  obtain ⟨before, found, -⟩ := readText_eq_ok.1 read
  have leads : (files.rewrite (files.destination path) text.toUTF8).destination path
      = files.destination path := rfl
  refine readText_eq_ok.2 ⟨text.toUTF8, ?_, Text.fromUTF8?_eq_some.2 rfl⟩
  rw [find_rewrite, found, leads]
  simp only [Except.map, overwritten, if_true, FileNode.holding]

/-- Directories list what they listed. -/
theorem list_rewrite (path : String) :
    (files.rewrite place bytes).list path = files.list path := by
  have listing : ∀ dir, (files.rewrite place bytes).listing dir = files.listing dir := by
    intro dir
    simp only [Files.listing, rewrite, List.filterMap_map]
    refine congrArg (· ++ _) (List.filterMap_congr fun entry _ => ?_)
    simp only [Function.comp_apply, entryAt?, isFile_overwritten]
  simp only [list, find_rewrite]
  rcases files.find path with cause | ⟨dir, old | _⟩
  · rfl
  · obtain ⟨new, is⟩ := exists_overwritten_file place bytes dir old
    simp only [Except.map, bind, Except.bind, is]
  · simp only [Except.map, bind, Except.bind, overwritten_directory]
    exact congrArg Except.ok (listing dir)

end Files

end OpenApiTypes
