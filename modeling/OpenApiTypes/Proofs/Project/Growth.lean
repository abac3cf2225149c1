/-
What becomes of a tree of files while files are written. `Grown` says all of
it at once: directories may have been made at some places where nothing was,
files may have been written at others where no directory was, and nothing
else is different. It is reflexive and transitive, each action is one step of
it, and every question that does not concern a written place keeps its
answer. That is all that the rest of the development knows about the actions.
-/
import OpenApiTypes.Proofs.Project.Places

namespace OpenApiTypes.Files

-- ============================================================ putting

/-- Where no directory stands, that is not the root. -/
theorem ne_nil_of_node? {files : Files} {place : Place}
    (free : files.node? place ≠ some .directory) : place ≠ [] := by
  rintro rfl
  exact free rfl

/-- What stands at a place after something was put where no directory is. -/
theorem node?_put {files : Files} {place : Place} (free : files.node? place ≠ some .directory)
    (node : FileNode) (other : Place) :
    (files.put place node).node? other
      = if other = place then some node else files.node? other := by
  have others : ∀ entries : List (Place × FileNode), other ≠ place →
      (entries.filter (·.1 ≠ place)).lookup other = entries.lookup other := by
    intro entries apart
    induction entries with
    | nil => rfl
    | cons entry rest ih =>
      obtain ⟨key, value⟩ := entry
      by_cases replaced : key = place
      · have missed : (other == key) = false := by simpa [replaced] using apart
        rw [List.filter_cons_of_neg (by simp [replaced]), List.lookup_cons, missed, ih]
      · rw [List.filter_cons_of_pos (by simp [replaced]), List.lookup_cons, List.lookup_cons, ih]
  by_cases same : other = place
  · simp [node?, put, same, ne_nil_of_node? free]
  · have missed : (other == place) = false := by simpa using same
    simp only [node?, put, same, if_false, List.lookup_cons, missed, others _ same]

theorem entryAt?_of_ne {dir place : Place} (apart : place.dropLast ≠ dir) (node : FileNode) :
    entryAt? dir (place, node) = none := by
  simp only [entryAt?, apart, if_false]
  split <;> rfl

theorem isFile_of_entryAt? {dir place : Place} {node : FileNode} {entry : DirectoryEntry}
    (found : entryAt? dir (place, node) = some entry) : entry.isFile = node.isFile := by
  simp only [entryAt?] at found
  split at found
  · split at found
    · rw [← Option.some.inj found]
    · cases found
  · cases found

/-- The files among the entries of the directory at a place. -/
def filesAt (files : Files) (place : Place) : List DirectoryEntry :=
  (files.listing place).filter (·.isFile)

theorem list_eq_ok {files : Files} {path : String} {entries : List DirectoryEntry} :
    files.list path = .ok entries ↔
      files.find path = .ok (files.destination path, .directory)
        ∧ entries = files.listing (files.destination path) := by
  unfold list
  rw [bind_eq_ok]
  constructor
  · rintro ⟨⟨place, node⟩, found, listed⟩
    obtain ⟨-, rfl, -⟩ := find_eq_ok.1 found
    cases node with
    | file bytes => cases listed
    | directory => exact ⟨found, (Except.ok.inj listed).symm⟩
  · rintro ⟨found, rfl⟩
    exact ⟨_, found, rfl⟩

theorem readText_eq_ok {files : Files} {path text : String} :
    files.readText path = .ok text ↔
      ∃ bytes, files.find path = .ok (files.destination path, .file bytes)
        ∧ String.fromUTF8? bytes = some text := by
  unfold readText readBytes
  simp only [bind_eq_ok]
  constructor
  · rintro ⟨bytes, ⟨⟨place, node⟩, found, read⟩, decoded⟩
    obtain ⟨-, rfl, -⟩ := find_eq_ok.1 found
    cases node with
    | directory => cases read
    | file content =>
      cases read
      refine ⟨bytes, found, ?_⟩
      split at decoded
      · rename_i valid
        cases decoded
        exact valid
      · cases decoded
  · rintro ⟨bytes, found, decoded⟩
    exact ⟨bytes, ⟨_, found, rfl⟩, by rw [decoded]; rfl⟩

/-- What is put at a place stands in no other directory than the one above
it. -/
theorem listing_put_of_ne (files : Files) {place dir : Place} (apart : place.dropLast ≠ dir)
    (node : FileNode) : (files.put place node).listing dir = files.listing dir := by
  simp only [listing, put, List.filterMap_cons, entryAt?_of_ne apart, List.filterMap_filter]
  refine congrArg (· ++ _) (List.filterMap_congr fun entry _ => ?_)
  by_cases replaced : entry.1 = place
  · obtain ⟨other, old⟩ := entry
    simp [show other = place from replaced, entryAt?_of_ne apart]
  · simp [replaced]

/-- A directory that is new to its place adds no file to the one above. -/
theorem filesAt_put_directory (files : Files) {place : Place}
    (missing : files.node? place = none) (dir : Place) :
    (files.put place .directory).filesAt dir = files.filesAt dir := by
  have fresh : files.entries.filter (·.1 ≠ place) = files.entries := by
    refine List.filter_eq_self.2 fun entry mem => ?_
    unfold node? at missing
    split at missing
    · cases missing
    · have other := List.lookup_eq_none_iff.1 missing entry mem
      exact decide_eq_true (Ne.symm (by simpa using other))
  simp only [filesAt, listing, put, fresh, List.filterMap_cons]
  split
  · rfl
  · rename_i entry found
    rw [List.cons_append,
      List.filter_cons_of_neg (by simp [isFile_of_entryAt? found, FileNode.isFile])]

-- ============================================================= growth

/-- A tree that has come from another one by making directories at some
places and writing files at others. -/
structure Grown (made written : List Place) (before after : Files) : Prop where
  here : after.here = before.here
  strays : after.strays = before.strays
  node : ∀ place, after.node? place = before.node? place
    ∨ (place ∈ made ∧ before.node? place = none ∧ after.node? place = some .directory)
    ∨ (place ∈ written ∧ before.node? place ≠ some .directory
        ∧ ∃ bytes, after.node? place = some (.file bytes))
  files : ∀ dir, (∀ name, dir ++ [name] ∉ written) → after.filesAt dir = before.filesAt dir

namespace Grown

variable {made made' written written' : List Place} {before between after : Files}

theorem refl (files : Files) : Grown made written files files :=
  ⟨rfl, rfl, fun _ => .inl rfl, fun _ _ => rfl⟩

theorem mono (h : Grown made written before after) (more : made ⊆ made')
    (wider : written ⊆ written') : Grown made' written' before after where
  here := h.here
  strays := h.strays
  node place := by
    rcases h.node place with same | ⟨mem, new⟩ | ⟨mem, file⟩
    · exact .inl same
    · exact .inr (.inl ⟨more mem, new⟩)
    · exact .inr (.inr ⟨wider mem, file⟩)
  files dir apart := h.files dir fun name mem => apart name (wider mem)

theorem trans (first : Grown made written before between)
    (second : Grown made written between after) : Grown made written before after where
  here := second.here.trans first.here
  strays := second.strays.trans first.strays
  files dir apart := (second.files dir apart).trans (first.files dir apart)
  node place := by
    rcases second.node place with same | ⟨mem, missing, directory⟩ | ⟨mem, other, bytes, file⟩
    · simpa only [same] using first.node place
    · -- a directory that is made second was not there before either
      rcases first.node place with kept | ⟨-, -, new⟩ | ⟨-, -, bytes, new⟩
      · exact .inr (.inl ⟨mem, kept ▸ missing, directory⟩)
      · rw [missing] at new
        cases new
      · rw [missing] at new
        cases new
    · -- and a file that is written second does not replace a directory
      refine .inr (.inr ⟨mem, ?_, bytes, file⟩)
      rcases first.node place with kept | ⟨-, -, new⟩ | ⟨-, old, -⟩
      · exact kept ▸ other
      · exact absurd new other
      · exact old

/-- What is touched first and what is touched then is what is touched. -/
theorem append (first : Grown made written before between)
    (second : Grown made' written' between after) :
    Grown (made ++ made') (written ++ written') before after :=
  (first.mono (List.subset_append_left _ _) (List.subset_append_left _ _)).trans
    (second.mono (List.subset_append_right _ _) (List.subset_append_right _ _))

/-- No directory is lost. -/
theorem directory (h : Grown made written before after) {place : Place}
    (present : before.node? place = some .directory) :
    after.node? place = some .directory := by
  rcases h.node place with same | ⟨-, missing, -⟩ | ⟨-, other, -⟩
  · rw [same, present]
  · rw [missing] at present
    cases present
  · exact absurd present other

/-- What stands where nothing is written stays. -/
theorem kept (h : Grown made written before after) {place : Place} {node : FileNode}
    (present : before.node? place = some node) (apart : place ∉ written) :
    after.node? place = some node := by
  rcases h.node place with same | ⟨-, missing, -⟩ | ⟨mem, -⟩
  · rw [same, present]
  · rw [missing] at present
    cases present
  · exact absurd mem apart

theorem start (h : Grown made written before after) (path : String) :
    after.start path = before.start path := by
  simp only [Files.start, h.here]

theorem destination (h : Grown made written before after) (path : String) :
    after.destination path = before.destination path := by
  simp only [Files.destination, h.start]

theorem way (h : Grown made written before after) (path : String) :
    after.way path = before.way path := by
  simp only [Files.way, h.start]

/-- A path that can be followed can still be followed. -/
theorem isOpen (h : Grown made written before after) {path : String} (given : before.Open path) :
    after.Open path where
  given := given.given
  way place mem := h.directory (given.way place (h.way path ▸ mem))
  slash ends := by
    rw [h.destination]
    exact h.directory (given.slash ends)

theorem find (h : Grown made written before after) {path : String} {place : Place}
    {node : FileNode} (found : before.find path = .ok (place, node)) (apart : place ∉ written) :
    after.find path = .ok (place, node) := by
  obtain ⟨given, rfl, present⟩ := find_eq_ok.1 found
  exact find_eq_ok.2 ⟨h.isOpen given, (h.destination path).symm, h.kept present apart⟩

theorem readText (h : Grown made written before after) {path text : String}
    (read : before.readText path = .ok text) (apart : before.destination path ∉ written) :
    after.readText path = .ok text := by
  obtain ⟨bytes, found, decoded⟩ := readText_eq_ok.1 read
  refine readText_eq_ok.2 ⟨bytes, ?_, decoded⟩
  rw [h.destination]
  exact h.find found apart

/-- A directory in which nothing is written lists the same files. -/
theorem list (h : Grown made written before after) {path : String}
    {entries : List DirectoryEntry} (listed : before.list path = .ok entries)
    (apart : ∀ name, before.destination path ++ [name] ∉ written) :
    ∃ entries', after.list path = .ok entries'
      ∧ entries'.filter (·.isFile) = entries.filter (·.isFile) := by
  obtain ⟨found, rfl⟩ := list_eq_ok.1 listed
  obtain ⟨given, -, present⟩ := find_eq_ok.1 found
  refine ⟨_, list_eq_ok.2 ⟨?_, rfl⟩, ?_⟩
  · exact find_eq_ok.2 ⟨h.isOpen given, rfl, by rw [h.destination]; exact h.directory present⟩
  · rw [h.destination]
    exact h.files _ apart

end Grown

-- ============================================================ actions

theorem Grown.put_directory {files : Files} {place : Place} (missing : files.node? place = none) :
    Grown [place] [] files (files.put place .directory) where
  here := rfl
  strays := rfl
  files dir _ := filesAt_put_directory files missing dir
  node other := by
    rw [node?_put (by simp [missing])]
    split
    · rename_i same
      exact .inr (.inl ⟨by simp [same], same ▸ missing, rfl⟩)
    · exact .inl rfl

theorem Grown.put_file {files : Files} {place : Place}
    (free : files.node? place ≠ some .directory) (bytes : ByteArray) :
    Grown [] [place] files (files.put place (.file bytes)) where
  here := rfl
  strays := rfl
  files dir apart := by
    have below := ne_nil_of_node? free
    have elsewhere : place.dropLast ≠ dir := by
      rintro rfl
      exact apart (place.getLast below) (by simp [List.dropLast_append_getLast below])
    rw [filesAt, filesAt, listing_put_of_ne files elsewhere]
  node other := by
    rw [node?_put free]
    split
    · rename_i same
      exact .inr (.inr ⟨by simp [same], same ▸ free, bytes, rfl⟩)
    · exact .inl rfl

theorem createDirectory_eq_ok {files after : Files} {path : String}
    (made : files.createDirectory path = .ok after) :
    files.node? (files.destination path) = none
      ∧ after = files.put (files.destination path) .directory := by
  by_cases empty : path = ""
  · simp only [createDirectory, if_pos empty] at made
    cases made
  · simp only [createDirectory, if_neg empty, bind_eq_ok, walk_eq_ok] at made
    obtain ⟨_, ⟨-, rfl⟩, made⟩ := made
    split at made
    · cases made
    · rename_i missing
      exact ⟨missing, (Except.ok.inj made).symm⟩

/-- Making one directory touches at most its own place. -/
theorem Grown.ensureDirectory {files after : Files} {path : String}
    (made : files.ensureDirectory path = .ok after) :
    Grown [files.destination path] [] files after := by
  unfold Files.ensureDirectory at made
  split at made
  · rename_i created
    obtain ⟨missing, rfl⟩ := createDirectory_eq_ok created
    cases made
    exact .put_directory missing
  · split at made
    · cases made
      exact .refl files
    · cases made

/-- Making a directory with those above it touches at most its own place and
those that its path passes through, whether or not it succeeds. -/
theorem Grown.createWithin (depth : Nat) (files : Files) (path : String) :
    Grown (files.way path ++ [files.destination path]) [] files
      (files.createWithin depth path).1 := by
  induction depth generalizing files path with
  | zero => exact .refl files
  | succ depth ih =>
    have last : [files.destination path] ⊆ files.way path ++ [files.destination path] :=
      List.subset_append_right _ _
    unfold Files.createWithin
    split
    · exact .refl files
    · split
      · rename_i made
        exact (ensureDirectory made).mono last (List.Subset.refl _)
      · split
        · exact .refl files
        · rename_i parent above
          -- the way to the parent and its place are on the way of the path
          have up : Grown (files.way path ++ [files.destination path]) [] files
              (Files.createWithin depth files parent).1 :=
            (ih files parent).mono
              (List.Subset.trans (way_parent files above) (List.subset_append_left _ _))
              (List.Subset.refl _)
          split
          · rename_i failed
            simpa only [failed] using up
          · rename_i made
            rw [made] at up
            split
            · rename_i done
              refine up.trans ((ensureDirectory done).mono ?_ (List.Subset.refl _))
              rw [up.destination]
              exact last
            · exact up
      · exact .refl files

theorem Grown.createDirectories (files : Files) (path : String) :
    Grown (files.way path ++ [files.destination path]) [] files
      (files.createDirectories path).1 :=
  .createWithin _ files path

/-- Writing a file puts it where its path leads, if the way is open and no
directory is in its place. -/
theorem writeText_eq_ok {files after : Files} {path text : String}
    (written : files.writeText path text = .ok after) :
    files.Open path ∧ files.node? (files.destination path) ≠ some .directory
      ∧ after = files.put (files.destination path) (.file text.toUTF8) := by
  unfold writeText at written
  by_cases empty : path = ""
  · simp only [writeBytes, if_pos empty] at written
    cases written
  · by_cases slash : endsInSlash path = true
    · simp only [writeBytes, if_neg empty, slash, if_true, bind_eq_ok] at written
      obtain ⟨_, -, _, -, _, refused, -⟩ := written
      cases refused
    · simp only [writeBytes, if_neg empty, if_neg slash, bind_eq_ok, walk_eq_ok] at written
      obtain ⟨_, ⟨way, rfl⟩, written⟩ := written
      split at written
      · cases written
      · rename_i other
        exact ⟨⟨empty, way, fun ends => absurd ends slash⟩, other, (Except.ok.inj written).symm⟩

/-- A text that is written can be read back, and nothing else is touched. -/
theorem Grown.writeText {files after : Files} {path text : String}
    (written : files.writeText path text = .ok after) :
    Grown [] [files.destination path] files after ∧ after.readText path = .ok text := by
  obtain ⟨isOpen, free, rfl⟩ := writeText_eq_ok written
  have grown := Grown.put_file free text.toUTF8
  refine ⟨grown, readText_eq_ok.2 ⟨text.toUTF8, ?_, Text.fromUTF8?_eq_some.2 rfl⟩⟩
  refine find_eq_ok.2 ⟨grown.isOpen isOpen, rfl, ?_⟩
  rw [grown.destination, node?_put free, if_pos rfl]

end OpenApiTypes.Files
