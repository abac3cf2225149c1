/-
Where paths lead. A path is a way through directories with a place at its
end, and both can be told from its steps alone, whatever stands in the tree:
the tree only decides whether the way is open. So two trees with the same
current directory agree on every destination, and an open way stays open as
long as no directory is lost.

The parent of a path goes a part of the same way, which is why making the
directory of a file touches no place that the path of the file does not pass
through.
-/
import Mathlib.Data.List.DropRight
import OpenApiTypes.Project.Files
import OpenApiTypes.Proofs.Outcomes

namespace OpenApiTypes

-- ========================================================= segments

namespace Path

theorem segments_eq_splitOn (cs : List Char) : segments cs = cs.splitOn '/' := by
  induction cs with
  | nil => rfl
  | cons c rest ih =>
    by_cases slash : c = '/'
    · rw [segments, if_pos slash, slash, ih]
      exact (List.splitOn_append_cons_self [] rest).symm
    · cases found : rest.splitOn '/' with
      | nil => exact absurd found (List.splitOn_ne_nil '/' rest)
      | cons segment others =>
        simp [segments, slash, ih, List.splitOn_cons_eq_if_modifyHead, found]

theorem segments_ne_nil (cs : List Char) : segments cs ≠ [] := by
  rw [segments_eq_splitOn]
  exact List.splitOn_ne_nil '/' cs

/-- A slash separates the segments before it from those after it. -/
theorem segments_append_slash (cs ds : List Char) :
    segments (cs ++ '/' :: ds) = segments cs ++ segments ds := by
  simp only [segments_eq_splitOn, List.splitOn_append_cons_self]

theorem segments_of_not_mem {cs : List Char} (h : '/' ∉ cs) : segments cs = [cs] := by
  rw [segments_eq_splitOn, List.splitOn_eq_singleton h]

theorem slash_not_mem_of_mem_segments {cs segment : List Char} (h : segment ∈ segments cs) :
    '/' ∉ segment := by
  induction cs generalizing segment with
  | nil => simp_all [segments]
  | cons c rest ih =>
    simp only [segments] at h
    split at h
    · rcases List.mem_cons.1 h with rfl | h
      · exact List.not_mem_nil
      · exact ih h
    · rename_i other
      split at h
      · rename_i none
        exact absurd none (segments_ne_nil rest)
      · rename_i first others found
        rcases List.mem_cons.1 h with rfl | h
        · have inside := ih (found ▸ List.mem_cons_self)
          simpa [Ne.symm other] using inside
        · exact ih (found ▸ List.mem_cons_of_mem _ h)

theorem segments_ofSegments {parts : List (List Char)} (some : parts ≠ [])
    (clean : ∀ part ∈ parts, '/' ∉ part) : segments (ofSegments parts).toList = parts := by
  rw [segments_eq_splitOn, ofSegments, String.toList_ofList]
  exact List.splitOn_intercalate '/' clean some

/-- A path counts from the root if its first segment is empty and not its
only one. -/
theorem isAbsolute_iff (path : String) :
    isAbsolute path = true ↔
      ∃ segment others, segments path.toList = [] :: segment :: others := by
  unfold isAbsolute
  cases path.toList with
  | nil => simp [segments]
  | cons c rest =>
    obtain ⟨segment, others, found⟩ := List.exists_cons_of_ne_nil (segments_ne_nil rest)
    by_cases slash : c = '/'
    · simp [segments, slash, found]
    · simp [segments, slash, found]

/-- The segments that are not idle at the end are followed by some that
are. -/
theorem exists_trimIdle_append (parts : List (List Char)) :
    ∃ idle, parts = trimIdle parts ++ idle := by
  obtain ⟨idle, whole⟩ := List.rdropWhile_prefix isIdle parts
  exact ⟨idle, whole.symm⟩

/-- What is left of some segments ends in one that names something. -/
theorem getLast_trimIdle {parts : List (List Char)} (h : trimIdle parts ≠ []) :
    (trimIdle parts).getLast h ≠ [] := by
  intro empty
  refine List.rdropWhile_last_not isIdle parts h ?_
  change isIdle ((trimIdle parts).getLast h) = true
  simp [isIdle, empty]

/-- The parent of a path ends before one of its segments that names
something. -/
theorem parent?_eq_some {path parent : String} (h : parent? path = some parent) :
    (parent = "" ∧ ∃ first others, segments path.toList = first :: others ∧ first ≠ [])
      ∨ ∃ first above idle last others,
        segments path.toList = first :: (above ++ idle ++ last :: others) ∧ last ≠ []
          ∧ (first = [] ∧ above = [] ∧ parent = "/"
            ∨ ¬(first = [] ∧ above = []) ∧ parent = ofSegments (first :: above)) := by
  obtain ⟨first, parts, whole⟩ := List.exists_cons_of_ne_nil (segments_ne_nil path.toList)
  simp only [parent?, whole] at h
  split at h
  · split at h
    · cases h
    · rename_i named
      exact .inl ⟨(Option.some.inj h).symm, first, parts, whole, named⟩
  · rename_i kept
    right
    have named := getLast_trimIdle kept
    obtain ⟨others, trimmed⟩ := exists_trimIdle_append parts
    obtain ⟨idle, above⟩ := exists_trimIdle_append (trimIdle parts).dropLast
    refine ⟨first, trimIdle (trimIdle parts).dropLast, idle, _, others, ?_, named, ?_⟩
    · calc segments path.toList
          = first :: (trimIdle parts ++ others) := by rw [whole, ← trimmed]
        _ = first :: ((trimIdle parts).dropLast ++ [(trimIdle parts).getLast kept] ++ others) := by
          rw [List.dropLast_append_getLast]
        _ = _ := by rw [← above, List.append_assoc, List.singleton_append]
    · split at h
      · rename_i root
        exact .inl ⟨rfl, root, (Option.some.inj h).symm⟩
      · rename_i other
        exact .inr ⟨fun root => other root.1 root.2, (Option.some.inj h).symm⟩

end Path

namespace Files

-- ======================================================= destinations

/-- Where one step leads. -/
def climb (place : Place) : String → Place
  | "." => place
  | ".." => place.dropLast
  | name => place ++ [name]

/-- Where some steps lead. -/
def resolve (place : Place) (steps : List String) : Place := steps.foldl climb place

/-- The places that are left by some steps, so that there has to be a
directory at each of them. -/
def passed (place : Place) : List String → List Place
  | [] => []
  | step :: steps => place :: passed (climb place step) steps

/-- The place at the end of a path. -/
def destination (files : Files) (path : String) : Place :=
  resolve (files.start path) (steps path)

/-- The places that a path passes through before its end. -/
def way (files : Files) (path : String) : List Place :=
  passed (files.start path) (steps path)

/-- Whether a path can be followed to its end. -/
structure Open (files : Files) (path : String) : Prop where
  given : path ≠ ""
  way : ∀ place ∈ files.way path, files.node? place = some .directory
  slash : endsInSlash path = true →
    files.node? (files.destination path) = some .directory

theorem resolve_append (place : Place) (first second : List String) :
    resolve place (first ++ second) = resolve (resolve place first) second :=
  List.foldl_append

theorem passed_append (place : Place) (first second : List String) :
    passed place (first ++ second) = passed place first ++ passed (resolve place first) second := by
  induction first generalizing place with
  | nil => rfl
  | cons step rest ih => simp [passed, resolve, ih (climb place step)]

theorem enter_eq_ok {files : Files} {place result : Place} :
    files.enter place = .ok result ↔
      files.node? place = some .directory ∧ result = place := by
  unfold enter
  cases files.node? place with
  | none => simp
  | some node => cases node <;> simp [eq_comm]

theorem walk_cons (files : Files) (place : Place) (step : String) (rest : List String) :
    files.walk place (step :: rest)
      = files.enter place >>= fun place => files.walk (climb place step) rest := by
  rw [walk]
  refine bind_congr fun reached => ?_
  split <;> simp [climb, *]

/-- Walking succeeds exactly if every place on the way is a directory, and
then it ends where the steps lead. -/
theorem walk_eq_ok {files : Files} {place result : Place} {steps : List String} :
    files.walk place steps = .ok result ↔
      (∀ p ∈ passed place steps, files.node? p = some .directory)
        ∧ result = resolve place steps := by
  induction steps generalizing place with
  | nil => simp [walk, passed, resolve, eq_comm]
  | cons step rest ih =>
    rw [walk_cons, bind_eq_ok]
    simp only [enter_eq_ok, ih, passed, resolve, List.forall_mem_cons, List.foldl_cons]
    constructor
    · rintro ⟨_, ⟨directory, rfl⟩, others, ends⟩
      exact ⟨⟨directory, others⟩, ends⟩
    · rintro ⟨⟨directory, others⟩, ends⟩
      exact ⟨place, ⟨directory, rfl⟩, others, ends⟩

/-- A path is followed to its end exactly if it is open. -/
theorem locate_eq_ok {files : Files} {path : String} {place : Place} :
    files.locate path = .ok place ↔ files.Open path ∧ place = files.destination path := by
  by_cases given : path = ""
  · simp only [locate, if_pos given]
    exact ⟨fun h => (nomatch h), fun h => absurd given h.1.given⟩
  · simp only [locate, if_neg given, bind_eq_ok, walk_eq_ok]
    constructor
    · rintro ⟨_, ⟨way, rfl⟩, ends⟩
      split at ends
      · obtain ⟨directory, rfl⟩ := enter_eq_ok.1 ends
        exact ⟨⟨given, way, fun _ => directory⟩, rfl⟩
      · rename_i plain
        cases ends
        exact ⟨⟨given, way, fun slash => absurd slash plain⟩, rfl⟩
    · rintro ⟨isOpen, rfl⟩
      refine ⟨_, ⟨isOpen.way, rfl⟩, ?_⟩
      split
      · rename_i slash
        exact enter_eq_ok.2 ⟨isOpen.slash slash, rfl⟩
      · rfl

/-- A path leads to something exactly if it is open and something is at its
end. -/
theorem find_eq_ok {files : Files} {path : String} {place : Place} {node : FileNode} :
    files.find path = .ok (place, node) ↔
      files.Open path ∧ place = files.destination path ∧ files.node? place = some node := by
  unfold find
  rw [bind_eq_ok]
  simp only [locate_eq_ok]
  constructor
  · rintro ⟨_, ⟨isOpen, rfl⟩, found⟩
    split at found
    · rename_i node present
      cases found
      exact ⟨isOpen, rfl, present⟩
    · cases found
  · rintro ⟨isOpen, rfl, present⟩
    exact ⟨_, ⟨isOpen, rfl⟩, by rw [present]; rfl⟩

theorem exists?_iff {files : Files} {path : String} :
    files.exists? path = true ↔
      files.Open path ∧ ∃ node, files.node? (files.destination path) = some node := by
  unfold exists?
  cases found : files.find path with
  | error cause =>
    simp only [Except.toBool, Bool.false_eq_true, false_iff]
    rintro ⟨isOpen, node, present⟩
    rw [find_eq_ok.2 ⟨isOpen, rfl, present⟩] at found
    cases found
  | ok reached =>
    obtain ⟨place, node⟩ := reached
    obtain ⟨isOpen, rfl, present⟩ := find_eq_ok.1 found
    simpa [Except.toBool] using ⟨isOpen, _, present⟩

-- ============================================================= names

/-- The steps on both sides of a slash. -/
theorem steps_slash (before after : String) :
    steps (before ++ "/" ++ after) = steps before ++ steps after := by
  simp [steps, Path.segments_append_slash]

/-- A path that counts from where another one leads is that path's steps and
then its own. -/
theorem steps_join {base path : String} (relative : Path.isAbsolute path = false) :
    steps (Path.join base path) = steps base ++ steps path := by
  simp only [Path.join, relative, Bool.false_eq_true, if_false]
  split
  · rename_i empty
    obtain rfl : base = "" := by simpa using empty
    rfl
  · rename_i ends
    obtain ⟨before, shape⟩ := List.getLast?_eq_some_iff.1 ends
    obtain rfl : base = String.ofList before ++ "/" := String.toList_inj.1 (by simpa using shape)
    have idle : steps (String.ofList before ++ "/") = steps (String.ofList before) := by
      simpa [steps, Path.segments] using steps_slash (String.ofList before) ""
    rw [steps_slash, idle]
  · exact steps_slash base path

theorem isAbsolute_join {base path : String} (relative : Path.isAbsolute path = false) :
    Path.isAbsolute (Path.join base path) = Path.isAbsolute base := by
  simp only [Path.join, relative, Bool.false_eq_true, if_false]
  cases chars : base.toList with
  | nil =>
    obtain rfl : base = "" := by simpa using chars
    exact relative
  | cons c rest =>
    split <;> simp_all [Path.isAbsolute]

theorem destination_join (files : Files) {base path : String}
    (relative : Path.isAbsolute path = false) :
    files.destination (Path.join base path) = resolve (files.destination base) (steps path) := by
  simp only [destination, start, steps_join relative, isAbsolute_join relative, resolve_append]

end Files

/-- Whether a text can be the name of something in a directory. -/
def Path.IsName (name : String) : Prop :=
  name ≠ "" ∧ '/' ∉ name.toList ∧ name ≠ "." ∧ name ≠ ".."

namespace Files

variable {name : String}

theorem isAbsolute_of_isName (h : Path.IsName name) : Path.isAbsolute name = false := by
  by_contra absolute
  have leads : name.toList.head? = some '/' := by simpa [Path.isAbsolute] using absolute
  exact h.2.1 (List.mem_of_mem_head? leads)

theorem steps_of_isName (h : Path.IsName name) : steps name = [name] := by
  have some : name.toList ≠ [] := by simpa using h.1
  simp [steps, Path.segments_of_not_mem h.2.1, some]

theorem climb_of_isName (h : Path.IsName name) (place : Place) :
    climb place name = place ++ [name] := by
  obtain ⟨-, -, dot, dots⟩ := h
  unfold climb
  split <;> simp_all

/-- A name in a directory leads to the place of that name below it. -/
theorem destination_join_name (files : Files) (h : Path.IsName name) (dir : String) :
    files.destination (Path.join dir name) = files.destination dir ++ [name] := by
  rw [destination_join files (isAbsolute_of_isName h), steps_of_isName h]
  exact climb_of_isName h _

theorem endsInSlash_join_name (h : Path.IsName name) (base : String) :
    endsInSlash (Path.join base name) = false := by
  obtain ⟨before, last, shape⟩ := List.eq_nil_or_concat name.toList |>.resolve_left
    (by simpa using h.1)
  have other : last ≠ '/' := by
    rintro rfl
    exact h.2.1 (by simp [shape])
  simp only [Path.join, isAbsolute_of_isName h, Bool.false_eq_true, if_false]
  split <;> simp [endsInSlash, shape, other, List.getLast?_append, List.getLast?_cons]

theorem resolve_names {names : List String} (h : ∀ name ∈ names, Path.IsName name)
    (place : Place) : resolve place names = place ++ names := by
  induction names generalizing place with
  | nil => simp [resolve]
  | cons name rest ih =>
    have first : climb place name = place ++ [name] := climb_of_isName (h _ List.mem_cons_self) _
    have others := ih (fun n mem => h n (List.mem_cons_of_mem _ mem)) (place ++ [name])
    simpa [resolve, first] using others

/-- Names lead only through places above the one where they end. -/
theorem exists_of_mem_passed_names {names : List String}
    (h : ∀ name ∈ names, Path.IsName name) {place above : Place}
    (mem : above ∈ passed place names) : ∃ rest, rest ≠ [] ∧ place ++ names = above ++ rest := by
  induction names generalizing place with
  | nil => cases mem
  | cons name rest ih =>
    rcases List.mem_cons.1 mem with rfl | mem
    · exact ⟨name :: rest, List.cons_ne_nil _ _, rfl⟩
    · rw [climb_of_isName (h _ List.mem_cons_self)] at mem
      obtain ⟨below, some, same⟩ := ih (fun n inner => h n (List.mem_cons_of_mem _ inner)) mem
      exact ⟨below, some, by simpa using same⟩

/-- The steps of the path of a place are its names. -/
theorem steps_pathOf {place : Place} (h : ∀ name ∈ place, Path.IsName name) :
    steps (pathOf place) = place := by
  have joined : steps (String.join (place.map ("/" ++ ·))) = place := by
    induction place using List.reverseRecOn with
    | nil => rfl
    | append_singleton above name ih =>
      have names : ∀ name ∈ above, Path.IsName name := fun n mem => h n (by simp [mem])
      have last : Path.IsName name := h name (by simp)
      have shape : String.join ((above ++ [name]).map ("/" ++ ·))
          = String.join (above.map ("/" ++ ·)) ++ "/" ++ name := by
        apply String.toList_inj.1
        simp
      rw [shape, steps_slash, ih names, steps_of_isName last]
  unfold pathOf
  split
  · rename_i root
    rw [root]
    rfl
  · exact joined

theorem isAbsolute_pathOf (place : Place) : Path.isAbsolute (pathOf place) = true := by
  cases place with
  | nil => rfl
  | cons name rest => simp [pathOf, Path.isAbsolute]

-- =========================================================== parents

/-- The parent of a path has a part of its steps, from the same start. -/
theorem steps_parent {path parent : String} (h : Path.parent? path = some parent) :
    Path.isAbsolute parent = Path.isAbsolute path
      ∧ ∃ rest, rest ≠ [] ∧ steps path = steps parent ++ rest := by
  obtain ⟨rfl, first, others, whole, named⟩
    | ⟨first, above, idle, last, others, whole, named, shape⟩ := Path.parent?_eq_some h
  · constructor
    · rw [Bool.eq_iff_iff, Path.isAbsolute_iff, Path.isAbsolute_iff, whole]
      simp [Path.segments, named]
    · exact ⟨steps path, by simp [steps, whole, named], rfl⟩
  have clean : ∀ part ∈ first :: above, '/' ∉ part := by
    intro part mem
    have inside : part ∈ Path.segments path.toList := by
      rw [whole]
      simp only [List.mem_cons, List.mem_append] at mem ⊢
      tauto
    exact Path.slash_not_mem_of_mem_segments inside
  have parts : steps parent = ((first :: above).filter (· ≠ [])).map String.ofList := by
    rcases shape with ⟨rfl, rfl, rfl⟩ | ⟨-, rfl⟩
    · rfl
    · rw [steps, Path.segments_ofSegments (List.cons_ne_nil _ _) clean]
  constructor
  · rw [Bool.eq_iff_iff, Path.isAbsolute_iff, Path.isAbsolute_iff, whole]
    rcases shape with ⟨rfl, rfl, rfl⟩ | ⟨other, rfl⟩
    · cases idle <;> simp [Path.segments]
    · rw [Path.segments_ofSegments (List.cons_ne_nil _ _) clean]
      cases above <;> cases idle <;> simp_all
  · refine ⟨((idle ++ last :: others).filter (· ≠ [])).map String.ofList, by simp [named], ?_⟩
    rw [parts, ← List.map_append, ← List.filter_append, steps, whole]
    simp

/-- Making the parent of a path touches only places that the path passes
through. -/
theorem way_parent (files : Files) {path parent : String}
    (h : Path.parent? path = some parent) :
    files.way parent ++ [files.destination parent] ⊆ files.way path := by
  obtain ⟨absolute, rest, some, same⟩ := steps_parent h
  obtain ⟨step, rest, rfl⟩ := List.exists_cons_of_ne_nil some
  have start : files.start parent = files.start path := by simp only [Files.start, absolute]
  simp only [way, destination, start, same, passed_append, passed]
  intro place mem
  rcases List.mem_append.1 mem with mem | mem
  · exact List.mem_append_left _ mem
  · exact List.mem_append_right _ (by simp_all)

-- ======================================================== whole trees

theorem node?_eq_some {files : Files} {place : Place} {node : FileNode}
    (h : files.node? place = some node) :
    place = [] ∨ (place, node) ∈ files.entries := by
  unfold node? at h
  split at h
  · exact .inl ‹_›
  · obtain ⟨before, after, shape, -⟩ := List.lookup_eq_some_iff.1 h
    exact .inr (by simp [shape])

/-- A tree whose places are made of names and lie below directories. -/
structure WellFormed (files : Files) : Prop where
  here : ∀ name ∈ files.here, Path.IsName name
  names : ∀ entry ∈ files.entries, ∀ name ∈ entry.1, Path.IsName name
  parents : ∀ entry ∈ files.entries, files.node? entry.1.dropLast = some .directory

/-- What stands in a tree has directories above it. -/
theorem WellFormed.above {files : Files} (wf : files.WellFormed) {place rest : Place}
    {node : FileNode} (below : rest ≠ []) (present : files.node? (place ++ rest) = some node) :
    files.node? place = some .directory := by
  induction rest using List.reverseRecOn generalizing node with
  | nil => exact absurd rfl below
  | append_singleton rest name ih =>
    rcases node?_eq_some present with root | mem
    · simp at root
    · have parent : files.node? (place ++ rest) = some .directory := by
        have parent := wf.parents _ mem
        rwa [← List.append_assoc, List.dropLast_concat] at parent
      by_cases last : rest = []
      · simpa [last] using parent
      · exact ih last parent

/-- Where a name in the current directory leads. -/
theorem WellFormed.destination_here {files : Files} (wf : files.WellFormed)
    (h : Path.IsName name) :
    files.destination (Path.join (pathOf files.here) name) = files.here ++ [name] := by
  rw [destination_join_name files h]
  simp [destination, start, isAbsolute_pathOf, steps_pathOf wf.here, resolve_names wf.here]

/-- What stands in the current directory can be reached by its full path. -/
theorem WellFormed.open_here {files : Files} (wf : files.WellFormed) (h : Path.IsName name)
    {node : FileNode} (present : files.node? (files.here ++ [name]) = some node) :
    files.Open (Path.join (pathOf files.here) name) := by
  set path := Path.join (pathOf files.here) name with full
  have absolute : Path.isAbsolute path = true := by
    rw [full, isAbsolute_join (isAbsolute_of_isName h), isAbsolute_pathOf]
  have steps : steps path = files.here ++ [name] := by
    rw [full, steps_join (isAbsolute_of_isName h), steps_pathOf wf.here, steps_of_isName h]
  have names : ∀ n ∈ files.here ++ [name], Path.IsName n := by
    simpa [or_imp, forall_and] using ⟨wf.here, h⟩
  refine ⟨?_, ?_, ?_⟩
  · intro empty
    rw [empty] at absolute
    cases absolute
  · intro place mem
    simp only [way, start, absolute, if_true, steps] at mem
    obtain ⟨rest, below, same⟩ := exists_of_mem_passed_names names mem
    exact wf.above below (same ▸ present)
  · intro slash
    exact absurd slash (by simp [full, endsInSlash_join_name h])

end Files

end OpenApiTypes
