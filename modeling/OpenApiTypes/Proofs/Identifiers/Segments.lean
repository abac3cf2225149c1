/-
What the name of a type depends on. A text is separators and, between them,
runs of identifier characters, none of which reaches up to the next
(`Runs`); every text has exactly one list of runs, and these are its segments
(`runs_iff`). So wherever separators stand, before the first run, after the
last or several between two, the name is the same.

A name can be made in one pass over the parts between separators, where it
must not count which part is the first: parts can be empty, and the run that
is kept as it stands is the first that is not. A pass that has not met a run
yet has made nothing, and that is how it tells (`joinParts_split`).
-/
import OpenApiTypes.Proofs.Emission.Characters
import OpenApiTypes.Proofs.Identifiers.TypeNames

namespace OpenApiTypes.Identifier

-- ============================================================ runs

/-- The maximal runs of identifier characters in a text, in order. -/
inductive Runs : List Char → List (List Char) → Prop where
  | none {cs : List Char} (separators : ∀ c ∈ cs, isPart c = false) : Runs cs []
  | run {before run rest : List Char} {runs : List (List Char)}
      (separators : ∀ c ∈ before, isPart c = false) (filled : run ≠ [])
      (parts : ∀ c ∈ run, isPart c = true)
      (ends : ∀ c, rest.head? = some c → isPart c = false) (others : Runs rest runs) :
      Runs (before ++ run ++ rest) (run :: runs)

/-- A separator in front changes no run. -/
theorem Runs.separator {c : Char} {cs : List Char} {runs : List (List Char)}
    (separator : isPart c = false) (others : Runs cs runs) : Runs (c :: cs) runs := by
  cases others with
  | none separators => exact .none (List.forall_mem_cons.2 ⟨separator, separators⟩)
  | @run before run rest runs separators filled parts ends others =>
      have whole : Runs ((c :: before) ++ run ++ rest) (run :: runs) :=
        .run (List.forall_mem_cons.2 ⟨separator, separators⟩) filled parts ends others
      exact whole

/-- A text can start with a run. -/
theorem Runs.leading {run rest : List Char} {runs : List (List Char)} (filled : run ≠ [])
    (parts : ∀ c ∈ run, isPart c = true) (ends : ∀ c, rest.head? = some c → isPart c = false)
    (others : Runs rest runs) : Runs (run ++ rest) (run :: runs) := by
  have whole : Runs ([] ++ run ++ rest) (run :: runs) := .run (by simp) filled parts ends others
  rwa [List.nil_append] at whole

/-- An identifier character in front of another one joins the first run. -/
theorem Runs.part {c next : Char} {cs segment : List Char} {runs : List (List Char)}
    (part : isPart c = true) (nextPart : isPart next = true)
    (others : Runs (next :: cs) (segment :: runs)) :
    Runs (c :: next :: cs) ((c :: segment) :: runs) := by
  generalize whole : next :: cs = text at others ⊢
  cases others with
  | @run before _ rest _ separators filled parts ends others =>
      cases before with
      | cons d before =>
          obtain ⟨rfl, -⟩ := List.cons.inj whole
          rw [separators next List.mem_cons_self] at nextPart
          cases nextPart
      | nil =>
          exact .leading (List.cons_ne_nil _ _) (List.forall_mem_cons.2 ⟨part, parts⟩) ends others

/-- A text without runs is separators. -/
theorem Runs.separators_of_nil {cs : List Char} (h : Runs cs []) : ∀ c ∈ cs, isPart c = false := by
  cases h with
  | none separators => exact separators

/-- The segments of a text are its runs. -/
theorem runs_segments (cs : List Char) : Runs cs (segments cs) := by
  -- A character that no other one follows in its run is a run.
  have single {c : Char} {rest : List Char} {runs : List (List Char)} (part : isPart c = true)
      (ends : ∀ d, rest.head? = some d → isPart d = false) (others : Runs rest runs) :
      Runs ([c] ++ rest) ([c] :: runs) :=
    .leading (List.cons_ne_nil _ _) (List.forall_mem_singleton.2 part) ends others
  fun_induction segments cs with
  | case1 => exact .none (by simp)
  | case2 c part => exact single part (by simp) (.none (by simp))
  | case3 c part next rest nextPart noMore ih =>
      rw [noMore] at ih
      rw [ih.separators_of_nil next List.mem_cons_self] at nextPart
      cases nextPart
  | case4 c part next rest nextPart segment others more ih =>
      rw [more] at ih ⊢
      exact ih.part part nextPart
  | case5 c part next rest noPart ih => exact single part (by simpa using noPart) ih
  | case6 c rest noPart ih => exact ih.separator (by simpa using noPart)

-- =========================================================== parts

/-- The parts of a text between its separators, empty ones with them. -/
def split (cs : List Char) : List (List Char) := cs.splitOnP fun c => ! isPart c

theorem split_separator {c : Char} (separator : isPart c = false) (before cs : List Char) :
    split (before ++ c :: cs) = split before ++ split cs :=
  List.splitOnP_append_cons before cs (by rw [separator]; rfl)

theorem filter_split_separators (before rest : List Char)
    (separators : ∀ c ∈ before, isPart c = false) :
    (split (before ++ rest)).filter (· ≠ []) = (split rest).filter (· ≠ []) := by
  induction before with
  | nil => rfl
  | cons c before ih =>
      obtain ⟨separator, separators⟩ := List.forall_mem_cons.1 separators
      have cut := split_separator separator [] (before ++ rest)
      rw [List.cons_append, ← List.nil_append (c :: _), cut, List.filter_append, ih separators]
      rfl

theorem split_run {run : List Char} (parts : ∀ c ∈ run, isPart c = true) : split run = [run] :=
  List.splitOnP_eq_singleton fun c mem => by rw [parts c mem]; rfl

/-- The parts that are not empty are the runs. -/
theorem Runs.filter_split {cs : List Char} {runs : List (List Char)} (h : Runs cs runs) :
    (split cs).filter (· ≠ []) = runs := by
  induction h with
  | @none cs separators =>
      have all := filter_split_separators cs [] separators
      rw [List.append_nil] at all
      rw [all]
      rfl
  | @run before run rest runs separators filled parts ends others ih =>
      rw [List.append_assoc, filter_split_separators before _ separators]
      -- A run ends with the text or at a separator, where the text is cut.
      cases rest with
      | nil =>
          rw [List.append_nil, split_run parts, ← ih]
          simp [filled, split]
      | cons d rest =>
          have separator := ends d rfl
          have cut := filter_split_separators [d] rest (List.forall_mem_singleton.2 separator)
          rw [split_separator separator, split_run parts, List.filter_append, ← ih, ← cut]
          simp [filled]

theorem filter_split (cs : List Char) : (split cs).filter (· ≠ []) = segments cs :=
  (runs_segments cs).filter_split

/-- A text has one list of runs, its segments. -/
theorem runs_iff {cs : List Char} {runs : List (List Char)} :
    Runs cs runs ↔ runs = segments cs := by
  constructor
  · intro h
    rw [← h.filter_split, filter_split]
  · intro same
    rw [same]
    exact runs_segments cs

-- ======================================================== one pass

/-- What one more part, of the given number, makes of a name. -/
def addPart (name : List Char) (part : List Char × Nat) : List Char :=
  if part.1 = [] then name
  else if part.2 = 0 ∨ name = [] then name ++ part.1
  else name ++ capitalize part.1

/-- The name that is made of parts in one pass. -/
def joinParts (parts : List (List Char)) : List Char := parts.zipIdx.foldl addPart []

/-- Once a name has begun, every part that is not empty is capitalized. -/
theorem foldl_addPart {name : List Char} (begun : name ≠ []) (parts : List (List Char))
    (number : Nat) :
    (parts.zipIdx (number + 1)).foldl addPart name
      = name ++ (parts.filter (· ≠ [])).flatMap capitalize := by
  induction parts generalizing name number with
  | nil => simp
  | cons part parts ih =>
      rw [List.zipIdx_cons, List.foldl_cons]
      by_cases empty : part = []
      · have skipped : addPart name (part, number + 1) = name := if_pos empty
        rw [skipped, ih begun, List.filter_cons_of_neg (by simpa using empty)]
      · have added : addPart name (part, number + 1) = name ++ capitalize part := by
          simp [addPart, empty, begun]
        rw [added, ih (by simp [begun]), List.filter_cons_of_pos (by simpa using empty),
          List.flatMap_cons, List.append_assoc]

/-- The first part that is not empty stands as it is, whatever its number. -/
theorem foldl_addPart_nil (parts : List (List Char)) (number : Nat) :
    (parts.zipIdx number).foldl addPart [] = joinSegments (parts.filter (· ≠ [])) := by
  induction parts generalizing number with
  | nil => rfl
  | cons part parts ih =>
      rw [List.zipIdx_cons, List.foldl_cons]
      by_cases empty : part = []
      · have skipped : addPart [] (part, number) = [] := if_pos empty
        rw [skipped, ih, List.filter_cons_of_neg (by simpa using empty)]
      · have added : addPart [] (part, number) = part := by simp [addPart, empty]
        rw [added, foldl_addPart empty, List.filter_cons_of_pos (by simpa using empty),
          joinSegments]

/-- One pass over the parts makes the joined name. -/
theorem joinParts_split (cs : List Char) :
    joinParts (split cs) = joinSegments (segments cs) := by
  rw [joinParts, foldl_addPart_nil, filter_split]

-- =========================================================== names

/-- The name of a type starts with no number. -/
theorem isNumeric_head_typeName (raw : String) {c : Char}
    (first : (typeName raw).toList.head? = some c) : Text.isNumeric c = false := by
  have made := made_typeName raw
  generalize joinSegments (segments raw.toList) = joined, typeName raw = name at made first
  have underscore : Text.isNumeric '_' = false := by decide
  cases made with
  | empty =>
      obtain rfl : '_' = c := by simpa using first
      exact underscore
  | marked taken =>
      obtain rfl : '_' = c := by simpa using first
      exact underscore
  | @kept d rest free =>
      obtain rfl : d = c := by simpa using first
      rw [isTaken_cons, Bool.or_eq_false_iff] at free
      exact free.1

/-- A name is free that starts with no number and is no word of the
language. -/
theorem isTaken_eq_false {raw : String}
    (noNumber : ∀ c, raw.toList.head? = some c → Text.isNumeric c = false)
    (noWord : isWord raw = false) : isTaken raw.toList = false := by
  cases chars : raw.toList with
  | nil => rfl
  | cons c rest =>
      rw [chars] at noNumber
      rw [isTaken_cons, noNumber c rfl, ← chars, String.ofList_toList, noWord]
      rfl

/-- A free name of identifier characters is kept. -/
theorem typeName_eq_self {raw : String} (filled : raw.toList ≠ [])
    (parts : ∀ c ∈ raw.toList, isPart c = true) (free : isTaken raw.toList = false) :
    typeName raw = raw := by
  have run : Runs raw.toList [raw.toList] := by
    have alone : Runs (raw.toList ++ []) [raw.toList] :=
      .leading filled parts (by simp) (.none (by simp))
    rwa [List.append_nil] at alone
  have made := made_typeName raw
  rw [← runs_iff.1 run, joinSegments, List.flatMap_nil, List.append_nil] at made
  generalize chars : raw.toList = joined, typeName raw = name at made free filled ⊢
  cases made with
  | empty => exact absurd rfl filled
  | marked taken =>
      rw [free] at taken
      cases taken
  | kept _ => rw [← chars, String.ofList_toList]

/-- The names of types. None of them is empty, starts with a number or is a
word of the language. A name is made in one pass over the parts of the raw
one, and is the same for all raw names with the same runs of identifier
characters, of which each has one list. A raw name that is made of such
characters, starts with no number and is no word of the language is kept. -/
theorem typeName_by_runs (raw : String) :
    (typeName raw ≠ ""
        ∧ (∀ c, (typeName raw).toList.head? = some c → Text.isNumeric c = false)
        ∧ typeName raw ∉ reservedWords ∧ typeName raw ∉ predefinedTypes)
      ∧ Made (joinParts (split raw.toList)) (typeName raw)
      ∧ (∃! runs, Runs raw.toList runs)
      ∧ (∀ other runs, Runs raw.toList runs → Runs other.toList runs →
          typeName raw = typeName other)
      ∧ (raw ≠ "" → (∀ c ∈ raw.toList, isPart c = true) →
          (∀ c, raw.toList.head? = some c → Text.isNumeric c = false) →
          raw ∉ reservedWords → raw ∉ predefinedTypes → typeName raw = raw) := by
  refine ⟨⟨typeName_ne_empty raw, fun c => isNumeric_head_typeName raw,
    isWord_eq_false_iff.1 (isWord_typeName raw)⟩, ?_, ?_, ?_, ?_⟩
  · rw [joinParts_split]
    exact made_typeName raw
  · exact ⟨segments raw.toList, runs_segments _, fun runs h => runs_iff.1 h⟩
  · intro other runs here there
    rw [typeName, ← runs_iff.1 here, runs_iff.1 there, typeName]
  · intro filled parts noNumber unreserved notPredefined
    have noWord : isWord raw = false := isWord_eq_false_iff.2 ⟨unreserved, notPredefined⟩
    exact typeName_eq_self (mt String.toList_eq_nil_iff.1 filled) parts
      (isTaken_eq_false noNumber noWord)

/-- Separators in front, between the runs and after them make no difference,
and a word with a letter of its own language is kept. -/
theorem typeName_by_runs_separated :
    Runs ".page-item".toList ["page".toList, "item".toList]
      ∧ Runs "page«»item»".toList ["page".toList, "item".toList]
      ∧ typeName ".page-item" = typeName "page«»item»"
      ∧ typeName "größe" = "größe" := by
  have leading : Runs ".page-item".toList ["page".toList, "item".toList] :=
    runs_iff.2 (by decide +kernel)
  have doubled : Runs "page«»item»".toList ["page".toList, "item".toList] :=
    runs_iff.2 (by decide +kernel)
  have parts : "größe".toList.all isPart = true := by decide +kernel
  have noNumber (c : Char) (first : "größe".toList.head? = some c) :
      Text.isNumeric c = false := by
    obtain rfl : 'g' = c := by simpa using first
    decide
  obtain ⟨-, -, -, same, -⟩ := typeName_by_runs ".page-item"
  obtain ⟨-, -, -, -, kept⟩ := typeName_by_runs "größe"
  exact ⟨leading, doubled, same _ _ leading doubled,
    kept (by decide) (List.all_eq_true.1 parts) noNumber (by decide) (by decide)⟩

end OpenApiTypes.Identifier
