/-
How the name of a type comes about. The segments of a raw name hold its
identifier characters in their order and nothing else, so the joined name
starts with the first of these characters, and is empty only where there is
none. From there one of three things happens (`Made`): a name without
characters gets one of its own, a taken name an underscore, and any other
name stands.

No word that the language uses starts with an underscore, so none of the
three gives such a word.
-/
import OpenApiTypes.Identifier

namespace OpenApiTypes.Identifier

-- ======================================================== segments

/-- The segments of a name hold its identifier characters, in order. -/
theorem flatten_segments (cs : List Char) : (segments cs).flatten = cs.filter isPart := by
  fun_induction segments cs with
  | case1 => rfl
  | case2 c part => simp [part]
  | case3 c part next rest nextPart noMore ih =>
      rw [noMore] at ih ⊢
      rw [List.filter_cons_of_pos part, ← ih]
      rfl
  | case4 c part next rest nextPart segment others more ih =>
      rw [more] at ih ⊢
      rw [List.filter_cons_of_pos part, ← ih]
      rfl
  | case5 c part next rest noPart ih =>
      rw [List.filter_cons_of_pos part, ← ih]
      rfl
  | case6 c rest noPart ih =>
      rw [List.filter_cons_of_neg noPart]
      exact ih

/-- No segment is empty. -/
theorem nil_notMem_segments (cs : List Char) : [] ∉ segments cs := by
  fun_induction segments cs with
  | case1 => simp
  | case2 => simp
  | case3 c part next rest nextPart noMore ih => simp [noMore]
  | case4 c part next rest nextPart segment others more ih =>
      rw [more] at ih ⊢
      simp only [List.mem_cons, not_or] at ih ⊢
      exact ⟨by simp, ih.2⟩
  | case5 c part next rest noPart ih =>
      simp only [List.mem_cons, not_or]
      exact ⟨by simp, ih⟩
  | case6 c rest noPart ih => exact ih

/-- A joined name starts with the first identifier character of the raw
one. -/
theorem head?_joinSegments (cs : List Char) :
    (joinSegments (segments cs)).head? = cs.find? isPart := by
  rw [← List.head?_filter, ← flatten_segments]
  have filled := nil_notMem_segments cs
  generalize segments cs = parts at filled ⊢
  cases parts with
  | nil => rfl
  | cons first others =>
      cases first with
      | nil => exact absurd List.mem_cons_self filled
      | cons c rest => rfl

/-- A property that upper case neither takes away nor brings holds of all
characters of a joined name when it holds of all those in the segments. -/
theorem forall_mem_joinSegments_iff {P : Char → Prop}
    (upper : ∀ c, (∀ u ∈ Text.toUpper c, P u) ↔ P c) (parts : List (List Char)) :
    (∀ c ∈ joinSegments parts, P c) ↔ ∀ c ∈ parts.flatten, P c := by
  have capitalized (segment : List Char) :
      (∀ c ∈ capitalize segment, P c) ↔ ∀ c ∈ segment, P c := by
    cases segment with
    | nil => rfl
    | cons c rest => rw [capitalize, List.forall_mem_append, upper, List.forall_mem_cons]
  have joined (others : List (List Char)) :
      (∀ c ∈ others.flatMap capitalize, P c) ↔ ∀ c ∈ others.flatten, P c := by
    induction others with
    | nil => rfl
    | cons segment rest ih =>
        rw [List.flatMap_cons, List.flatten_cons, List.forall_mem_append,
          List.forall_mem_append, capitalized, ih]
  cases parts with
  | nil => rfl
  | cons first others =>
      rw [joinSegments, List.flatten_cons, List.forall_mem_append, List.forall_mem_append, joined]

-- ====================================================== made names

/-- The words that no declaration may be named. -/
def isWord (name : String) : Bool :=
  reservedWords.contains name || predefinedTypes.contains name

theorem isWord_eq_false_iff {name : String} :
    isWord name = false ↔ name ∉ reservedWords ∧ name ∉ predefinedTypes := by
  simp [isWord]

/-- A name that is not empty is taken when it starts with a number or is a
word of the language. -/
theorem isTaken_cons (c : Char) (rest : List Char) :
    isTaken (c :: rest) = (Text.isNumeric c || isWord (String.ofList (c :: rest))) := by
  rw [isTaken, isWord, Bool.or_assoc]

/-- What the name of a type is made of, by the joined name. -/
inductive Made : List Char → String → Prop where
  | empty : Made [] "_empty"
  | marked {c : Char} {rest : List Char} (taken : isTaken (c :: rest) = true) :
      Made (c :: rest) (String.ofList ('_' :: c :: rest))
  | kept {c : Char} {rest : List Char} (free : isTaken (c :: rest) = false) :
      Made (c :: rest) (String.ofList (c :: rest))

theorem made_typeName (raw : String) :
    Made (joinSegments (segments raw.toList)) (typeName raw) := by
  unfold typeName
  cases joinSegments (segments raw.toList) with
  | nil => exact .empty
  | cons c rest =>
      dsimp only
      split
      · next taken => exact .marked taken
      · next free => exact .kept (Bool.eq_false_iff.2 free)

/-- No word of the language starts with an underscore. -/
theorem isWord_underscore (name : List Char) : isWord (String.ofList ('_' :: name)) = false := by
  have starts : ∀ word ∈ reservedWords ++ predefinedTypes, word.toList.head? ≠ some '_' := by
    decide
  refine Bool.eq_false_iff.2 fun word => ?_
  rw [isWord, Bool.or_eq_true, List.contains_iff_mem, List.contains_iff_mem,
    ← List.mem_append] at word
  exact starts _ word (by rw [String.toList_ofList]; rfl)

/-- The name of a type is no word of the language. -/
theorem isWord_typeName (raw : String) : isWord (typeName raw) = false := by
  have made := made_typeName raw
  generalize joinSegments (segments raw.toList) = joined, typeName raw = name at made
  cases made with
  | empty => exact isWord_underscore "empty".toList
  | marked taken => exact isWord_underscore _
  | kept free =>
      rw [isTaken_cons, Bool.or_eq_false_iff] at free
      exact free.2

/-- A name that starts with another character than an underscore is that of
a type if it is the joined name and free. -/
theorem typeName_eq_iff {raw name : String} {c : Char} (starts : name.toList.head? = some c)
    (unmarked : c ≠ '_') :
    typeName raw = name
      ↔ joinSegments (segments raw.toList) = name.toList ∧ isTaken name.toList = false := by
  have made := made_typeName raw
  generalize joinSegments (segments raw.toList) = joined, typeName raw = made' at made ⊢
  constructor
  · intro same
    subst same
    cases made with
    | empty =>
        obtain rfl : '_' = c := by simpa using starts
        exact absurd rfl unmarked
    | marked taken =>
        obtain rfl : '_' = c := by simpa using starts
        exact absurd rfl unmarked
    | kept free => exact ⟨String.toList_ofList.symm, by rwa [String.toList_ofList]⟩
  · intro h
    obtain ⟨rfl, free⟩ := h
    generalize same : name.toList = joined at made free starts
    cases made with
    | empty => cases starts
    | marked taken =>
        rw [free] at taken
        cases taken
    | kept _ => rw [← same, String.ofList_toList]

end OpenApiTypes.Identifier
