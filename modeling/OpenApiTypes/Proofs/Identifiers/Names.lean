/-
Which of the emitted names are identifiers. ECMAScript goes by ID_Start and
ID_Continue, and names are made by other properties, alphabetic and numeric.
So a name comes out as an identifier exactly if the raw one holds no
character of which the two disagree: none that is alphabetic or numeric
without ID_Continue, and as its first none that may only follow. The same
criterion holds for the names of types and for keys that are not quoted,
except that a number at the start of a type name gets an underscore.
-/
import OpenApiTypes.Proofs.Identifiers.TypeNames
import OpenApiTypes.Proofs.Identifiers.Unicode

namespace OpenApiTypes.Identifier

-- ===================================================== identifier names

/-- Whether a character may start an identifier name of ECMAScript. -/
def mayStart (c : Char) : Bool := Text.isIdStart c || c == '$' || c == '_'

/-- Whether a character may follow in an identifier name of ECMAScript. The
last two are the joiners. -/
def mayFollow (c : Char) : Bool :=
  Text.isIdContinue c || c == '$' || c == '\u200c' || c == '\u200d'

/-- Whether a text is an identifier name of ECMAScript. -/
def isName : List Char → Bool
  | [] => false
  | c :: rest => mayStart c && rest.all mayFollow

theorem mayFollow_of_mayStart {c : Char} (start : mayStart c = true) : mayFollow c = true := by
  simp only [mayStart, Bool.or_eq_true, beq_iff_eq] at start
  rcases start with (start | rfl) | rfl
  · rw [mayFollow, Text.isIdContinue, start]
    rfl
  · decide
  · decide

/-- An identifier name has characters that may follow throughout, and first
one that may start. -/
theorem isName_cons (c : Char) (rest : List Char) :
    isName (c :: rest) = true ↔ (∀ d ∈ c :: rest, mayFollow d = true) ∧ mayStart c = true := by
  rw [isName, Bool.and_eq_true, List.all_eq_true, List.forall_mem_cons]
  constructor
  · intro h
    obtain ⟨start, follow⟩ := h
    exact ⟨⟨mayFollow_of_mayStart start, follow⟩, start⟩
  · intro h
    exact ⟨h.2, h.1.2⟩

/-- Upper case neither takes away nor brings that characters may follow. -/
theorem mayFollow_toUpper_iff (c : Char) :
    (∀ u ∈ Text.toUpper c, mayFollow u = true) ↔ mayFollow c = true := by
  have continues {c : Char} (h : Text.isIdContinue c = true) : mayFollow c = true := by
    rw [mayFollow, h]
    rfl
  have circled {c : Char} (inside : 0x24B6 ≤ c.toNat ∧ c.toNat ≤ 0x24E9) :
      mayFollow c = false := by
    have others : c ≠ '$' ∧ c ≠ '\u200c' ∧ c ≠ '\u200d' := by
      refine ⟨?_, ?_, ?_⟩
      all_goals
        intro same
        rw [same] at inside
        exact absurd inside (by decide)
    simp [mayFollow, Text.isIdContinue_circled inside.1 inside.2, others]
  rcases Text.toUpper_cases c with ⟨lower, upper⟩ | same | ⟨u, only, lower, upper⟩
  · exact iff_of_true (fun u mem => continues (upper u mem)) (continues lower)
  · rw [same, List.forall_mem_singleton]
  · rw [only, List.forall_mem_singleton, circled lower, circled upper]

-- ========================================================= made names

/-- The characters of a raw name that names are made of may all follow in an
identifier name. -/
def Proper (raw : String) : Prop :=
  ∀ c ∈ raw.toList, isPart c = true → mayFollow c = true

/-- A joined name has characters that may follow throughout exactly if the
raw one is proper. -/
theorem forall_mayFollow_iff (raw : String) :
    (∀ c ∈ joinSegments (segments raw.toList), mayFollow c = true) ↔ Proper raw := by
  rw [forall_mem_joinSegments_iff mayFollow_toUpper_iff, flatten_segments]
  simp only [List.mem_filter, and_imp]
  rfl

/-- A word of the language starts like an identifier name. -/
theorem mayStart_of_isWord {c : Char} {rest : List Char}
    (word : isWord (String.ofList (c :: rest)) = true) : mayStart c = true := by
  have starts : ((reservedWords ++ predefinedTypes).all
      fun word => word.toList.head?.all mayStart) = true := by
    decide
  rw [isWord, Bool.or_eq_true, List.contains_iff_mem, List.contains_iff_mem,
    ← List.mem_append] at word
  have start := List.all_eq_true.1 starts _ word
  rwa [String.toList_ofList, List.head?_cons, Option.all_some] at start

/-- The name of a type is an identifier name exactly if the raw name is
proper and its first identifier character may start one or is a number. -/
theorem isName_typeName (raw : String) :
    isName (typeName raw).toList = true
      ↔ Proper raw ∧ ∀ c, raw.toList.find? isPart = some c →
          mayStart c = true ∨ Text.isNumeric c = true := by
  have made := made_typeName raw
  have proper := forall_mayFollow_iff raw
  rw [← head?_joinSegments]
  rw [← proper]
  clear proper
  generalize joinSegments (segments raw.toList) = joined, typeName raw = name at made ⊢
  cases made with
  | empty => exact iff_of_true (by decide) ⟨by simp, by simp⟩
  | @marked c rest taken =>
      have follow : mayFollow '_' = true := by decide
      have start : mayStart '_' = true := by decide
      have first : mayStart c = true ∨ Text.isNumeric c = true := by
        rw [isTaken_cons, Bool.or_eq_true] at taken
        exact taken.elim .inr fun word => .inl (mayStart_of_isWord word)
      rw [String.toList_ofList, isName_cons]
      simp [follow, start, first]
  | @kept c rest free =>
      have noNumber : Text.isNumeric c = false := by
        rw [isTaken_cons, Bool.or_eq_false_iff] at free
        exact free.1
      rw [String.toList_ofList, isName_cons]
      simp [noNumber]

/-- A key that is not quoted is an identifier name exactly if it is proper
and its first character may start one. -/
theorem isName_of_isIdentifier {name : List Char} (bare : isIdentifier name = true) :
    isName name = true
      ↔ Proper (String.ofList name)
        ∧ ∀ c, name.find? isPart = some c → mayStart c = true := by
  cases name with
  | nil => cases bare
  | cons c rest =>
      rw [isIdentifier, Bool.and_eq_true, List.all_eq_true] at bare
      obtain ⟨-, parts⟩ := bare
      have proper : Proper (String.ofList (c :: rest))
          ↔ ∀ d ∈ c :: rest, mayFollow d = true := by
        rw [Proper, String.toList_ofList]
        exact forall₂_congr fun d mem => by simp [parts d mem]
      rw [isName_cons, proper, List.find?_cons_of_pos (parts c List.mem_cons_self)]
      simp

/-- Names in the place of identifiers. The name of a type is never a word of
the language, and it is an identifier name exactly if all characters of the
raw name that count as parts of identifiers may stand in one, and the first
of them may start one or is a number. A key is quoted or stands as it is,
and then it is an identifier name exactly if its characters may stand in one
and the first may start one. -/
theorem isName_iff (raw : String) :
    (isName (typeName raw).toList = true
        ↔ Proper raw ∧ ∀ c, raw.toList.find? isPart = some c →
            mayStart c = true ∨ Text.isNumeric c = true)
      ∧ (typeName raw ∉ reservedWords ∧ typeName raw ∉ predefinedTypes)
      ∧ (quoteIfNeeded raw = Text.quote raw
        ∨ (quoteIfNeeded raw = raw
          ∧ (isName (quoteIfNeeded raw).toList = true
            ↔ Proper raw ∧ ∀ c, raw.toList.find? isPart = some c → mayStart c = true))) := by
  refine ⟨isName_typeName raw, ?_, ?_⟩
  · have noWord := isWord_typeName raw
    rw [isWord, Bool.or_eq_false_iff] at noWord
    simpa using noWord
  · unfold quoteIfNeeded
    split
    · next bare =>
      have name := isName_of_isIdentifier bare
      rw [String.ofList_toList] at name
      exact .inr ⟨rfl, name⟩
    · exact .inl rfl

/-- A superscript is numeric and counts as part of an identifier, so it stays
in the name of a type and in a key that is not quoted; it may not stand in an
identifier name. A vowel sign is alphabetic and may not start one. -/
theorem superscript_kept :
    typeName "a²" = "a²" ∧ quoteIfNeeded "a²" = "a²" ∧ isName "a²".toList = false
      ∧ typeName "\u093e" = "\u093e" ∧ quoteIfNeeded "\u093e" = "\u093e"
      ∧ isName "\u093e".toList = false := by
  decide +kernel

end OpenApiTypes.Identifier
