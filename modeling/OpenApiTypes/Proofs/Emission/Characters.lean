/-
Characters: what the smallest parts of the emitted text are made of. A
number is written with digits, a point, signs and the letter of a power of
ten, and is told from a name by its first digit or by a sign in it. A name
that stands without quotes is made of identifier characters, none of which
means anything in the text around it.
-/
import Mathlib.Data.List.DropRight
import OpenApiTypes.TypeExpr.Text

namespace OpenApiTypes

-- ======================================================== numbers

namespace Number

/-- The signs that may stand in a number. -/
def isSign (c : Char) : Bool := c == '.' || c == '+' || c == '-'

/-- The characters of a number. -/
def isChar (c : Char) : Bool := c.isDigit || isSign c || c == 'e'

/-- Whether a word is a number and no name: it starts with a digit, or a
sign stands in it. -/
def isNumeral (word : List Char) : Bool := word.head?.any Char.isDigit || word.any isSign

theorem isChar_of_isDigit {c : Char} (digit : c.isDigit = true) : isChar c = true := by
  simp [isChar, digit]

theorem isNumeral_of_mem {word : List Char} {c : Char} (mem : c ∈ word)
    (sign : isSign c = true) : isNumeral word = true := by
  have any : word.any isSign = true := List.any_eq_true.2 ⟨c, mem, sign⟩
  simp [isNumeral, any]

theorem isNumeral_ne_nil {word : List Char} (numeral : isNumeral word = true) : word ≠ [] := by
  intro same
  subst same
  simp [isNumeral] at numeral

/-- The digits of a natural number. -/
theorem isDigit_of_mem_toDigits {n : Nat} {c : Char} (mem : c ∈ Nat.toDigits 10 n) :
    c.isDigit = true :=
  Nat.isDigit_of_mem_toDigits (by decide) (by decide) mem

theorem mem_of_mem_dropTrailingZeros {digits : List Char} {c : Char}
    (mem : c ∈ dropTrailingZeros digits) : c ∈ digits :=
  (List.rdropWhile_prefix (· == '0') digits).mem mem

theorem mem_withPoint {digits : List Char} {c : Char} (mem : c ∈ withPoint digits) :
    c ∈ digits ∨ c = '.' := by
  unfold withPoint at mem
  split at mem
  · simp at mem
  · exact .inl mem
  · rcases List.mem_cons.1 mem with rfl | mem
    · exact .inl List.mem_cons_self
    · rcases List.mem_cons.1 mem with rfl | mem
      · exact .inr rfl
      · exact .inl (List.mem_cons_of_mem _ mem)

/-- The characters of a decimal. -/
theorem isChar_of_mem_decimal {decimal : Decimal} {c : Char}
    (mem : c ∈ decimal.text.toList) : isChar c = true := by
  have digits (part : c ∈ dropTrailingZeros (Nat.toDigits 10 decimal.digits)) :
      isChar c = true :=
    isChar_of_isDigit (isDigit_of_mem_toDigits (mem_of_mem_dropTrailingZeros part))
  have zeros {count : Int} (part : c ∈ List.replicate count.toNat '0') : isChar c = true := by
    rw [List.eq_of_mem_replicate part]
    decide
  simp only [Decimal.text, String.toList_ofList] at mem
  split at mem
  · simp only [List.mem_append, List.mem_cons] at mem
    rcases mem with mem | rfl | rfl | mem
    · rcases mem_withPoint mem with part | rfl
      · exact digits part
      · decide
    · decide
    · split <;> decide
    · exact isChar_of_isDigit (isDigit_of_mem_toDigits mem)
  · split at mem
    · simp only [List.mem_append, List.mem_cons] at mem
      rcases mem with (rfl | rfl | mem) | mem
      · decide
      · decide
      · exact zeros mem
      · exact digits mem
    · simp only [List.mem_append, List.mem_cons] at mem
      rcases mem with (mem | mem) | rfl | mem
      · exact digits (List.mem_of_mem_take mem)
      · exact zeros mem
      · decide
      · split at mem
        · rw [List.mem_singleton.1 mem]
          decide
        · exact digits (List.mem_of_mem_drop mem)

/-- A decimal has a sign in it: a point, or the sign of a power of ten. -/
theorem exists_sign_decimal (decimal : Decimal) :
    ∃ c ∈ decimal.text.toList, isSign c = true := by
  simp only [Decimal.text, String.toList_ofList]
  split
  · refine ⟨_, List.mem_append_right _ (List.mem_cons_of_mem _ List.mem_cons_self), ?_⟩
    split <;> decide
  · split
    · exact ⟨'.', by simp, by decide⟩
    · exact ⟨'.', by simp, by decide⟩

/-- The text of a number is made of the characters of numbers. -/
theorem isChar_of_mem_text {value : Number} {c : Char} (mem : c ∈ value.text.toList) :
    isChar c = true := by
  have signed {text : String} (size : ∀ c ∈ text.toList, isChar c = true)
      (mem : c ∈ ("-" ++ text).toList) : isChar c = true := by
    rw [String.toList_append, List.mem_append] at mem
    rcases mem with mem | mem
    · obtain rfl : c = '-' := by simpa using mem
      decide
    · exact size c mem
  cases value with
  | integer value =>
      have natural (n : Nat) (c : Char) (mem : c ∈ n.repr.toList) : isChar c = true := by
        rw [Nat.toList_repr] at mem
        exact isChar_of_isDigit (isDigit_of_mem_toDigits mem)
      rw [text, Int.toString_eq_repr, Int.repr_eq_if] at mem
      split at mem
      · exact natural _ c mem
      · exact signed (natural _) mem
  | real value =>
      have size (c : Char)
          (mem : c ∈ (if value.isZero then "0.0" else value.shortest.text).toList) :
          isChar c = true := by
        split at mem
        · have zero : "0.0".toList.all isChar = true := by decide
          exact List.all_eq_true.1 zero c mem
        · exact isChar_of_mem_decimal mem
      rw [text, Binary64.text] at mem
      split at mem
      · exact signed size mem
      · exact size c mem

/-- The text of a number is no name. -/
theorem isNumeral_text (value : Number) : isNumeral value.text.toList = true := by
  cases value with
  | integer value =>
      rw [text, Int.toString_eq_repr, Int.repr_eq_if]
      split
      · rw [Nat.toList_repr]
        obtain ⟨first, others, digits⟩ :=
          List.exists_cons_of_ne_nil (Nat.toDigits_ne_nil (n := value.toNat) (b := 10))
        have digit : first.isDigit = true :=
          isDigit_of_mem_toDigits (digits ▸ List.mem_cons_self)
        simp [digits, isNumeral, digit]
      · exact isNumeral_of_mem (c := '-') (by simp) (by decide)
  | real value =>
      have size : ∃ c ∈ (if value.isZero then "0.0" else value.shortest.text).toList,
          isSign c = true := by
        split
        · exact ⟨'.', by decide, by decide⟩
        · exact exists_sign_decimal _
      obtain ⟨c, mem, sign⟩ := size
      simp only [text, Binary64.text]
      refine isNumeral_of_mem ?_ sign
      split
      · simp [mem]
      · exact mem

end Number

-- ==================================================== identifiers

namespace Identifier

theorem ne_nil_of_isIdentifier {name : List Char} (identifier : isIdentifier name = true) :
    name ≠ [] := by
  intro same
  subst same
  simp [isIdentifier] at identifier

theorem isPart_of_isIdentifier {name : List Char} (identifier : isIdentifier name = true)
    {c : Char} (mem : c ∈ name) : isPart c = true := by
  cases name with
  | nil => simp at mem
  | cons first others =>
      rw [isIdentifier, Bool.and_eq_true, List.all_eq_true] at identifier
      exact identifier.2 c mem

/-- The name of a type is not blank, whatever it is made from. -/
theorem typeName_ne_empty (raw : String) : typeName raw ≠ "" := by
  unfold typeName
  split
  · decide
  · next name nonempty =>
    rw [Ne, ← String.toList_eq_nil_iff, String.toList_ofList]
    split
    · exact List.cons_ne_nil _ _
    · exact nonempty

end Identifier

end OpenApiTypes
