/-
The order of names by bytes is their order by characters: two texts compare
byte by byte over their UTF-8 encodings as they compare code point by code
point (`compareNames_eq_compareScalars`). The encodings of two characters
agree up to some byte, where the one of the lower code point has the lower
byte (`below_utf8EncodeChar`), and what follows the two cannot undo that.

A code point is written in base 64, with all its leading digits in the first
byte. This byte also carries a mark that grows with the number of bytes, so
that longer encodings stand above shorter ones, and encodings of one length
compare as the digits do.
-/
import OpenApiTypes.Definition
import OpenApiTypes.Proofs.Order.Stability

namespace OpenApiTypes

namespace Text

/-- The comparison of two names code point by code point. -/
def compareScalars (a b : String) : Ordering :=
  (a.toList.map Char.toNat).compareLex compare (b.toList.map Char.toNat)

namespace Utf8

-- ========================================================= below

/-- The first bytes agree with the second ones up to a place where they have
a lower byte. Neither then begins with the other. -/
inductive Below : List UInt8 → List UInt8 → Prop where
  | here {x y : UInt8} {xs ys : List UInt8} (lower : x < y) : Below (x :: xs) (y :: ys)
  | later {x : UInt8} {xs ys : List UInt8} (below : Below xs ys) : Below (x :: xs) (x :: ys)

/-- What is below stays so whatever follows. -/
theorem Below.append {xs ys : List UInt8} (below : Below xs ys) (us vs : List UInt8) :
    Below (xs ++ us) (ys ++ vs) := by
  induction below with
  | here lower => exact .here lower
  | later _ ih => exact .later ih

theorem Below.append_left {us vs : List UInt8} (xs : List UInt8) (below : Below us vs) :
    Below (xs ++ us) (xs ++ vs) := by
  induction xs with
  | nil => exact below
  | cons x xs ih => exact .later ih

theorem Below.compareLex {xs ys : List UInt8} (below : Below xs ys) :
    xs.compareLex compare ys = .lt := by
  induction below with
  | here lower => rw [List.compareLex_cons_cons, Std.compare_eq_lt.2 lower, Ordering.lt_then]
  | later _ ih =>
      rw [List.compareLex_cons_cons, Std.compare_self, Ordering.eq_then, ih]

-- ===================================================== encodings

/-- A code point in base 64: a first byte with a mark, and the given number
of bytes after it. -/
def encodeAfter (mark : Nat) : Nat → Nat → List UInt8
  | 0, code => [UInt8.ofNat (code + mark)]
  | count + 1, code =>
      encodeAfter mark count (code / 64) ++ [UInt8.ofNat (code % 64 + 128)]

/-- The part of a code point that the first byte has to hold. -/
def leading : Nat → Nat → Nat
  | 0, code => code
  | count + 1, code => leading count (code / 64)

theorem ofNat_lt_ofNat {m n : Nat} (lower : m < n) (byte : n < 256) :
    UInt8.ofNat m < UInt8.ofNat n := by
  rw [UInt8.lt_iff_toNat_lt, UInt8.toNat_ofNat', UInt8.toNat_ofNat']
  omega

theorem exists_encodeAfter (mark count code : Nat) :
    ∃ rest, encodeAfter mark count code
      = UInt8.ofNat (leading count code + mark) :: rest := by
  induction count generalizing code with
  | zero => exact ⟨[], rfl⟩
  | succ count ih =>
      obtain ⟨rest, first⟩ := ih (code / 64)
      exact ⟨_, by rw [encodeAfter, first]; rfl⟩

/-- Encodings compare as their first bytes do where these differ. -/
theorem below_of_leading {mark mark' count count' code code' : Nat}
    (lower : leading count code + mark < leading count' code' + mark')
    (byte : leading count' code' + mark' < 256) :
    Below (encodeAfter mark count code) (encodeAfter mark' count' code') := by
  obtain ⟨rest, first⟩ := exists_encodeAfter mark count code
  obtain ⟨rest', first'⟩ := exists_encodeAfter mark' count' code'
  rw [first, first']
  exact .here (ofNat_lt_ofNat lower byte)

/-- Encodings of one length compare as the code points do. -/
theorem below_encodeAfter {mark count code code' : Nat} (lower : code < code')
    (byte : leading count code' + mark < 256) :
    Below (encodeAfter mark count code) (encodeAfter mark count code') := by
  induction count generalizing code code' with
  | zero => exact below_of_leading (by simpa [leading] using lower) byte
  | succ count ih =>
      rw [encodeAfter, encodeAfter]
      -- The last byte holds the last digit alone, and decides only where the
      -- digits before it, which all other bytes hold, are the same.
      by_cases digits : code / 64 < code' / 64
      · exact (ih digits byte).append _ _
      · have same : code / 64 = code' / 64 := by omega
        rw [same]
        exact .append_left _ (.here (ofNat_lt_ofNat (by omega) (by omega)))

/-- How many bytes follow the first one of a code point. -/
def followers (code : Nat) : Nat :=
  if code ≤ 0x7F then 0 else if code ≤ 0x7FF then 1 else if code ≤ 0xFFFF then 2 else 3

/-- The mark of a first byte that so many bytes follow. First bytes with one
mark stand below the next one. -/
def mark : Nat → Nat
  | 0 => 0
  | 1 => 0xC0
  | 2 => 0xE0
  | 3 => 0xF0
  | _ => 0xF8

theorem followers_mono {code code' : Nat} (le : code ≤ code') :
    followers code ≤ followers code' := by
  unfold followers
  split_ifs <;> omega

theorem mark_mono : Monotone mark := by
  refine monotone_nat_of_le_succ fun count => ?_
  match count with
  | 0 | 1 | 2 | 3 => decide
  | count + 4 => exact le_rfl

theorem mark_lt (count : Nat) : mark count < 256 := by
  unfold mark
  split <;> decide

/-- The first byte of a code point stands below the next mark. -/
theorem leading_lt {code : Nat} (valid : code < 0x110000) :
    leading (followers code) code + mark (followers code) < mark (followers code + 1) := by
  unfold followers
  split_ifs <;> simp only [leading, mark] <;> omega

theorem toNat_lt (c : Char) : c.toNat < 0x110000 := by
  rcases c.valid with low | high
  · exact lt_trans low (by decide)
  · exact high.2

/-- How a character is encoded. -/
theorem utf8EncodeChar_eq (c : Char) :
    String.utf8EncodeChar c
      = encodeAfter (mark (followers c.toNat)) (followers c.toNat) c.toNat := by
  have valid := toNat_lt c
  unfold String.utf8EncodeChar followers
  simp only [Char.toNat_val]
  split_ifs
  · rfl
  · have digits : c.toNat / 64 % 32 = c.toNat / 64 := by omega
    simp [encodeAfter, mark, digits]
  · have digits : c.toNat / 4096 % 16 = c.toNat / 64 / 64 := by omega
    simp [encodeAfter, mark, digits]
  · have digits : c.toNat / 262144 % 8 = c.toNat / 64 / 64 / 64 := by omega
    have digits' : c.toNat / 4096 % 64 = c.toNat / 64 / 64 % 64 := by omega
    simp [encodeAfter, mark, digits, digits']

/-- The encoding of a character of a lower code point is below. -/
theorem below_utf8EncodeChar {c d : Char} (lower : c.toNat < d.toNat) :
    Below (String.utf8EncodeChar c) (String.utf8EncodeChar d) := by
  have byte : leading (followers d.toNat) d.toNat + mark (followers d.toNat) < 256 :=
    (leading_lt (toNat_lt d)).trans (mark_lt _)
  rw [utf8EncodeChar_eq, utf8EncodeChar_eq]
  rcases (followers_mono lower.le).lt_or_eq with fewer | same
  · refine below_of_leading ?_ byte
    calc leading (followers c.toNat) c.toNat + mark (followers c.toNat)
        < mark (followers c.toNat + 1) := leading_lt (toNat_lt c)
      _ ≤ mark (followers d.toNat) := mark_mono fewer
      _ ≤ leading (followers d.toNat) d.toNat + mark (followers d.toNat) := Nat.le_add_left _ _
  · rw [same]
    exact below_encodeAfter lower byte

end Utf8

-- ========================================================== names

/-- The bytes of a text are those of its characters, one after the other. -/
theorem utf8_eq (s : String) : utf8 s = s.toList.flatMap String.utf8EncodeChar := by
  rw [utf8, String.toUTF8_eq_toByteArray, ← String.utf8Encode_toList, List.utf8Encode,
    List.data_toByteArray]

theorem compareLex_append_left (xs us vs : List UInt8) :
    (xs ++ us).compareLex compare (xs ++ vs) = us.compareLex compare vs := by
  induction xs with
  | nil => rfl
  | cons x xs ih =>
      rw [List.cons_append, List.cons_append, List.compareLex_cons_cons, Std.compare_self,
        Ordering.eq_then, ih]

/-- Where two characters stand in front, their code points decide first. -/
theorem compareLex_utf8EncodeChar_append (c d : Char) (us vs : List UInt8) :
    (String.utf8EncodeChar c ++ us).compareLex compare (String.utf8EncodeChar d ++ vs)
      = (compare c.toNat d.toNat).then (us.compareLex compare vs) := by
  rcases lt_trichotomy c.toNat d.toNat with lower | same | higher
  · have below := (Utf8.below_utf8EncodeChar lower).append us vs
    rw [below.compareLex, compare_lt_iff_lt.2 lower, Ordering.lt_then]
  · obtain rfl : c = d := Char.toNat_inj.1 same
    rw [compareLex_append_left, Std.compare_self, Ordering.eq_then]
  · have below := (Utf8.below_utf8EncodeChar higher).append vs us
    rw [Std.OrientedCmp.gt_iff_lt.2 below.compareLex, compare_gt_iff_gt.2 higher,
      Ordering.gt_then]

/-- Texts compare byte by byte as they do code point by code point. -/
theorem compareLex_flatMap (cs ds : List Char) :
    (cs.flatMap String.utf8EncodeChar).compareLex compare (ds.flatMap String.utf8EncodeChar)
      = (cs.map Char.toNat).compareLex compare (ds.map Char.toNat) := by
  -- No character is without bytes, so the texts end together or neither does.
  have filled (c : Char) (rest : List UInt8) :
      ∃ x xs, String.utf8EncodeChar c ++ rest = x :: xs :=
    List.exists_cons_of_ne_nil (by simp [String.utf8EncodeChar_ne_nil])
  induction cs generalizing ds with
  | nil =>
      cases ds with
      | nil => rfl
      | cons d ds =>
          obtain ⟨x, xs, bytes⟩ := filled d (ds.flatMap String.utf8EncodeChar)
          rw [List.flatMap_cons, bytes]
          rfl
  | cons c cs ih =>
      cases ds with
      | nil =>
          obtain ⟨x, xs, bytes⟩ := filled c (cs.flatMap String.utf8EncodeChar)
          rw [List.flatMap_cons, bytes]
          rfl
      | cons d ds =>
          rw [List.flatMap_cons, List.flatMap_cons, compareLex_utf8EncodeChar_append, ih,
            List.map_cons, List.map_cons, List.compareLex_cons_cons]

/-- The order by bytes is the order by code points. -/
theorem compareNames_eq_compareScalars (a b : String) :
    compareNames a b = compareScalars a b := by
  rw [compareNames, utf8_eq, utf8_eq, compareLex_flatMap, compareScalars]

/-- Of two characters the one outside the basic plane stands last, although
UTF-16 writes it with a unit that is lower than the other one. -/
example : compareNames "\uFFFD" "😀" = .lt := by decide

end Text

namespace Definition

-- ==================================================== definitions

/-- Sorted by name, definitions are the one rearrangement that ascends and
leaves those of one name in their order. -/
theorem eq_order_iff (definitions ordered : List Definition) :
    ordered = order definitions
      ↔ ordered.Perm definitions
        ∧ (ordered.Pairwise fun a b => (Text.compareNames a.name b.name).isLE = true)
        ∧ ∀ key, Text.namesakes name key ordered = Text.namesakes name key definitions := by
  constructor
  · intro same
    subst same
    exact ⟨Text.sortByName_perm name definitions, Text.pairwise_sortByName definitions,
      fun key => Text.namesakes_sortByName key definitions⟩
  · intro h
    obtain ⟨-, ascending, stable⟩ := h
    refine Text.eq_of_sorted ascending (Text.pairwise_sortByName definitions) fun key => ?_
    rw [stable key, order, Text.namesakes_sortByName]

/-- The order of definitions. A list of them is put into exactly one order:
the rearrangement that ascends by the raw names and keeps those of one name
in their order. Names compare byte by byte as they do code point by code
point, and this is a total order in which no two names are level. -/
theorem order_determined :
    (∀ definitions ordered : List Definition,
        ordered = order definitions
          ↔ ordered.Perm definitions
            ∧ (ordered.Pairwise fun a b => (Text.compareNames a.name b.name).isLE = true)
            ∧ ∀ key, Text.namesakes name key ordered = Text.namesakes name key definitions)
      ∧ (∀ a b, Text.compareNames a b = .eq ↔ a = b)
      ∧ (∀ a b, Text.compareNames b a = (Text.compareNames a b).swap)
      ∧ (∀ a b c, (Text.compareNames a b).isLE = true → (Text.compareNames b c).isLE = true →
          (Text.compareNames a c).isLE = true)
      ∧ ∀ a b, Text.compareNames a b = Text.compareScalars a b := by
  refine ⟨eq_order_iff, ?_, ?_, ?_, Text.compareNames_eq_compareScalars⟩
  · intro a b
    exact Std.LawfulEqCmp.compare_eq_iff_eq
  · intro a b
    exact Std.OrientedCmp.eq_swap
  · intro a b c
    exact Std.TransCmp.isLE_trans

end Definition

end OpenApiTypes
