/-
Numbers as documents hold them: an integer that fits a signed or unsigned
64-bit word is kept exactly, and any other number is the nearest binary64
number. The text of a number is what stands in the emitted code: integers in
full, and others with the fewest digits that read back.
-/
import OpenApiTypes.Number.Shortest

namespace OpenApiTypes

/-- A number in a document. -/
inductive Number where
  | integer (value : Int)
  | real (value : Number.Binary64)
  deriving DecidableEq, Repr

namespace Number

/-- The greatest integer that is kept exactly. -/
def maxInteger : Int := 0xFFFFFFFFFFFFFFFF

/-- The least integer that is kept exactly. -/
def minInteger : Int := -0x8000000000000000

/-- The digits without the zeros at their end. -/
def dropTrailingZeros (digits : List Char) : List Char :=
  (digits.reverse.dropWhile (· == '0')).reverse

/-- Digits with a point after the first one. -/
def withPoint : List Char → List Char
  | [] => []
  | [first] => [first]
  | first :: rest => first :: '.' :: rest

/-- The text of a positive decimal. A leading digit worth at least `10 ^ -5`
and less than `10 ^ 16` is written positionally and always with a fraction;
outside of that the power of ten follows with its sign. -/
def Decimal.text (d : Decimal) : String :=
  let all := Nat.toDigits 10 d.digits
  let leading := d.power + all.length - 1
  let digits := dropTrailingZeros all
  let zeros (count : Int) := List.replicate count.toNat '0'
  let cs :=
    if leading < -5 ∨ 16 ≤ leading then
      withPoint digits ++ 'e' :: (if leading < 0 then '-' else '+') :: Nat.toDigits 10 leading.natAbs
    else if leading < 0 then
      '0' :: '.' :: zeros (-leading - 1) ++ digits
    else
      let whole := digits.take (leading.toNat + 1)
      let fraction := digits.drop (leading.toNat + 1)
      whole ++ zeros (leading + 1 - whole.length) ++ '.' :: (if fraction.isEmpty then ['0'] else fraction)
  String.ofList cs

/-- The text of a binary64 number. -/
def Binary64.text (x : Binary64) : String :=
  let size := if x.isZero then "0.0" else x.shortest.text
  if x.negative then "-" ++ size else size

/-- The text of a number. -/
def text : Number → String
  | .integer value => toString value
  | .real value => value.text

end Number

end OpenApiTypes
