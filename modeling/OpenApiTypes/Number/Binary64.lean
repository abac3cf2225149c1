/-
Finite numbers of the 64-bit binary floating-point format, held exactly as a
sign and a mantissa scaled by a power of two, with the rounding that every
operation on them ends in. All of it is arithmetic on natural numbers, so a
value can be compared, computed and reasoned about without the machine's
floating point.

A value is in canonical form when its mantissa has exactly 53 bits, or when
its exponent is the least one and the mantissa has fewer. `round?` gives the
canonical value nearest to a ratio, with ties to the even mantissa, and
nothing when the ratio is too large for the format.
-/

namespace OpenApiTypes.Number

/-- The number `mantissa · 2 ^ exponent`, negated when `negative` holds. Zero
keeps its sign. -/
structure Binary64 where
  negative : Bool
  mantissa : Nat
  exponent : Int
  deriving DecidableEq, Repr

namespace Binary64

/-- The exponent of the smallest numbers. -/
def minExponent : Int := -1074

/-- The exponent of the largest numbers. -/
def maxExponent : Int := 971

/-- The least mantissa with 53 bits. -/
def fullMantissa : Nat := 0x10000000000000

/-- The zero of a sign. -/
def zero (negative : Bool) : Binary64 := ⟨negative, 0, minExponent⟩

/-- Whether the number is zero, of either sign. -/
def isZero (x : Binary64) : Bool := x.mantissa == 0

/-- The integer nearest to `num / den`, a half going to the even one. -/
def roundDiv (num den : Nat) : Nat :=
  let floor := num / den
  let twice := 2 * (num % den)
  if twice < den then floor
  else if den < twice then floor + 1
  else floor + floor % 2

/-- A ratio times `2 ^ shift`, as a ratio. -/
def shiftRatio (num den : Nat) (shift : Int) : Nat × Nat :=
  if 0 ≤ shift then (num <<< shift.toNat, den)
  else (num, den <<< (-shift).toNat)

/-- The greatest `k` with `2 ^ k ≤ num / den`, for a positive ratio. -/
def floorLog2 (num den : Nat) : Int :=
  let estimate := (num.log2 : Int) - den.log2
  let (scaled, unit) := shiftRatio num den (-estimate)
  if unit ≤ scaled then estimate else estimate - 1

/-- The value nearest to `num / den`, or nothing when it would be infinite. -/
def round? (negative : Bool) (num den : Nat) : Option Binary64 :=
  if num = 0 then some (zero negative)
  else
    let exponent := max minExponent (floorLog2 num den - 52)
    let (scaled, unit) := shiftRatio num den (-exponent)
    let mantissa := roundDiv scaled unit
    let (mantissa, exponent) :=
      if mantissa = 2 * fullMantissa then (fullMantissa, exponent + 1)
      else (mantissa, exponent)
    if maxExponent < exponent then none else some ⟨negative, mantissa, exponent⟩

/-- The rounded product, with the sign of the first factor. -/
def mul? (x y : Binary64) : Option Binary64 :=
  let (num, den) := shiftRatio (x.mantissa * y.mantissa) 1 (x.exponent + y.exponent)
  round? x.negative num den

/-- The rounded quotient by a number that is not zero, with the sign of the
dividend. -/
def div? (x y : Binary64) : Option Binary64 :=
  let (num, den) := shiftRatio x.mantissa y.mantissa (x.exponent - y.exponent)
  round? x.negative num den

/-- The value nearest to `digits · 10 ^ power`, or nothing when it would be
infinite. Powers far outside the format are settled by the count of digits
alone. -/
def ofDecimal? (negative : Bool) (digits : Nat) (power : Int) : Option Binary64 :=
  if digits = 0 then some (zero negative)
  else
    let magnitude := ((Nat.toDigits 10 digits).length : Int) + power
    if 310 < magnitude then none
    else if magnitude < -330 then some (zero negative)
    else if 0 ≤ power then round? negative (digits * Nat.pow 10 power.toNat) 1
    else round? negative digits (Nat.pow 10 (-power).toNat)

end Binary64

end OpenApiTypes.Number
