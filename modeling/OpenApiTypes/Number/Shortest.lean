/-
The shortest decimal that reads back as a given binary64 number. The reals
that round to the number form an interval around it; on the grid of
multiples of a power of ten only the two neighbours of the number need to be
tried, for when any point of the grid lies in the interval one of them does.
The grids are tried from the coarsest on, so the first hit has the fewest
digits; of two hits the nearer one is taken, and of two equally near ones
the even one.
-/
import OpenApiTypes.Number.Binary64

namespace OpenApiTypes.Number

/-- A positive decimal `digits · 10 ^ power`. -/
structure Decimal where
  digits : Nat
  power : Int
  deriving DecidableEq, Repr

namespace Binary64

/-- The ratio `num / den` by which `mantissa` is multiplied to express the
number in units of `10 ^ power`. -/
def unitsPer (x : Binary64) (power : Int) : Nat × Nat :=
  (Nat.pow 10 (-power).toNat <<< x.exponent.toNat,
    Nat.pow 10 power.toNat <<< (-x.exponent).toNat)

/-- Whether `count · 10 ^ power` rounds to the number. The interval reaches
half a unit of the mantissa to either side, or a quarter below a power of
two; its ends belong to it when the mantissa is even. -/
def readsBack (x : Binary64) (count : Nat) (power : Int) : Bool :=
  let (num, den) := x.unitsPer power
  let below := if x.mantissa = fullMantissa ∧ minExponent < x.exponent then 1 else 2
  let low := (4 * x.mantissa - below) * num
  let high := (4 * x.mantissa + 2) * num
  let point := 4 * count * den
  if x.mantissa % 2 = 0 then low ≤ point && point ≤ high
  else low < point && point < high

/-- The neighbour on the grid of `10 ^ power` that reads back, if one does. -/
def onGrid? (x : Binary64) (power : Int) : Option Nat :=
  let (num, den) := x.unitsPer power
  let lower := x.mantissa * num / den
  let upper := lower + 1
  match x.readsBack lower power, x.readsBack upper power with
  | true, false => some lower
  | false, true => some upper
  | false, false => none
  | true, true =>
      let twice := 2 * (x.mantissa * num % den)
      if twice < den then some lower
      else if den < twice then some upper
      else some (if lower % 2 = 0 then lower else upper)

/-- The power of ten of the leading digit of a number that is not zero. -/
def leadingPower (x : Binary64) : Int :=
  let (num, den) := x.unitsPer 0
  let whole := x.mantissa * num / den
  if 0 < whole then ((Nat.toDigits 10 whole).length : Int) - 1
  else -((Nat.toDigits 10 (den / (x.mantissa * num))).length : Int)

/-- The first grid that holds a decimal which reads back, at most `more`
grids below the one of `10 ^ power`. -/
def searchGrids (x : Binary64) (power : Int) : Nat → Decimal
  | 0 => ⟨x.mantissa * (x.unitsPer power).1 / (x.unitsPer power).2, power⟩
  | more + 1 =>
      match x.onGrid? power with
      | some count => ⟨count, power⟩
      | none => searchGrids x (power - 1) more

/-- The shortest decimal that reads back as a number that is not zero. Two
decimals with 17 digits are never further apart than the interval is wide,
so the search ends within 17 grids. -/
def shortest (x : Binary64) : Decimal :=
  x.searchGrids x.leadingPower 17

end Binary64

end OpenApiTypes.Number
