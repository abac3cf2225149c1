/-
Number tokens of JSON text and the numbers they denote. A token without a
fraction and an exponent is an integer if a 64-bit word holds it. Any other
token is read into binary64 in two roundings: as many of its digits as an
unsigned 64-bit word can hold are taken as a whole, further digits only
count towards the power of ten, and the rounded whole is multiplied or
divided by the rounded power. A token too large for the format denotes
nothing.
-/
import OpenApiTypes.Number

namespace OpenApiTypes.Json

open Number (Binary64)

/-- A number token. The exponent is kept as its sign and its digits. -/
structure Numeral where
  negative : Bool
  whole : List Char
  fraction : Option (List Char)
  exponent : Option (Bool × List Char)

/-- The number that decimal digits denote, continued from the digits before
them. -/
def digitsValue (start : Nat) (digits : List Char) : Nat :=
  digits.foldl (fun value c => 10 * value + (c.toNat - '0'.toNat)) start

/-- Takes digits onto a whole number for as long as it is kept exactly, and
gives the digits that are left. -/
def takeDigits (whole : Nat) : List Char → Nat × List Char
  | [] => (whole, [])
  | c :: rest =>
      let longer := 10 * whole + (c.toNat - '0'.toNat)
      if longer ≤ Number.maxInteger then takeDigits longer rest else (whole, c :: rest)

/-- The power of ten as a binary64 number. -/
def tenTo? (power : Nat) : Option Binary64 := Binary64.ofDecimal? false 1 power

/-- A number multiplied by a power of ten, rounded after each step. A step
takes at most `10 ^ 308`, the greatest power in the format. -/
def scale? (x : Binary64) (power : Int) : Option Binary64 :=
  if power.natAbs ≤ 308 then
    if 0 ≤ power then (tenTo? power.natAbs).bind x.mul?
    else (tenTo? power.natAbs).bind x.div?
  else if x.isZero then some x
  else if 0 ≤ power then none
  else do
    let smaller ← x.div? (← tenTo? 308)
    scale? smaller (power + 308)
termination_by power.natAbs
decreasing_by omega

namespace Numeral

/-- The number that a token with these digits and this power denotes. -/
def real? (negative : Bool) (whole : Nat) (power : Int) : Option Number := do
  let rounded ← Binary64.round? negative whole 1
  let value ← scale? rounded power
  some (.real value)

/-- The number a token denotes, or nothing when it is out of range. -/
def value? (n : Numeral) : Option Number :=
  let (whole, extra) := takeDigits 0 n.whole
  match n.fraction, n.exponent, extra with
  | none, none, [] =>
      if n.negative then
        if 0 < whole ∧ Number.minInteger ≤ -whole then some (.integer (-whole))
        else real? true whole 0
      else some (.integer whole)
  | fraction, exponent, extra =>
      let (taken, left) := takeDigits whole (fraction.getD [])
      let places := (fraction.getD []).length - left.length
      let start : Int := extra.length - places
      let power : Int :=
        match exponent with
        | none => 0
        | some (true, digits) => -(digitsValue 0 digits : Int)
        | some (false, digits) => digitsValue 0 digits
      real? n.negative taken (start + power)

end Numeral

end OpenApiTypes.Json
