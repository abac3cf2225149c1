/-
What plain scalars stand for where any value may stand: null, a flag, an
integer in one of four bases, a floating-point number, or else text. Digits
after a leading zero are text. An integer that no 64-bit word holds is
refused, unless not even 128 bits hold it: then it is a floating-point
number.
-/
import OpenApiTypes.Json.Numeral
import OpenApiTypes.Json.Reading

namespace OpenApiTypes.Yaml

/-- Whether a plain scalar is null. -/
def isNull (s : String) : Bool := s == "null" || s == "Null" || s == "NULL" || s == "~"

/-- The flag that a plain scalar is. -/
def flag? (s : String) : Option Bool :=
  if s == "true" || s == "True" || s == "TRUE" then some true
  else if s == "false" || s == "False" || s == "FALSE" then some false
  else none

-- ========================================================= integers

/-- The number that digits of a base spell. -/
def natural? (base : Nat) (digits : List Char) : Option Nat :=
  if digits.isEmpty then none
  else
    digits.foldlM (fun value c => do
      let digit ← Json.hexValue? c
      if digit < base then some (base * value + digit) else none) 0

/-- The number that digits after the mark of another base spell. -/
def based? : List Char → Option Nat
  | '0' :: 'x' :: digits => natural? 16 digits
  | '0' :: 'o' :: digits => natural? 8 digits
  | '0' :: 'b' :: digits => natural? 2 digits
  | _ => none

/-- Whether a scalar consists of several digits of which the first is
zero, with or without a sign. -/
def hasLeadingZero (cs : List Char) : Bool :=
  let digits :=
    match cs with
    | '-' :: rest | '+' :: rest => rest
    | cs => cs
  match digits with
  | '0' :: c :: rest => (c :: rest).all Char.isDigit
  | _ => false

/-- The integer that a plain scalar is. -/
def integer? (cs : List Char) : Option Int :=
  let decimal (digits : List Char) : Option Nat :=
    if hasLeadingZero cs then none else natural? 10 digits
  match cs with
  | '-' :: digits => ((based? digits).or (decimal digits)).map fun value => -(value : Int)
  | '+' :: digits => ((based? digits).or (decimal digits)).map fun value => (value : Int)
  | digits => ((based? digits).or (decimal digits)).map fun value => (value : Int)

/-- Whether 128 bits hold an integer, with a sign or without one. -/
def isWide (value : Int) : Bool :=
  -0x80000000000000000000000000000000 ≤ value && value ≤ 0xFFFFFFFFFFFFFFFFFFFFFFFFFFFFFFFF

/-- An integer as a value. One that is between 64 and 128 bits wide is
refused; a wider one is none. -/
def integerTree? (cs : List Char) : Option Tree := do
  let value ← integer? cs
  if Number.minInteger ≤ value ∧ value ≤ Number.maxInteger then some (.number (.integer value))
  else if isWide value then some .defect
  else none

-- =================================================== floating point

/-- The digits of a floating-point number without its sign: before and after
the point, and of the power of ten. -/
def real? (negative : Bool) (cs : List Char) : Option Number.Binary64 := do
  let whole := cs.takeWhile Char.isDigit
  let (fraction, rest) :=
    match cs.dropWhile Char.isDigit with
    | '.' :: rest => (rest.takeWhile Char.isDigit, rest.dropWhile Char.isDigit)
    | rest => ([], rest)
  if whole.isEmpty && fraction.isEmpty then none
  let (exponent, rest) ← Json.readExponent rest
  if ! rest.isEmpty then none
  let power : Int :=
    match exponent with
    | none => 0
    | some (true, digits) => -(Json.digitsValue 0 digits : Int)
    | some (false, digits) => Json.digitsValue 0 digits
  Number.Binary64.ofDecimal? negative (Json.digitsValue 0 (whole ++ fraction))
    (power - fraction.length)

/-- A floating-point number as a value. What is too large for the format is
none. -/
def realTree? (s : String) : Option Tree :=
  if s == ".nan" || s == ".NaN" || s == ".NAN" then some .nonFinite
  else
    let size := s.toList.drop (if s.startsWith "-" || s.startsWith "+" then 1 else 0)
    if size == ".inf".toList || size == ".Inf".toList || size == ".INF".toList then some .nonFinite
    else (real? (s.startsWith "-") size).map (Tree.number ∘ .real)

/-- The value of a plain scalar. -/
def plainTree (s : String) : Tree :=
  if s == "" || isNull s then .null
  else
    match flag? s with
    | some value => .flag value
    | none =>
    match integerTree? s.toList with
    | some tree => tree
    | none =>
    match if hasLeadingZero s.toList then none else realTree? s with
    | some tree => tree
    | none => .text s

end OpenApiTypes.Yaml
