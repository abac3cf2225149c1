/-
Reading JSON text into a tree. The text has to be JSON throughout, and
nothing may follow the value but blanks. What a reader that skips a value
need not look at is left to the tree: a number out of range and a string
with half of a surrogate pair become defects, and any nesting is read.
-/
import OpenApiTypes.Json.Numeral
import OpenApiTypes.Tree

namespace OpenApiTypes.Json

/-- Skips the blanks of JSON: space, tab and the two line ends. -/
def skipBlanks : List Char → List Char
  | [] => []
  | c :: rest =>
      if c = ' ' ∨ c = '\t' ∨ c = '\n' ∨ c = '\r' then skipBlanks rest else c :: rest

-- ========================================================== numbers

/-- The digits at the start of a text, at least one. -/
def readDigits (cs : List Char) : Option (List Char × List Char) :=
  match cs.takeWhile Char.isDigit with
  | [] => none
  | digits => some (digits, cs.dropWhile Char.isDigit)

/-- The whole part of a number: a zero alone, or digits that do not start
with one. -/
def readWhole (cs : List Char) : Option (List Char × List Char) := do
  let (digits, rest) ← readDigits cs
  match digits with
  | '0' :: _ :: _ => none
  | _ => some (digits, rest)

/-- The fraction of a number, if a point follows. -/
def readFraction : List Char → Option (Option (List Char) × List Char)
  | '.' :: rest => do
      let (digits, rest) ← readDigits rest
      some (some digits, rest)
  | rest => some (none, rest)

/-- The digits of an exponent after its sign. -/
def readSigned (negative : Bool) (cs : List Char) :
    Option (Option (Bool × List Char) × List Char) := do
  let (digits, rest) ← readDigits cs
  some (some (negative, digits), rest)

/-- The exponent of a number, if its letter follows. -/
def readExponent : List Char → Option (Option (Bool × List Char) × List Char)
  | c :: rest =>
      if c = 'e' ∨ c = 'E' then
        match rest with
        | '+' :: rest => readSigned false rest
        | '-' :: rest => readSigned true rest
        | rest => readSigned false rest
      else some (none, c :: rest)
  | [] => some (none, [])

/-- A number after its sign. -/
def readUnsigned (negative : Bool) (cs : List Char) : Option (Tree × List Char) := do
  let (whole, rest) ← readWhole cs
  let (fraction, rest) ← readFraction rest
  let (exponent, rest) ← readExponent rest
  let numeral : Numeral := ⟨negative, whole, fraction, exponent⟩
  some ((numeral.value?.map Tree.number).getD .defect, rest)

-- ========================================================== strings

/-- A part of a string: a character, or a code written as `\u` and four
hexadecimal digits, which may be half of a surrogate pair. -/
inductive Piece where
  | char (c : Char)
  | code (value : Nat)

/-- The value of a hexadecimal digit. -/
def hexValue? (c : Char) : Option Nat :=
  if c.isDigit then some (c.toNat - '0'.toNat)
  else if 'a' ≤ c ∧ c ≤ 'f' then some (c.toNat - 'a'.toNat + 10)
  else if 'A' ≤ c ∧ c ≤ 'F' then some (c.toNat - 'A'.toNat + 10)
  else none

/-- The value of four hexadecimal digits. -/
def hexCode? (a b c d : Char) : Option Nat := do
  let a ← hexValue? a
  let b ← hexValue? b
  let c ← hexValue? c
  let d ← hexValue? d
  some (((a * 16 + b) * 16 + c) * 16 + d)

/-- The character that a backslash and this one stand for. -/
def escaped? : Char → Option Char
  | '"' => some '"'
  | '\\' => some '\\'
  | '/' => some '/'
  | 'b' => some '\x08'
  | 'f' => some '\x0c'
  | 'n' => some '\n'
  | 'r' => some '\r'
  | 't' => some '\t'
  | _ => none

/-- The pieces of a string after its opening quote. -/
def readPieces : List Char → Option (List Piece × List Char)
  | [] => none
  | '"' :: rest => some ([], rest)
  | '\\' :: 'u' :: a :: b :: c :: d :: rest => do
      let code ← hexCode? a b c d
      let (pieces, rest) ← readPieces rest
      some (.code code :: pieces, rest)
  | '\\' :: c :: rest => do
      let c ← escaped? c
      let (pieces, rest) ← readPieces rest
      some (.char c :: pieces, rest)
  | c :: rest => do
      if c.toNat < 0x20 ∨ c = '\\' then none
      let (pieces, rest) ← readPieces rest
      some (.char c :: pieces, rest)

/-- Whether a code is the first half of a surrogate pair. -/
def isHighHalf (code : Nat) : Bool := 0xD800 ≤ code && code < 0xDC00

/-- Whether a code is the second half of a surrogate pair. -/
def isLowHalf (code : Nat) : Bool := 0xDC00 ≤ code && code < 0xE000

/-- The text that pieces spell, if no half of a surrogate pair stands
alone. -/
def spell : List Piece → Option (List Char)
  | [] => some []
  | .char c :: rest => (spell rest).map (c :: ·)
  | .code high :: .code low :: rest =>
      if isHighHalf high then
        if isLowHalf low then
          let c := Char.ofNat (0x10000 + (high - 0xD800) * 0x400 + (low - 0xDC00))
          (spell rest).map (c :: ·)
        else none
      else if isLowHalf high then none
      else (spell (.code low :: rest)).map (Char.ofNat high :: ·)
  | .code code :: rest =>
      if isHighHalf code || isLowHalf code then none
      else (spell rest).map (Char.ofNat code :: ·)

/-- A string after its opening quote. -/
def readString (cs : List Char) : Option (Tree × List Char) := do
  let (pieces, rest) ← readPieces cs
  some (((spell pieces).map (Tree.text ∘ String.ofList)).getD .defect, rest)

-- =========================================================== values

/-- The rest of a text after a word it starts with. -/
def dropWord? (word cs : List Char) : Option (List Char) :=
  if word.isPrefixOf cs then some (cs.drop word.length) else none

mutual

/-- A value, with the blanks before it. The bound counts the calls that may
be nested; twice the length of the text is always enough, since of two
nested calls one takes a character. -/
def readValue (bound : Nat) (cs : List Char) : Option (Tree × List Char) :=
  match bound with
  | 0 => none
  | bound + 1 =>
      match skipBlanks cs with
      | 'n' :: rest => (dropWord? "ull".toList rest).map (Tree.null, ·)
      | 't' :: rest => (dropWord? "rue".toList rest).map (Tree.flag true, ·)
      | 'f' :: rest => (dropWord? "alse".toList rest).map (Tree.flag false, ·)
      | '-' :: rest => readUnsigned true rest
      | '"' :: rest => readString rest
      | '[' :: rest =>
          match skipBlanks rest with
          | ']' :: rest => some (.list [], rest)
          | rest => do
              let (items, rest) ← readItems bound rest
              some (.list items, rest)
      | '\x7b' :: rest =>
          match skipBlanks rest with
          | '\x7d' :: rest => some (.map [], rest)
          | rest => do
              let (entries, rest) ← readEntries bound rest
              some (.map entries, rest)
      | rest => readUnsigned false rest

/-- The items of an array up to its closing bracket, at least one. -/
def readItems (bound : Nat) (cs : List Char) : Option (List Tree × List Char) :=
  match bound with
  | 0 => none
  | bound + 1 => do
      let (item, rest) ← readValue bound cs
      match skipBlanks rest with
      | ']' :: rest => some ([item], rest)
      | ',' :: rest => do
          let (items, rest) ← readItems bound rest
          some (item :: items, rest)
      | _ => none

/-- The entries of an object up to its closing brace, at least one. -/
def readEntries (bound : Nat) (cs : List Char) : Option (List (Tree × Tree) × List Char) :=
  match bound with
  | 0 => none
  | bound + 1 =>
      match skipBlanks cs with
      | '"' :: rest => do
          let (key, rest) ← readString rest
          match skipBlanks rest with
          | ':' :: rest => do
              let (value, rest) ← readValue bound rest
              match skipBlanks rest with
              | '\x7d' :: rest => some ([(key, value)], rest)
              | ',' :: rest => do
                  let (entries, rest) ← readEntries bound rest
                  some ((key, value) :: entries, rest)
              | _ => none
          | _ => none
      | _ => none

end

/-- The tree of a JSON text, or nothing when it is not one. -/
def readTree? (text : String) : Option Tree := do
  let cs := text.toList
  let (tree, rest) ← readValue (2 * cs.length + 2) cs
  match skipBlanks rest with
  | [] => some tree
  | _ => none

end OpenApiTypes.Json
