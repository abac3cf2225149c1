/-
Reading settings from TOML text. A settings file is a list of lines that
each give a value to a key, with comments and empty lines between them. A
setting is a text, an integer or a truth value, so these are the values that
are read; a file with any other kind of value, with a table or with a key
given twice is refused.
-/
import OpenApiTypes.Json.Reading

namespace OpenApiTypes.Toml

/-- The values. -/
inductive Value where
  | text (value : String)
  | integer (value : Int)
  | truth (value : Bool)
  deriving DecidableEq, Repr

-- ================================================== between values

/-- The blanks within a line. -/
def isSpace (c : Char) : Bool := c = ' ' || c = '\t'

/-- The characters that may stand in comments and strings: all but the
control characters, of which only the tab is one. -/
def isPlain (c : Char) : Bool := c = '\t' || (0x20 ≤ c.toNat && c.toNat ≠ 0x7F)

/-- Skips the blanks within a line. -/
def skipSpace (cs : List Char) : List Char := cs.dropWhile isSpace

/-- Skips a comment. -/
def skipComment : List Char → List Char
  | '#' :: rest => rest.dropWhile isPlain
  | cs => cs

/-- The text after a line end. The end of the text is one too. -/
def lineEnd? : List Char → Option (List Char)
  | [] => some []
  | '\n' :: rest => some rest
  | '\r' :: '\n' :: rest => some rest
  | _ => none

/-- The text after the end of a line on which nothing more stands than a
comment. -/
def finishLine? (cs : List Char) : Option (List Char) := lineEnd? (skipComment (skipSpace cs))

/-- Skips blanks and line ends. -/
def skipLines : List Char → List Char
  | '\r' :: '\n' :: rest => skipLines rest
  | c :: rest => if c = '\n' || isSpace c then skipLines rest else c :: rest
  | [] => []

-- ========================================================= strings

/-- The character that some hexadecimal digits give the code of. -/
def charOfHex? (digits : List Char) : Option Char := do
  let code := (← digits.mapM Json.hexValue?).foldl (16 * · + ·) 0
  if h : code.isValidChar then some (Char.ofNatAux code h) else none

/-- The character that is written after a backslash. -/
def escaped? : List Char → Option (Char × List Char)
  | '"' :: rest => some ('"', rest)
  | '\\' :: rest => some ('\\', rest)
  | 'b' :: rest => some ('\x08', rest)
  | 't' :: rest => some ('\t', rest)
  | 'n' :: rest => some ('\n', rest)
  | 'f' :: rest => some ('\x0C', rest)
  | 'r' :: rest => some ('\r', rest)
  | 'u' :: a :: b :: c :: d :: rest => do some (← charOfHex? [a, b, c, d], rest)
  | 'U' :: a :: b :: c :: d :: e :: f :: g :: h :: rest => do
      some (← charOfHex? [a, b, c, d, e, f, g, h], rest)
  | _ => none

/-- The rest of a string in double quotes. -/
def basicWithin : Nat → List Char → Option (List Char × List Char)
  | 0, _ => none
  | fuel + 1, cs =>
      match cs with
      | [] => none
      | '"' :: rest => some ([], rest)
      | '\\' :: rest => do
          let (c, rest) ← escaped? rest
          let (body, rest) ← basicWithin fuel rest
          some (c :: body, rest)
      | c :: rest =>
          if isPlain c then do
            let (body, rest) ← basicWithin fuel rest
            some (c :: body, rest)
          else none

/-- The rest of a string in single quotes, where every character stands for
itself. -/
def literalBody : List Char → Option (List Char × List Char)
  | [] => none
  | c :: rest =>
      if c = '\'' then some ([], rest)
      else if isPlain c then do
        let (body, rest) ← literalBody rest
        some (c :: body, rest)
      else none

/-- Up to two quotes that stand before the three that end a string of
several lines belong to the string. -/
def endingQuotes (quote : Char) : List Char → List Char × List Char
  | a :: b :: rest =>
      if a = quote then
        if b = quote then ([a, b], rest) else ([a], b :: rest)
      else ([], a :: b :: rest)
  | [a] => if a = quote then ([a], []) else ([], [a])
  | [] => ([], [])

/-- The rest of a string of several lines. Lines end in a line feed however
they are written; where a backslash has a meaning, one at the end of a line
takes that end and the blanks after it away. -/
def linesWithin (quote : Char) (escapes : Bool) : Nat → List Char →
    Option (List Char × List Char)
  | 0, _ => none
  | fuel + 1, cs =>
      let going (c : Char) (rest : List Char) := do
        let (body, rest) ← linesWithin quote escapes fuel rest
        some (c :: body, rest)
      match cs with
      | [] => none
      | '\r' :: '\n' :: rest => going '\n' rest
      | '\n' :: rest => going '\n' rest
      | c :: rest =>
          if c = quote && rest.take 2 = [quote, quote] then
            some (endingQuotes quote (rest.drop 2))
          else if c = '\\' && escapes then
            match skipSpace rest with
            | '\n' :: rest => linesWithin quote escapes fuel (skipLines rest)
            | '\r' :: '\n' :: rest => linesWithin quote escapes fuel (skipLines rest)
            | _ => do
                let (c, rest) ← escaped? rest
                going c rest
          else if isPlain c then going c rest
          else none

/-- A string of several lines after its opening quotes. A line end that
follows them at once does not belong to it. -/
def linesBody (quote : Char) (escapes : Bool) (cs : List Char) :
    Option (List Char × List Char) :=
  let cs :=
    match cs with
    | '\n' :: rest => rest
    | '\r' :: '\n' :: rest => rest
    | cs => cs
  linesWithin quote escapes (cs.length + 1) cs

/-- A string on one line. -/
def readQuoted : List Char → Option (List Char × List Char)
  | '"' :: rest => basicWithin (rest.length + 1) rest
  | '\'' :: rest => literalBody rest
  | _ => none

-- ========================================================= numbers

/-- The digits without the single underscores that may stand between two of
them. -/
def ungrouped? : List Char → Option (List Char)
  | [] => none
  | ['_'] => none
  | [c] => some [c]
  | '_' :: _ => none
  | c :: '_' :: rest => (ungrouped? rest).map (c :: ·)
  | c :: rest => (ungrouped? rest).map (c :: ·)

/-- The value of digits to a base. -/
def ofDigits? (base : Nat) (digits : List Char) : Option Nat := do
  let values ← digits.mapM Json.hexValue?
  if values.all (· < base) then some (values.foldl (base * · + ·) 0) else none

/-- The characters of a number. -/
def isNumeral (c : Char) : Bool := (Json.hexValue? c).isSome || c = '_'

/-- Digits to a base, with the rest of the text. -/
def readNatural (base : Nat) (cs : List Char) : Option (Nat × List Char) := do
  let value ← ofDigits? base (← ungrouped? (cs.takeWhile isNumeral))
  some (value, cs.dropWhile isNumeral)

/-- Decimal digits, which start with a zero only if it is the only one. -/
def readDecimal : List Char → Option (Nat × List Char)
  | '0' :: rest =>
      match rest with
      | c :: _ => if isNumeral c then none else some (0, rest)
      | [] => some (0, [])
  | cs => readNatural 10 cs

/-- An integer that fits into 64 bits with its sign. -/
def fitting? (value : Int) (rest : List Char) : Option (Value × List Char) :=
  if Number.minInteger ≤ value && value ≤ 0x7FFFFFFFFFFFFFFF then some (.integer value, rest)
  else none

/-- An integer. Only a decimal one may have a sign. -/
def readInteger : List Char → Option (Value × List Char)
  | '0' :: 'x' :: rest => do
      let (value, rest) ← readNatural 16 rest
      fitting? value rest
  | '0' :: 'o' :: rest => do
      let (value, rest) ← readNatural 8 rest
      fitting? value rest
  | '0' :: 'b' :: rest => do
      let (value, rest) ← readNatural 2 rest
      fitting? value rest
  | '+' :: rest => do
      let (value, rest) ← readDecimal rest
      fitting? value rest
  | '-' :: rest => do
      let (value, rest) ← readDecimal rest
      fitting? (-value) rest
  | cs => do
      let (value, rest) ← readDecimal cs
      fitting? value rest

-- =========================================================== lines

/-- A value. -/
def readValue : List Char → Option (Value × List Char)
  | '"' :: '"' :: '"' :: rest => do
      let (body, rest) ← linesBody '"' true rest
      some (.text (String.ofList body), rest)
  | '\'' :: '\'' :: '\'' :: rest => do
      let (body, rest) ← linesBody '\'' false rest
      some (.text (String.ofList body), rest)
  | 't' :: 'r' :: 'u' :: 'e' :: rest => some (.truth true, rest)
  | 'f' :: 'a' :: 'l' :: 's' :: 'e' :: rest => some (.truth false, rest)
  | cs =>
      match readQuoted cs with
      | some (body, rest) => some (.text (String.ofList body), rest)
      | none => readInteger cs

/-- The characters of a key without quotes. -/
def isKeyChar (c : Char) : Bool := c.isAlphanum || c = '_' || c = '-'

/-- A key. -/
def readKey (cs : List Char) : Option (String × List Char) :=
  match cs.takeWhile isKeyChar with
  | [] => do
      let (body, rest) ← readQuoted cs
      some (String.ofList body, rest)
  | key => some (String.ofList key, cs.dropWhile isKeyChar)

/-- A key with its value, to the end of the line. -/
def readEntry (cs : List Char) : Option ((String × Value) × List Char) := do
  let (key, rest) ← readKey cs
  match skipSpace rest with
  | '=' :: rest =>
      let (value, rest) ← readValue (skipSpace rest)
      some ((key, value), ← finishLine? rest)
  | _ => none

/-- The keys and values of some lines, in their order. -/
def entriesWithin : Nat → List Char → Option (List (String × Value))
  | 0, _ => none
  | fuel + 1, cs =>
      match cs with
      | [] => some []
      | cs =>
          match finishLine? cs with
          | some rest => entriesWithin fuel rest
          | none => do
              let (entry, rest) ← readEntry (skipSpace cs)
              some (entry :: (← entriesWithin fuel rest))

/-- The keys and values of a text, in their order. A byte order mark may
stand before them. -/
def entries? (text : String) : Option (List (String × Value)) := do
  let cs :=
    match text.toList with
    | '\uFEFF' :: rest => rest
    | cs => cs
  let entries ← entriesWithin (cs.length + 1) cs
  if (entries.map Prod.fst).Nodup then some entries else none

end OpenApiTypes.Toml
