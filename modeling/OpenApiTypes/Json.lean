/-
JSON values, kept raw wherever a schema may hold any value: in `enum`, in
`const` and in `example`. An object is a list of entries with distinct keys
in ascending order, so that two objects are equal exactly when they hold the
same values under the same keys.
-/
import OpenApiTypes.Number
import OpenApiTypes.Text.Order

namespace OpenApiTypes

/-- A JSON value. -/
inductive Json where
  | null
  | bool (value : Bool)
  | number (value : Number)
  | string (value : String)
  | array (items : List Json)
  | object (entries : List (String × Json))

/-- The entries of a map with each key once, standing where it stood last
and with its last value. -/
def lastEntries {α : Type} : List (String × α) → List (String × α)
  | [] => []
  | (key, value) :: rest =>
      if rest.any (·.1 == key) then lastEntries rest
      else (key, value) :: lastEntries rest

namespace Json

/-- The object that a list of entries denotes: of a repeated key the last
value counts. -/
def ofEntries (entries : List (String × Json)) : Json :=
  .object (Text.sortEntries (lastEntries entries))

-- ============================================================= text

/-- The four lower-case hexadecimal digits of a code below `2 ^ 16`. -/
def hex4 (code : Nat) : List Char :=
  let digits := Nat.toDigits 16 code
  List.replicate (4 - digits.length) '0' ++ digits

/-- How one character stands in a JSON string. -/
def stringChar (c : Char) : List Char :=
  if c = '"' then ['\\', '"']
  else if c = '\\' then ['\\', '\\']
  else if c = '\x08' then ['\\', 'b']
  else if c = '\x0c' then ['\\', 'f']
  else if c = '\n' then ['\\', 'n']
  else if c = '\r' then ['\\', 'r']
  else if c = '\t' then ['\\', 't']
  else if c.toNat < 0x20 then '\\' :: 'u' :: hex4 c.toNat
  else [c]

/-- A string in quotes. -/
def stringText (s : String) : String :=
  "\"" ++ String.ofList (s.toList.flatMap stringChar) ++ "\""

mutual

/-- The text of a value without blanks. -/
def text : Json → String
  | .null => "null"
  | .bool value => if value then "true" else "false"
  | .number value => value.text
  | .string value => stringText value
  | .array items => "[" ++ itemsText items ++ "]"
  | .object entries => "\x7b" ++ entriesText entries ++ "\x7d"

/-- The texts of the items of an array, between commas. -/
def itemsText : List Json → String
  | [] => ""
  | [item] => item.text
  | item :: next :: rest => item.text ++ "," ++ itemsText (next :: rest)

/-- The texts of the entries of an object, between commas. -/
def entriesText : List (String × Json) → String
  | [] => ""
  | [(key, value)] => stringText key ++ ":" ++ value.text
  | (key, value) :: next :: rest =>
      stringText key ++ ":" ++ value.text ++ "," ++ entriesText (next :: rest)

end

end Json

end OpenApiTypes
