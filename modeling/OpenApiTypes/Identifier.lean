/-
Identifiers of the emitted code. The name of a declaration is made from the
name of a definition by `typeName`, and the name in a reference by
`referenceName`, which takes the same last step, so that a reference and the
declaration it means always agree. A property or enum member keeps its name
and is put in quotes where it is no identifier.
-/
import OpenApiTypes.Text.Alphabetic
import OpenApiTypes.Text.Literal
import OpenApiTypes.Text.Numeric
import OpenApiTypes.Text.Uppercase

namespace OpenApiTypes.Identifier

/-- Words that the language keeps for itself. -/
def reservedWords : List String :=
  ["break", "case", "catch", "class", "const", "continue", "debugger", "default", "delete",
    "do", "else", "enum", "export", "extends", "false", "finally", "for", "function", "if",
    "import", "in", "instanceof", "new", "null", "return", "super", "switch", "this", "throw",
    "true", "try", "typeof", "var", "void", "while", "with", "yield", "let", "static",
    "implements", "interface", "package", "private", "protected", "public", "await", "async"]

/-- Types that the language names, which no declaration may take over. -/
def predefinedTypes : List String :=
  ["any", "boolean", "never", "number", "object", "string", "symbol", "bigint", "undefined",
    "unknown"]

/-- Whether a character may stand in an identifier after its start. -/
def isPart (c : Char) : Bool :=
  Text.isAlphabetic c || Text.isNumeric c || c == '_' || c == '$'

/-- Whether a character may start an identifier. -/
def isStart (c : Char) : Bool := Text.isAlphabetic c || c == '_' || c == '$'

-- ==================================================== property names

/-- Whether a name is an identifier as it stands. -/
def isIdentifier : List Char → Bool
  | [] => false
  | c :: rest => isStart c && (c :: rest).all isPart

/-- A name of a property or an enum member, in quotes unless it is an
identifier. -/
def quoteIfNeeded (name : String) : String :=
  if isIdentifier name.toList then name else Text.quote name

-- ======================================================== type names

/-- The maximal runs of identifier characters in a text. -/
def segments : List Char → List (List Char)
  | [] => []
  | c :: rest =>
      if isPart c then
        match rest with
        | [] => [[c]]
        | next :: _ =>
            if isPart next then
              match segments rest with
              | [] => [[c]]
              | segment :: others => (c :: segment) :: others
            else [c] :: segments rest
      else segments rest

/-- A segment with its first character in upper case. -/
def capitalize : List Char → List Char
  | [] => []
  | c :: rest => Text.toUpper c ++ rest

/-- The segments of a name run together, each but the first capitalized. -/
def joinSegments : List (List Char) → List Char
  | [] => []
  | first :: others => first ++ others.flatMap capitalize

/-- Whether a joined name cannot stand as the name of a type: it starts with
a number, or the language uses it. -/
def isTaken (name : List Char) : Bool :=
  match name with
  | [] => false
  | c :: _ =>
      Text.isNumeric c || reservedWords.contains (String.ofList name)
        || predefinedTypes.contains (String.ofList name)

/-- The name of the type declared for a definition. Characters that no
identifier holds separate its segments; a name that cannot stand gets an
underscore before it, and a name without any segment has one of its own. -/
def typeName (raw : String) : String :=
  match joinSegments (segments raw.toList) with
  | [] => "_empty"
  | name => String.ofList (if isTaken name then '_' :: name else name)

-- ======================================================== references

/-- What follows the last slash of a pointer, or all of it. -/
def lastSegment (pointer : List Char) : List Char :=
  (pointer.reverse.takeWhile (· != '/')).reverse

/-- Replaces each tilde that the given digit follows, with the digit, by a
character. -/
def replaceTilde (digit char : Char) : List Char → List Char
  | [] => []
  | '~' :: c :: rest =>
      if c = digit then char :: replaceTilde digit char rest
      else '~' :: replaceTilde digit char (c :: rest)
  | c :: rest => c :: replaceTilde digit char rest

/-- Undoes the escapes of a pointer segment: first those of slashes, then
those of tildes, so that an escaped tilde before a digit stays what it is. -/
def unescapeSegment (segment : List Char) : List Char :=
  replaceTilde '0' '~' (replaceTilde '1' '/' segment)

/-- The name of the type that a reference means. -/
def referenceName (pointer : String) : String :=
  typeName (String.ofList (unescapeSegment (lastSegment pointer.toList)))

end OpenApiTypes.Identifier
