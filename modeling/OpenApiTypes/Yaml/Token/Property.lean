/-
The tokens around the nodes: anchors and aliases, tags, and the directives
before a document. A tag is a handle, which a directive may give a meaning,
and a suffix.
-/
import OpenApiTypes.Yaml.Token

namespace OpenApiTypes.Yaml

/-- The characters of one line that satisfy a test, and the cursor behind
them. -/
def takeWhile (test : Char → Bool) (cursor : Cursor) : List Char × Cursor :=
  (cursor.rest.takeWhile test, cursor.skipWhile test)

-- ========================================================== anchors

/-- Whether an anchor may end here. -/
def endsAnchor (cs : List Char) : Bool :=
  atGap cs || cs.head?.any fun c =>
    c == '?' || c == ':' || c == ',' || c == ']' || c == '\x7d' || c == '%' || c == '@' || c == '\x60'

/-- The name of an anchor or alias, from its indicator. -/
def anchorName (cursor : Cursor) : Option (String × Cursor) :=
  let (name, cursor) := takeWhile isWord (cursor.skip 1)
  if name.isEmpty || ! endsAnchor cursor.rest then none
  else some (String.ofList name, cursor)

-- ============================================================= tags

/-- Whether a character may stand in a tag besides words. -/
def isTagMark (c : Char) : Bool :=
  c == ';' || c == '/' || c == '?' || c == ':' || c == '@' || c == '&' || c == '=' || c == '+'
    || c == '$' || c == '.' || c == '!' || c == '~' || c == '*' || c == '\'' || c == '('
    || c == ')'

/-- An octet written as a percent sign and two hexadecimal digits. -/
def octet? : List Char → Option (Nat × List Char)
  | '%' :: a :: b :: rest => do
      some (16 * (← Json.hexValue? a) + (← Json.hexValue? b), rest)
  | _ => none

/-- Further octets of an encoded character, added to its code. -/
def moreOctets (code : Nat) (cs : List Char) : Nat → Option (Nat × List Char)
  | 0 => some (code, cs)
  | count + 1 => do
      let (octet, rest) ← octet? cs
      if octet / 64 = 2 then moreOctets (64 * code + octet % 64) rest count else none

/-- A character written as the octets of its UTF-8 encoding. -/
def octetsChar? (cs : List Char) : Option (Char × List Char) := do
  let (octet, rest) ← octet? cs
  let (code, rest) ←
    if octet < 0x80 then some (octet, rest)
    else if octet / 0x20 = 6 then moreOctets (octet % 0x20) rest 1
    else if octet / 0x10 = 14 then moreOctets (octet % 0x10) rest 2
    else if octet / 8 = 30 then moreOctets (octet % 8) rest 3
    else none
  some (Char.ofNat code, rest)

/-- The part of a tag at the start of a text. Commas and square brackets may
stand in it only where it is verbatim. -/
def readTagText (verbatim : Bool) (cs : List Char) : Nat → Option (List Char × List Char)
  | 0 => some ([], cs)
  | bound + 1 =>
      match cs with
      | [] => some ([], [])
      | '%' :: rest => do
          let (c, rest) ← octetsChar? ('%' :: rest)
          let (text, rest) ← readTagText verbatim rest bound
          some (c :: text, rest)
      | c :: rest =>
          if isWord c || isTagMark c || (verbatim && (c == ',' || c == '[' || c == ']')) then do
            let (text, rest) ← readTagText verbatim rest bound
            some (c :: text, rest)
          else some ([], c :: rest)

/-- The part of a tag at the cursor. -/
def tagText (verbatim : Bool) (cursor : Cursor) : Option (List Char × Cursor) := do
  let (text, rest) ← readTagText verbatim cursor.rest cursor.left
  some (text, cursor.moveTo rest)

/-- A handle at the cursor, or what might have become one: an exclamation
mark, the word after it, and a second mark if there is one. -/
def tagHandle? (cursor : Cursor) : Option (List Char × Cursor) :=
  if cursor.looksAt '!' then
    let (word, cursor) := takeWhile isWord (cursor.skip 1)
    if cursor.looksAt '!' then some ('!' :: word ++ ['!'], cursor.skip 1)
    else some ('!' :: word, cursor)
  else none

/-- Whether a text is a handle with a mark at either end. -/
def isHandle (cs : List Char) : Bool := 2 ≤ cs.length && cs.getLast? == some '!'

/-- A tag from its exclamation mark. A tag that is a mark alone has no
handle. -/
def tagToken (flow : Bool) (cursor : Cursor) : Option (Token × Cursor) := do
  let ((handle, suffix), cursor) ←
    match cursor.rest with
    | '!' :: '<' :: _ => do
        let (text, cursor) ← tagText true (cursor.skip 2)
        if text.isEmpty || ! cursor.looksAt '>' then none
        else some (([], text), cursor.skip 1)
    | _ => do
        let (start, cursor) ← tagHandle? cursor
        let (text, cursor) ← tagText false cursor
        if isHandle start then
          if text.isEmpty then none else some ((start, text), cursor)
        else
          match start.drop 1 ++ text with
          | [] => some (([], ['!']), cursor)
          | suffix => some ((['!'], suffix), cursor)
  if atGap cursor.rest || (flow && cursor.looksAt ',') then
    some (.tag (String.ofList handle) (String.ofList suffix), cursor)
  else none

-- ======================================================= directives

/-- A number of at most nine digits in a version. -/
def versionNumber (cursor : Cursor) : Option (Nat × Cursor) :=
  let (digits, cursor) := takeWhile Char.isDigit cursor
  if digits.isEmpty || 9 < digits.length then none
  else some (Json.digitsValue 0 digits, cursor)

/-- The version after the name of its directive. -/
def versionToken (cursor : Cursor) : Option (Token × Cursor) := do
  let (major, cursor) ← versionNumber (cursor.skipWhile isBlank)
  if ! cursor.looksAt '.' then none
  let (minor, cursor) ← versionNumber (cursor.skip 1)
  some (.versionDirective major minor, cursor)

/-- The handle and its meaning after the name of their directive. -/
def tagMeaningToken (cursor : Cursor) : Option (Token × Cursor) := do
  let (handle, cursor) ← tagHandle? (cursor.skipWhile isBlank)
  if ! (handle == ['!'] || isHandle handle) then none
  if ! cursor.rest.head?.any isBlank then none
  let (stem, cursor) ← tagText true (cursor.skipWhile isBlank)
  if stem.isEmpty || ! atGap cursor.rest then none
  some (.tagDirective (String.ofList handle) (String.ofList stem), cursor)

/-- A directive from its percent sign, with the rest of its line. -/
def directiveToken (cursor : Cursor) : Option (Token × Cursor) := do
  let (name, cursor) := takeWhile isWord (cursor.skip 1)
  if ! atGap cursor.rest then none
  let (token, cursor) ←
    match String.ofList name with
    | "YAML" => versionToken cursor
    | "TAG" => tagMeaningToken cursor
    | _ => none
  some (token, ← cursor.skipLineRest?)

end OpenApiTypes.Yaml
