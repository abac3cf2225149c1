/-
The scalars of YAML in their five styles, read off a text to the string that
they spell. Line ends in flow scalars are folded: a single one becomes a
space, and of several the first is dropped.
-/
import OpenApiTypes.Json.Reading
import OpenApiTypes.Yaml.Cursor

namespace OpenApiTypes.Yaml

/-- How a scalar is written. -/
inductive Style where
  | plain
  | singleQuoted
  | doubleQuoted
  | literal
  | folded
  deriving DecidableEq, Repr

-- ============================================================= gaps

/-- What stands between two words of a flow scalar: blanks, or line ends, of
which the first is told from the others. Blanks around line ends do not
count. -/
structure Gap where
  blanks : List Char := []
  broken : Bool := false
  first : List Char := []
  others : List Char := []

/-- What a gap stands for between two words. -/
def Gap.text (gap : Gap) : List Char :=
  if gap.broken then
    if gap.first = ['\n'] then
      if gap.others.isEmpty then [' '] else gap.others
    else gap.first ++ gap.others
  else gap.blanks

/-- Reads on in a gap. A tab before the indent of a line is refused. The
bound is on the characters of the gap. -/
def readGap (indent : Int) (gap : Gap) (cursor : Cursor) : Nat → Option (Gap × Cursor)
  | 0 => some (gap, cursor)
  | bound + 1 =>
      match cursor.rest with
      | [] => some (gap, cursor)
      | c :: _ =>
          if isBlank c then
            if gap.broken then
              if c == '\t' && cursor.column < indent then none
              else readGap indent gap (cursor.skip 1) bound
            else readGap indent { gap with blanks := gap.blanks ++ [c] } (cursor.skip 1) bound
          else if isBreak c then
            let (text, cursor) := cursor.takeBreak
            if gap.broken then
              readGap indent { gap with others := gap.others ++ text } cursor bound
            else readGap indent { gap with broken := true, first := text } cursor bound
          else some (gap, cursor)

/-- Reads a gap from its start. -/
def gapAt (indent : Int) (gap : Gap) (cursor : Cursor) : Option (Gap × Cursor) :=
  readGap indent gap cursor cursor.left

-- ==================================================== plain scalars

/-- The flow indicators, which end a plain scalar inside a flow collection. -/
def isFlowIndicator (c : Char) : Bool :=
  c == ',' || c == '[' || c == ']' || c == '\x7b' || c == '\x7d'

/-- A word of a plain scalar, and the rest. A colon ends it before a gap; in
a flow collection a colon right before an indicator is refused. -/
def plainWord (flow : Bool) : List Char → Option (List Char × List Char)
  | [] => some ([], [])
  | c :: rest =>
      if isBlank c || isBreak c then some ([], c :: rest)
      else if flow && c == ':' && rest.head?.any (fun c => isFlowIndicator c || c == '?') then none
      else if c == ':' && atGap rest then some ([], c :: rest)
      else if flow && isFlowIndicator c then some ([], c :: rest)
      else do
        let (word, rest) ← plainWord flow rest
        some (c :: word, rest)

/-- A plain scalar as read so far. -/
structure Plain where
  text : List Char
  /-- Whether a line end stands between the text and the cursor. -/
  broken : Bool
  cursor : Cursor

/-- Reads on in a plain scalar, after the gap before the next word. -/
def readPlain (flow : Bool) (indent : Int) (text : List Char) (gap : Gap) (cursor : Cursor) :
    Nat → Option Plain
  | 0 => some ⟨text, gap.broken, cursor⟩
  | bound + 1 =>
      if cursor.looksAtMark '-' || cursor.looksAtMark '.' || cursor.looksAt '#' then
        some ⟨text, gap.broken, cursor⟩
      else do
        let (word, rest) ← plainWord flow cursor.rest
        let (text, gap) :=
          if word.isEmpty then (text, gap) else (text ++ gap.text ++ word, ({} : Gap))
        let cursor := cursor.skip word.length
        if inGap rest then
          let (gap, cursor) ← gapAt indent gap cursor
          if ! flow && cursor.column < indent then some ⟨text, gap.broken, cursor⟩
          else readPlain flow indent text gap cursor bound
        else some ⟨text, gap.broken, cursor⟩

/-- A plain scalar inside a block of some indent. -/
def plainScalar (flow : Bool) (indent : Int) (cursor : Cursor) : Option Plain :=
  readPlain flow (indent + 1) [] {} cursor (cursor.left + 1)

-- =================================================== quoted scalars

/-- A word of a single-quoted scalar, up to a gap or the closing quote, and
the rest. -/
def singleQuotedWord : List Char → List Char × List Char
  | [] => ([], [])
  | '\'' :: '\'' :: rest =>
      let (word, rest) := singleQuotedWord rest
      ('\'' :: word, rest)
  | c :: rest =>
      if c == '\'' || isBlank c || isBreak c then ([], c :: rest)
      else
        let (word, rest) := singleQuotedWord rest
        (c :: word, rest)

/-- The character that a backslash and this one stand for. -/
def escaped? : Char → Option Char
  | '0' => some '\x00'
  | 'a' => some '\x07'
  | 'b' => some '\x08'
  | 't' => some '\t'
  | '\t' => some '\t'
  | 'n' => some '\n'
  | 'v' => some '\x0b'
  | 'f' => some '\x0c'
  | 'r' => some '\r'
  | 'e' => some '\x1b'
  | ' ' => some ' '
  | '"' => some '"'
  | '/' => some '/'
  | '\\' => some '\\'
  | 'N' => some '\x85'
  | '_' => some '\xa0'
  | 'L' => some '\u2028'
  | 'P' => some '\u2029'
  | _ => none

/-- The character of a code given in hexadecimal digits. -/
def coded? (digits : List Char) : Option Char := do
  let values ← digits.mapM Json.hexValue?
  let code := values.foldl (fun code digit => 16 * code + digit) 0
  if code.isValidChar then some (Char.ofNat code) else none

/-- A word of a double-quoted scalar, up to a gap, an escaped line end or
the closing quote, and the rest. -/
def doubleQuotedWord : List Char → Option (List Char × List Char)
  | [] => some ([], [])
  | '\\' :: 'x' :: a :: b :: rest => do
      let c ← coded? [a, b]
      let (word, rest) ← doubleQuotedWord rest
      some (c :: word, rest)
  | '\\' :: 'u' :: a :: b :: c :: d :: rest => do
      let c ← coded? [a, b, c, d]
      let (word, rest) ← doubleQuotedWord rest
      some (c :: word, rest)
  | '\\' :: 'U' :: a :: b :: c :: d :: e :: f :: g :: h :: rest => do
      let c ← coded? [a, b, c, d, e, f, g, h]
      let (word, rest) ← doubleQuotedWord rest
      some (c :: word, rest)
  | '\\' :: c :: rest =>
      if isBreak c then some ([], '\\' :: c :: rest)
      else do
        let c ← escaped? c
        let (word, rest) ← doubleQuotedWord rest
        some (c :: word, rest)
  | c :: rest =>
      if c == '"' || isBlank c || isBreak c then some ([], c :: rest)
      else if c == '\\' then none
      else do
        let (word, rest) ← doubleQuotedWord rest
        some (c :: word, rest)

/-- A word of a quoted scalar. -/
def quotedWord (single : Bool) (cs : List Char) : Option (List Char × List Char) :=
  if single then some (singleQuotedWord cs) else doubleQuotedWord cs

/-- Reads on in a quoted scalar. The mark of a document may not stand in
it. -/
def readQuoted (single : Bool) (text : List Char) (cursor : Cursor) :
    Nat → Option (List Char × Cursor)
  | 0 => none
  | bound + 1 =>
      if cursor.looksAtMark '-' || cursor.looksAtMark '.' then none
      else do
        let (word, rest) ← quotedWord single cursor.rest
        let text := text ++ word
        let cursor := cursor.moveTo rest
        if cursor.looksAt (if single then '\'' else '"') then some (text, cursor.skip 1)
        else
          let (gap, cursor) :=
            if cursor.looksAt '\\' then
              ({ broken := true : Gap }, (cursor.skip 1).skipBreak)
            else ({}, cursor)
          let (gap, cursor) ← gapAt 0 gap cursor
          readQuoted single (text ++ gap.text) cursor bound

/-- A quoted scalar from its opening quote. -/
def quotedScalar (single : Bool) (cursor : Cursor) : Option (List Char × Cursor) :=
  readQuoted single [] (cursor.skip 1) (cursor.left + 1)

-- ==================================================== block scalars

/-- What happens to the line ends after the last line of a block scalar. -/
inductive Chomping where
  | strip
  | clip
  | keep
  deriving DecidableEq, Repr

/-- The chomping indicator, if it is next. -/
def chomping? : List Char → Option (Chomping × List Char)
  | '+' :: rest => some (.keep, rest)
  | '-' :: rest => some (.strip, rest)
  | _ => none

/-- The header of a block scalar after its first character: the chomping and
the extra indent, in either order, each of which may be left out. An indent
of zero is refused. -/
def blockHeader (cs : List Char) : Option ((Chomping × Nat) × List Char) :=
  let indent : List Char → Option (Nat × List Char)
    | c :: rest =>
        if c == '0' then none
        else if c.isDigit then some (c.toNat - '0'.toNat, rest)
        else some (0, c :: rest)
    | [] => some (0, [])
  match chomping? cs with
  | some (chomping, rest) => do
      let (extra, rest) ← indent rest
      some ((chomping, extra), rest)
  | none => do
      let (extra, rest) ← indent cs
      if extra = 0 then some ((.clip, 0), rest)
      else
        let (chomping, rest) := (chomping? rest).getD (.clip, rest)
        some ((chomping, extra), rest)

/-- The empty lines before the next line of a block scalar, the greatest
column met, and the cursor behind the indent of that line. An indent of zero
is not known yet. A tab in the place of indent is refused. -/
def readEmptyLines (indent : Nat) (breaks : List Char) (widest : Nat) (cursor : Cursor) :
    Nat → Option (List Char × Nat × Cursor)
  | 0 => some (breaks, widest, cursor)
  | bound + 1 =>
      let spaces := (cursor.rest.takeWhile (· == ' ')).length
      let room := if indent = 0 then spaces else indent - cursor.column
      let cursor := cursor.skip (min spaces room)
      let widest := max widest cursor.column
      if cursor.looksAt '\t' && (indent = 0 || cursor.column < indent) then none
      else if cursor.rest.head?.any isBreak then
        let (text, cursor) := cursor.takeBreak
        readEmptyLines indent (breaks ++ text) widest cursor bound
      else some (breaks, widest, cursor)

/-- The empty lines before the next line, and the indent, which is settled
by the first line if it is not known. -/
def emptyLines (outer : Int) (indent : Nat) (cursor : Cursor) :
    Option (List Char × Nat × Cursor) := do
  let (breaks, widest, cursor) ← readEmptyLines indent [] 0 cursor (cursor.left + 1)
  let indent := if indent = 0 then max (max widest (outer + 1).toNat) 1 else indent
  some (breaks, indent, cursor)

/-- A block scalar as read so far: its text, the line end after its last
line and the empty lines after that, and whether that line started with a
blank. -/
structure BlockText where
  text : List Char := []
  lineEnd : List Char := []
  breaks : List Char := []
  blankStart : Bool := false

/-- Reads on in a block scalar at the start of a line. In a folded scalar a
line end between two lines becomes a space, unless empty lines stand there
too or one of the lines starts with a blank. -/
def readBlock (folded : Bool) (outer : Int) (indent : Nat) (block : BlockText)
    (cursor : Cursor) : Nat → Option (BlockText × Cursor)
  | 0 => some (block, cursor)
  | bound + 1 =>
      if cursor.column ≠ indent || cursor.rest.isEmpty then some (block, cursor)
      else do
        let blankStart := cursor.rest.head?.any isBlank
        let lineEnd :=
          if folded && block.lineEnd == ['\n'] && ! block.blankStart && ! blankStart then
            if block.breaks.isEmpty then [' '] else []
          else block.lineEnd
        let line := cursor.rest.takeWhile (! isBreak ·)
        let text := block.text ++ lineEnd ++ block.breaks ++ line
        let (lineEnd, cursor) := (cursor.skip line.length).takeBreak
        let (breaks, indent, cursor) ← emptyLines outer indent cursor
        readBlock folded outer indent { text, lineEnd, breaks, blankStart } cursor bound

/-- A block scalar from its first character, inside a block of some
indent. -/
def blockScalar (folded : Bool) (outer : Int) (cursor : Cursor) :
    Option (List Char × Cursor) := do
  let cursor := cursor.skip 1
  let ((chomping, extra), rest) ← blockHeader cursor.rest
  let cursor ← (cursor.moveTo rest).skipLineRest?
  let indent := if extra = 0 then 0 else (max outer 0).toNat + extra
  let (breaks, indent, cursor) ← emptyLines outer indent cursor
  let (block, cursor) ←
    readBlock folded outer indent { breaks } cursor (cursor.left + 1)
  let tail :=
    match chomping with
    | .strip => []
    | .clip => block.lineEnd
    | .keep => block.lineEnd ++ block.breaks
  some (block.text ++ tail, cursor)

end OpenApiTypes.Yaml
