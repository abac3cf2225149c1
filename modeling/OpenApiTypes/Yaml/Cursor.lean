/-
A place in a YAML text: what is left of the text, and where that starts. The
count of the characters that are left bounds all reading from there; the
column decides about nesting, the line and the index about how far away the
colon of a key may be.
-/

namespace OpenApiTypes.Yaml

/-- A place in a text. -/
structure Cursor where
  rest : List Char
  /-- The number of characters in the rest. -/
  left : Nat
  index : Nat := 0
  line : Nat := 0
  column : Nat := 0

/-- Whether a character ends a line. -/
def isBreak (c : Char) : Bool :=
  c == '\n' || c == '\r' || c == '\x85' || c == '\u2028' || c == '\u2029'

/-- Whether a character is a space or a tab. -/
def isBlank (c : Char) : Bool := c == ' ' || c == '\t'

/-- Whether a character may stand in the name of an anchor, a directive or a
tag handle. -/
def isWord (c : Char) : Bool := c.isAlphanum || c == '_' || c == '-'

/-- Whether a text is at its end or starts with a line end. -/
def atLineEnd : List Char → Bool
  | [] => true
  | c :: _ => isBreak c

/-- Whether a text is at its end or starts with a blank or a line end. -/
def atGap : List Char → Bool
  | [] => true
  | c :: _ => isBlank c || isBreak c

/-- Whether a text starts with a blank or a line end. -/
def inGap : List Char → Bool
  | [] => false
  | c :: _ => isBlank c || isBreak c

namespace Cursor

/-- Whether the next character is the given one. -/
def looksAt (cursor : Cursor) (c : Char) : Bool := cursor.rest.head? == some c

/-- The start of a text. -/
def start (cs : List Char) : Cursor := { rest := cs, left := cs.length }

/-- Moves over a number of characters of one line. -/
def skip (cursor : Cursor) (count : Nat) : Cursor :=
  { cursor with
    rest := cursor.rest.drop count
    left := cursor.left - count
    index := cursor.index + count
    column := cursor.column + count }

/-- Moves over characters of one line, down to a rest of them. -/
def moveTo (cursor : Cursor) (rest : List Char) : Cursor :=
  cursor.skip (cursor.left - rest.length)

/-- Moves over the characters of one line that satisfy a test. -/
def skipWhile (cursor : Cursor) (test : Char → Bool) : Cursor :=
  cursor.skip (cursor.rest.takeWhile test).length

/-- Moves over a line end, and gives how it counts in a scalar: the line and
paragraph separators as themselves, all others as a line feed. -/
def takeBreak (cursor : Cursor) : List Char × Cursor :=
  let next (count : Nat) : Cursor :=
    { rest := cursor.rest.drop count
      left := cursor.left - count
      index := cursor.index + count
      line := cursor.line + 1
      column := 0 }
  match cursor.rest with
  | '\r' :: '\n' :: _ => (['\n'], next 2)
  | c :: _ =>
      if c == '\u2028' || c == '\u2029' then ([c], next 1)
      else if isBreak c then (['\n'], next 1)
      else ([], cursor)
  | [] => ([], cursor)

/-- Moves over a line end. -/
def skipBreak (cursor : Cursor) : Cursor := cursor.takeBreak.2

/-- Moves over a comment, if one starts here. -/
def skipComment (cursor : Cursor) : Cursor :=
  if cursor.looksAt '#' then cursor.skipWhile (! isBreak ·) else cursor

/-- Moves over blanks, a comment and the line end, which have to be all that
is left of the line. -/
def skipLineRest? (cursor : Cursor) : Option Cursor :=
  let cursor := (cursor.skipWhile isBlank).skipComment
  if atLineEnd cursor.rest then some cursor.skipBreak else none

/-- Whether three of a character mark the start or the end of a document
here. -/
def looksAtMark (cursor : Cursor) (c : Char) : Bool :=
  cursor.column == 0 && cursor.rest.take 3 == [c, c, c] && atGap (cursor.rest.drop 3)

end Cursor

end OpenApiTypes.Yaml
