/-
Documentation comments: a description and tags, set as a block whose lines
all start with a star. Text from a document goes through `commentLines`,
which breaks up every closing sequence, so that only the last line of a
block can close it.
-/
import OpenApiTypes.Schema
import OpenApiTypes.Text.Blank
import OpenApiTypes.Text.Lines

namespace OpenApiTypes

/-- A tag of a documentation comment, such as `deprecated`. -/
structure DocTag where
  name : String
  payload : Option String := none
  deriving DecidableEq, Repr

/-- A documentation comment. -/
structure DocBlock where
  description : Option String := none
  tags : List DocTag := []
  deriving DecidableEq, Repr

namespace DocBlock

/-- The block of a description without the blanks around it. A blank
description is none. -/
def ofDescription (description : Option String) : DocBlock where
  description := (description.map Text.trim).filter (· ≠ "")

/-- Adds a tag if it is active. A blank payload is none. -/
def tag (block : DocBlock) (name : String) (active : Bool) (payload : Option String) :
    DocBlock :=
  if active then
    { block with tags := block.tags ++ [⟨name, payload.filter (! Text.isBlankText ·)⟩] }
  else block

/-- The text that stands for a value after the tag `example`: a string as it
is, any other value as JSON. -/
def sampleText : Json → String
  | .string value => value
  | value => value.text

/-- The block of a schema. A description from elsewhere comes before the one
in the schema unless it is blank. -/
def ofSchema (own : Keywords) (description : Option String) : DocBlock :=
  let description := (description.filter (! Text.isBlankText ·)).or own.description
  ((ofDescription description).tag "deprecated" (own.deprecated.getD false) own.deprecatedMessage).tag
    "example" own.sample.isSome (own.sample.map sampleText)

/-- Whether the block says nothing. -/
def isEmpty (block : DocBlock) : Bool := block.description.isNone && block.tags.isEmpty

-- ============================================================= text

/-- Puts a backslash into every closing sequence. -/
def breakClosings : List Char → List Char
  | [] => []
  | '*' :: '/' :: rest => '*' :: '\\' :: '/' :: breakClosings rest
  | c :: rest => c :: breakClosings rest

/-- The lines of a text, fit to stand in a comment. -/
def commentLines (text : String) : List (List Char) :=
  (Text.lines text.toList).map breakClosings

/-- The lines of a tag. The first line of its payload follows its name. -/
def tagLines (tag : DocTag) : List (List Char) :=
  match tag.payload with
  | none => ['@' :: tag.name.toList]
  | some payload =>
      match commentLines payload with
      | [] => ['@' :: tag.name.toList ++ [' ']]
      | first :: others => ('@' :: tag.name.toList ++ ' ' :: first) :: others

/-- The lines of a block between its opening and its closing. -/
def bodyLines (block : DocBlock) : List (List Char) :=
  (block.description.map commentLines).getD [] ++ block.tags.flatMap tagLines

/-- One line of a block. It has no blanks at its end. -/
def bodyLine (indent : List Char) (line : List Char) : List Char :=
  match Text.trimEnd line with
  | [] => indent ++ [' ', '*', '\n']
  | line => indent ++ ' ' :: '*' :: ' ' :: line ++ ['\n']

/-- The characters of a block, every line of it after the indent. An empty
block has none. -/
def chars (block : DocBlock) (indent : List Char) : List Char :=
  if block.isEmpty then []
  else
    indent ++ ['/', '*', '*', '\n'] ++ block.bodyLines.flatMap (bodyLine indent)
      ++ indent ++ [' ', '*', '/', '\n']

/-- The text of a block. -/
def render (block : DocBlock) (indent : String) : String :=
  String.ofList (block.chars indent.toList)

end DocBlock

end OpenApiTypes
