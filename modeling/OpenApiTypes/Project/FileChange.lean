/-
A file that the command wants to have: its path, the text it is to hold and
the text that it holds now. The difference of the two is shown in colours,
line by line, with three lines of context.
-/
import OpenApiTypes.Diff.Group
import OpenApiTypes.Text.Lines

namespace OpenApiTypes

/-- A file that is to hold a text. What it holds now is nothing if there is
no text to be read. -/
structure FileChange where
  path : String
  wanted : String
  existing : Option String
  deriving DecidableEq, Repr

namespace FileChange

/-- Whether the file has to be written. -/
def isStale (change : FileChange) : Bool := change.existing ≠ some change.wanted

/-- A line token with a sign before it, on a line of its own. -/
def signed (sign : String) (token : List Char) : String :=
  sign ++ String.ofList token ++ (if Text.endsLine token then "" else "\n")

/-- A line that both texts have. -/
def keptLine (token : List Char) : String := signed " " token

/-- A line that goes, in red. -/
def droppedLine (token : List Char) : String := "\x1b[31m" ++ signed "-" token ++ "\x1b[0m"

/-- A line that comes, in green. -/
def addedLine (token : List Char) : String := "\x1b[32m" ++ signed "+" token ++ "\x1b[0m"

/-- The lines of a segment. What goes stands before what comes. -/
def segmentText : Diff.Segment (List Char) → String
  | .same lines => String.join (lines.map keptLine)
  | .change dropped added =>
      String.join (dropped.map droppedLine) ++ String.join (added.map addedLine)

/-- The lines of a group. -/
def groupText (group : List (Diff.Segment (List Char))) : String :=
  String.join (group.map segmentText)

/-- The two lines before a difference, in bold. -/
def header (change : FileChange) : String :=
  "\x1b[1m--- " ++ change.path ++ " (current)\x1b[0m\n"
    ++ "\x1b[1m+++ " ++ change.path ++ " (new)\x1b[0m\n"

/-- The number of kept lines around a change. -/
def context : Nat := 3

/-- The difference in words, if there is a text to compare with and it is
another one. -/
def diff? (change : FileChange) : Option String :=
  match change.existing with
  | none => none
  | some existing =>
      if existing = change.wanted then none
      else
        let groups := Diff.groups context (Text.lineTokens existing.toList)
          (Text.lineTokens change.wanted.toList)
        some (change.header ++ "...\n".intercalate (groups.map groupText))

/-- What is told about a file that is not as it should be. -/
def report (change : FileChange) : String :=
  change.diff?.getD (change.path ++ " is missing\n")

end FileChange

end OpenApiTypes
