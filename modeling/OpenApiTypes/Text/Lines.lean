/-
Two ways to cut a text into lines. `lines` gives the bodies of the lines,
for text that is set again line by line, as in a comment. `lineTokens` gives
the lines with their ends, so that nothing is lost and the tokens joined are
the text again; a comparison of two files works on these.
-/

namespace OpenApiTypes.Text

/-- The bodies of the lines of a text. A line ends at a line feed, with the
carriage return before it if there is one; a carriage return elsewhere
belongs to the body. -/
def lines : List Char → List (List Char)
  | [] => []
  | '\n' :: rest => [] :: lines rest
  | '\r' :: '\n' :: rest => [] :: lines rest
  | c :: rest =>
      match lines rest with
      | [] => [[c]]
      | body :: bodies => (c :: body) :: bodies

/-- The lines of a text with their ends. A line ends at a line feed, at a
carriage return, or at the two together. -/
def lineTokens : List Char → List (List Char)
  | [] => []
  | '\r' :: '\n' :: rest => ['\r', '\n'] :: lineTokens rest
  | c :: rest =>
      if c = '\n' ∨ c = '\r' then [c] :: lineTokens rest
      else
        match lineTokens rest with
        | [] => [[c]]
        | token :: tokens => (c :: token) :: tokens

/-- Whether a line token carries its end. -/
def endsLine (token : List Char) : Bool :=
  match token.getLast? with
  | some c => c = '\n' || c = '\r'
  | none => false

-- ================================================= nothing is lost

/-- The line tokens joined are the text. -/
theorem flatten_lineTokens (cs : List Char) : (lineTokens cs).flatten = cs := by
  fun_induction lineTokens cs with
  | case1 => rfl
  | case2 rest ih => simp [ih]
  | case3 c rest _ ends ih => simp [ih]
  | case4 c rest _ ends none ih =>
    simp only [none, List.flatten_nil] at ih
    simp [← ih]
  | case5 c rest _ ends token tokens some ih =>
    simp only [some, List.flatten_cons] at ih
    simp [← ih]

end OpenApiTypes.Text
