/-
Double-quoted string literals as the emitted code writes them. Four
characters cannot stand raw between the quotes: the backslash, the quote
itself and the two line ends; each becomes a backslash and one more
character, and everything else stands for itself. `unescape` reads such a
body back.
-/

namespace OpenApiTypes.Text

/-- How one character is written between the quotes. -/
def escapeChar (c : Char) : List Char :=
  if c = '\\' then ['\\', '\\']
  else if c = '"' then ['\\', '"']
  else if c = '\n' then ['\\', 'n']
  else if c = '\r' then ['\\', 'r']
  else [c]

/-- The body of the literal that denotes a text. -/
def escape (s : String) : String := String.ofList (s.toList.flatMap escapeChar)

/-- The literal that denotes a text, with its quotes. -/
def quote (s : String) : String := "\"" ++ escape s ++ "\""

/-- The text that the body of a literal denotes. A body is refused that
holds a raw quote or line end, or a backslash before a character that is
never written so. -/
def unescape : List Char → Option (List Char)
  | [] => some []
  | '\\' :: '\\' :: rest => (unescape rest).map ('\\' :: ·)
  | '\\' :: '"' :: rest => (unescape rest).map ('"' :: ·)
  | '\\' :: 'n' :: rest => (unescape rest).map ('\n' :: ·)
  | '\\' :: 'r' :: rest => (unescape rest).map ('\r' :: ·)
  | c :: rest =>
      if c = '\\' ∨ c = '"' ∨ c = '\n' ∨ c = '\r' then none
      else (unescape rest).map (c :: ·)

end OpenApiTypes.Text
