/-
The characters with the Unicode property White_Space, and the trimming of
text by them. A text is blank when it holds nothing else.
-/
import OpenApiTypes.Text.Ranges

namespace OpenApiTypes.Text

/-- The ranges of the property White_Space, ascending. -/
def blankRanges : List (Nat × Nat) :=
  [
    (0x9, 0xD), (0x20, 0x20), (0x85, 0x85), (0xA0, 0xA0),
    (0x1680, 0x1680), (0x2000, 0x200A), (0x2028, 0x2029), (0x202F, 0x202F),
    (0x205F, 0x205F), (0x3000, 0x3000)]

/-- Whether a character has the property White_Space. -/
def isBlank (c : Char) : Bool := inRanges blankRanges c.toNat

/-- The text without the blank characters at its start. -/
def trimStart (cs : List Char) : List Char := cs.dropWhile isBlank

/-- The text without the blank characters at its end. -/
def trimEnd (cs : List Char) : List Char := (cs.reverse.dropWhile isBlank).reverse

/-- The text without the blank characters at either end. -/
def trim (s : String) : String := String.ofList (trimEnd (trimStart s.toList))

/-- Whether a text holds nothing but blank characters. -/
def isBlankText (s : String) : Bool := s.toList.all isBlank

end OpenApiTypes.Text
