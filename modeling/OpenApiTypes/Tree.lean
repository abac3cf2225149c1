/-
A document as its text gives it, before anything is known about which parts
of it matter. Keys are trees too, since not every notation restricts them to
text. A part that can be skipped but not used, such as a number out of
range, is a `defect`: it spoils the document only where the part is read.
-/
import OpenApiTypes.Json

namespace OpenApiTypes

/-- A document, or a part of one. -/
inductive Tree where
  | null
  | flag (value : Bool)
  | number (value : Number)
  | nonFinite
  | text (value : String)
  | list (items : List Tree)
  | map (entries : List (Tree × Tree))
  | defect

end OpenApiTypes
