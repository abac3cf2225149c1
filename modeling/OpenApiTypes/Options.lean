/-
What can be chosen about the types: the keyword where a schema says nothing
usable, what a definition that fails does to the others, and how deep
schemas may lie in one another.
-/

namespace OpenApiTypes

/-- The keyword for schemas without a usable shape. -/
inductive UnknownType where
  | any
  | unknown
  deriving DecidableEq, Repr

/-- What a definition that cannot become a type does to the others: it
discards them all, or it alone is replaced. -/
inductive FailurePolicy where
  | allOrNothing
  | isolate
  deriving DecidableEq, Repr

/-- The choices together. -/
structure Options where
  unknownType : UnknownType := .any
  failurePolicy : FailurePolicy := .allOrNothing
  maxDepth : Nat := 64
  deriving DecidableEq, Repr

/-- The text of the keyword. -/
def UnknownType.keyword : UnknownType → String
  | .any => "any"
  | .unknown => "unknown"

end OpenApiTypes
