/-
Type expressions: the TypeScript types that schemas are read as. Unions and
intersections are lists of members, and an object type lists its properties
in the order in which they are written.
-/
import OpenApiTypes.DocBlock

namespace OpenApiTypes

/-- The types with a keyword of their own. -/
inductive Primitive where
  | string
  | number
  | boolean
  | null
  | any
  | unknown
  deriving DecidableEq, Repr

/-- The types with one value. -/
inductive Literal where
  | string (value : String)
  | number (value : Number)
  | bool (value : Bool)
  | null
  deriving DecidableEq, Repr

/-- A property of an object type, with types from `τ`. -/
structure Property (τ : Type) where
  name : String
  type : τ
  optional : Bool
  doc : DocBlock := {}

/-- An object type, with types from `τ`: the declared properties, and the
type of what any other key holds, if other keys are allowed. -/
structure ObjectShape (τ : Type) where
  properties : List (Property τ) := []
  index : Option τ := none

/-- A type expression. -/
inductive TypeExpr where
  | primitive (type : Primitive)
  | array (item : TypeExpr)
  | union (members : List TypeExpr)
  | intersection (members : List TypeExpr)
  | object (shape : ObjectShape TypeExpr)
  | literal (value : Literal)
  | ref (name : String)

/-- An object type over type expressions. -/
abbrev ObjectType := ObjectShape TypeExpr

namespace TypeExpr

/-- Whether the type is written as members with a sign between them. -/
def isCompound : TypeExpr → Bool
  | union _ => true
  | intersection _ => true
  | _ => false

/-- Whether the type is a union. -/
def isUnion : TypeExpr → Bool
  | union _ => true
  | _ => false

mutual

/-- Whether null is plainly among the values of a type. -/
def admitsNull : TypeExpr → Bool
  | primitive .null => true
  | primitive .any => true
  | primitive .unknown => true
  | literal .null => true
  | union members => anyAdmitsNull members
  | _ => false

/-- Whether null is plainly among the values of some member. -/
def anyAdmitsNull : List TypeExpr → Bool
  | [] => false
  | member :: rest => member.admitsNull || anyAdmitsNull rest

end

end TypeExpr

end OpenApiTypes
