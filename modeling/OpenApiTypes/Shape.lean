/-
The shape of a schema as the whole of a definition. It decides the kind of
the declaration, and the first keyword present in the order of the
constructors decides it. The order is not that of a schema inside another
one, where a reference, for instance, comes before everything else.
-/
import OpenApiTypes.Schema

namespace OpenApiTypes

/-- The shapes. An object is open when it declares properties or other
keys. -/
inductive Shape where
  | object (isOpen : Bool)
  | enumeration (values : List Json) (names : Option (List String))
  | allOf (parts : List Schema)
  | oneOf (parts : List Schema)
  | array (items : Schema)
  | reference (pointer : String)
  | unknown

/-- The shape of a schema. -/
def Shape.ofSchema (schema : Schema) : Shape :=
  if schema.isType "object" then
    .object (schema.properties.isSome || schema.declaresAdditional)
  else
    match schema.own.values with
    | some values => .enumeration values schema.own.valueNames
    | none =>
    match schema.allOf with
    | some parts => .allOf parts
    | none =>
    match schema.oneOf with
    | some parts => .oneOf parts
    | none =>
    match schema.isType "array", schema.items with
    | true, some items => .array items
    | _, _ =>
    match schema.own.reference with
    | some pointer => .reference pointer
    | none => .unknown

end OpenApiTypes
