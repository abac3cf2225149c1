/-
Lowering: how a schema reads as a type wherever it stands inside another
one. One keyword decides, the first present in this order: `$ref`, `const`,
`allOf`, `anyOf`, `oneOf`, `enum`, `type`, and without any of these the
keywords of objects and of arrays. What the deciding keyword does not
mention has no effect, and neither has a depth limit, except that it makes a
deeper schema fail.

Entering the parts of `allOf`, `anyOf` and `oneOf`, the items of an array
and the properties of an object goes one level deeper. The level is taken
even where there are no parts.
-/
import OpenApiTypes.Identifier
import OpenApiTypes.LoweringError
import OpenApiTypes.Options
import OpenApiTypes.TypeExpr

namespace OpenApiTypes

/-- The type for schemas without a usable shape. -/
def UnknownType.type : UnknownType → TypeExpr
  | .any => .primitive .any
  | .unknown => .primitive .unknown

namespace Lowering

variable (options : Options)

/-- The type for schemas without a usable shape. -/
def unknownType : TypeExpr := options.unknownType.type

/-- The level below another one, if the limit allows it. -/
def enter (depth : Nat) : Except LoweringError Nat :=
  if depth + 1 > options.maxDepth then .error (.depthExceeded options.maxDepth)
  else .ok (depth + 1)

/-- The type that files have. -/
def fileType : TypeExpr := .ref "Blob"

-- ========================================================== literals

/-- The literal of a value, named by its index in an error. Arrays and
objects have none. -/
def literal (index : Nat) : Json → Except LoweringError Literal
  | .null => .ok .null
  | .bool value => .ok (.bool value)
  | .number value => .ok (.number value)
  | .string value => .ok (.string value)
  | value => .error (.unsupportedEnumValue index value.text)

/-- The literal types of values, the first of which has the given index. -/
def literals (index : Nat) : List Json → Except LoweringError (List TypeExpr)
  | [] => .ok []
  | value :: rest => do
      let first ← literal index value
      let others ← literals (index + 1) rest
      .ok (.literal first :: others)

/-- The type of one of the values of an `enum`. -/
def enumType (values : List Json) : Except LoweringError TypeExpr := do
  match ← literals 0 values with
  | [type] => .ok type
  | types => .ok (.union types)

/-- The type of the value of a `const`. An array or object says nothing
usable. -/
def constantType (value : Json) : TypeExpr :=
  match literal 0 value with
  | .ok value => .literal value
  | .error _ => unknownType options

-- ===================================================== joining types

/-- Joins types: none say nothing usable, and one stands for itself. -/
def join (many : List TypeExpr → TypeExpr) : List TypeExpr → TypeExpr
  | [] => unknownType options
  | [type] => type
  | types => many types

/-- Adds null to a type that does not plainly admit it. -/
def orNull (type : TypeExpr) : TypeExpr :=
  if type.admitsNull then type else .union [type, .primitive .null]

/-- The type of one type name. What it needs from the schema is its format,
and the array and object types of its other keywords. -/
def namedType (format : Option String) (array object : Except LoweringError TypeExpr)
    (name : String) : Except LoweringError TypeExpr :=
  match name with
  | "string" => .ok (if format = some "binary" then fileType else .primitive .string)
  | "number" => .ok (.primitive .number)
  | "integer" => .ok (.primitive .number)
  | "boolean" => .ok (.primitive .boolean)
  | "null" => .ok (.primitive .null)
  | "file" => .ok fileType
  | "array" => array
  | "object" => object
  | _ => .ok (unknownType options)

/-- The types of type names, up to the first that fails. -/
def namedTypes (format : Option String) (array object : Except LoweringError TypeExpr) :
    List String → Except LoweringError (List TypeExpr)
  | [] => .ok []
  | name :: rest => do
      let first ← namedType options format array object name
      let others ← namedTypes format array object rest
      .ok (first :: others)

/-- The type of the keyword `type`, or without it of the keywords of objects
and of arrays. -/
def keywordType (own : Keywords) (objectLike arrayLike : Bool)
    (array object : Except LoweringError TypeExpr) : Except LoweringError TypeExpr :=
  match own.types with
  | some (.one name) => namedType options own.format array object name
  | some (.several names) => do
      .ok (join options .union (← namedTypes options own.format array object names))
  | none =>
      if objectLike then object
      else if arrayLike then array
      else .ok (unknownType options)

-- =========================================================== objects

/-- The properties in ascending order of their names, or the error of the
first in that order that has one. -/
def orderedProperties (properties : List (String × Except LoweringError (Property TypeExpr))) :
    Except LoweringError (List (Property TypeExpr)) :=
  (Text.sortEntries properties).mapM Prod.snd

/-- A property, documented by its schema. -/
def property (required : List String) (name : String) (own : Keywords) (type : TypeExpr) :
    Property TypeExpr where
  name := name
  type := type
  optional := ! required.contains name
  doc := DocBlock.ofSchema own none

/-- An object type from its properties and its entry for other keys. An
error in a property comes first. -/
def shape (properties : Except LoweringError (List (Property TypeExpr)))
    (index : Except LoweringError (Option TypeExpr)) : Except LoweringError ObjectType := do
  let properties ← properties
  let index ← index
  .ok { properties, index }

-- =========================================================== schemas

mutual

/-- The type of a schema at a depth. -/
def typeAt (depth : Nat) : Schema → Except LoweringError TypeExpr
  | ⟨own, properties, items, anyOf, oneOf, allOf, additional⟩ => do
      let type ←
        match own.reference with
        | some pointer => .ok (.ref (Identifier.referenceName pointer))
        | none =>
        match own.constant with
        | some value => .ok (constantType options value)
        | none =>
        match allOf with
        | some parts => do
            let depth ← enter options depth
            .ok (join options .intersection (← typesAt depth parts))
        | none =>
        match anyOf with
        | some parts => do
            let depth ← enter options depth
            .ok (join options .union (← typesAt depth parts))
        | none =>
        match oneOf with
        | some parts => do
            let depth ← enter options depth
            .ok (join options .union (← typesAt depth parts))
        | none =>
        match own.values, own.isType "object" with
        | some values, false => enumType values
        | _, _ =>
            let array := arrayAt depth items
            let object := do
              let depth ← enter options depth
              let declared := declaredAt depth (own.required.getD []) properties
              let index := indexAt depth properties.isSome additional
              .ok (.object (← shape declared index))
            keywordType options own (properties.isSome || additional.isSome) items.isSome array object
      .ok (if own.nullable = some true then orNull type else type)

/-- The types of schemas at a depth, up to the first that fails. -/
def typesAt (depth : Nat) : List Schema → Except LoweringError (List TypeExpr)
  | [] => .ok []
  | schema :: rest => do
      let first ← typeAt depth schema
      let others ← typesAt depth rest
      .ok (first :: others)

/-- The type of an array with these items. Items that are not described may
be anything. -/
def arrayAt (depth : Nat) : Option Schema → Except LoweringError TypeExpr
  | none => .ok (.array (unknownType options))
  | some items => do
      let depth ← enter options depth
      .ok (.array (← typeAt depth items))

/-- The declared properties of an object type, in order. -/
def declaredAt (depth : Nat) (required : List String) :
    Option (List (String × Schema)) → Except LoweringError (List (Property TypeExpr))
  | none => .ok []
  | some properties => orderedProperties (propertiesAt depth required properties)

/-- The properties of a map of schemas, each under its name. -/
def propertiesAt (depth : Nat) (required : List String) :
    List (String × Schema) → List (String × Except LoweringError (Property TypeExpr))
  | [] => []
  | (name, schema) :: rest =>
      (name, (typeAt depth schema).map (property required name schema.own))
        :: propertiesAt depth required rest

/-- What an object type says about other keys. Without a word on them they
may hold anything if no properties are declared either. -/
def indexAt (depth : Nat) (declared : Bool) :
    Option (Additional Schema) → Except LoweringError (Option TypeExpr)
  | none => .ok (if declared then none else some (unknownType options))
  | some (.allowed value) => .ok (if value then some (unknownType options) else none)
  | some (.each schema) => (typeAt depth schema).map some

end

/-- The object type of a schema's own keywords, whatever its type is. -/
def objectAt (depth : Nat) (schema : Schema) : Except LoweringError ObjectType := do
  let depth ← enter options depth
  let declared := declaredAt options depth (schema.own.required.getD []) schema.properties
  shape declared (indexAt options depth schema.properties.isSome schema.additional)

/-- The type of the parts of an `allOf`. -/
def allOfAt (depth : Nat) (parts : List Schema) : Except LoweringError TypeExpr := do
  let depth ← enter options depth
  .ok (join options .intersection (← typesAt options depth parts))

end Lowering

end OpenApiTypes
