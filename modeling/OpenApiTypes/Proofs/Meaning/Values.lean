/-
Meaning: schemas and type expressions as sets of JSON values, each said in
its own terms. A schema is a list of demands, and a value has to meet every
one that is present; the keyword that decides about its type plays no part
here. A type expression is read as TypeScript reads it, structurally: an
object type speaks of the keys it declares and, through its entry for other
keys, of the rest, and is silent about keys that neither covers.

The names of declared types are free. A `Naming` gives each of them a set,
the platform's `Blob` included, and both readings are relative to it, so
that what is proved of them holds whatever the declarations turn out to be.
-/
import Mathlib.Algebra.Group.Nat.Defs
import Mathlib.Data.Set.Defs
import OpenApiTypes.Proofs.Lowering.Reading

namespace OpenApiTypes

/-- A set of JSON values for every type name. -/
abbrev Naming := String → Set Json

/-- A number without a fraction. -/
def Number.IsWhole : Number → Prop
  | .integer _ => True
  | .real value => 0 ≤ value.exponent ∨ 2 ^ (-value.exponent).toNat ∣ value.mantissa

-- ======================================================== schemas

namespace Schema

variable (names : Naming)

/-- Whether a schema declares a property of this name. -/
def Declares (schema : Schema) (name : String) : Prop :=
  name ∈ (schema.properties.getD []).map Prod.fst

mutual

/-- The values that conform to a schema: those that meet its demands, and
null if it is nullable. -/
def Admits (schema : Schema) (value : Json) : Prop :=
  (schema.own.nullable = some true ∧ value = .null) ∨ schema.Meets value
termination_by (sizeOf schema, 4)
decreasing_by exact .right _ (by decide)

/-- The values that meet the demands of a schema: those of the type that it
refers to, or else those that meet every keyword that is present. -/
def Meets (schema : Schema) (value : Json) : Prop :=
  match schema.own.reference with
  | some pointer => value ∈ names (Identifier.referenceName pointer)
  | none =>
      (∀ constant, schema.own.constant = some constant → value = constant)
      ∧ (∀ values, schema.own.values = some values → value ∈ values)
      ∧ (∀ parts, schema.allOf = some parts → ∀ part, part ∈ parts → part.Admits value)
      ∧ (∀ parts, schema.anyOf = some parts → ∃ part, ∃ _ : part ∈ parts, part.Admits value)
      ∧ (∀ parts, schema.oneOf = some parts →
          ∃! place : Fin parts.length, (parts.get place).Admits value)
      ∧ schema.AdmitsTyped value
termination_by (sizeOf schema, 3)
decreasing_by
  · exact .left _ _ (sizeOf_lt_of_mem_children (mem_children_of_allOf ‹_› ‹_›))
  · exact .left _ _ (sizeOf_lt_of_mem_children (mem_children_of_anyOf ‹_› ‹_›))
  · exact .left _ _ (sizeOf_lt_of_mem_children
      (mem_children_of_oneOf ‹_› (List.get_mem _ _)))
  · exact .right _ (by decide)

/-- The values of the type names in a schema, of which one has to match.
Without any, the keywords of objects make it an object, and else those of
arrays an array. -/
def AdmitsTyped (schema : Schema) (value : Json) : Prop :=
  match schema.own.types with
  | some (.one name) => schema.AdmitsAs name value
  | some (.several given) => ∃ name ∈ given, schema.AdmitsAs name value
  | none =>
      if schema.properties.isSome || schema.additional.isSome then schema.AdmitsObject value
      else if schema.items.isSome then schema.AdmitsArray value
      else True
termination_by (sizeOf schema, 2)
decreasing_by all_goals exact .right _ (by decide)

/-- The values of one type name in a schema. An unheard-of name says
nothing. -/
def AdmitsAs (schema : Schema) (name : String) (value : Json) : Prop :=
  match name with
  | "string" =>
      if schema.own.format = some "binary" then value ∈ names "Blob"
      else ∃ text, value = .string text
  | "number" => ∃ number, value = .number number
  | "integer" => ∃ number, value = .number number ∧ number.IsWhole
  | "boolean" => ∃ flag, value = .bool flag
  | "null" => value = .null
  | "file" => value ∈ names "Blob"
  | "array" => schema.AdmitsArray value
  | "object" => schema.AdmitsObject value
  | _ => True
termination_by (sizeOf schema, 1)
decreasing_by all_goals exact .right _ (by decide)

/-- The arrays whose elements conform to `items`. -/
def AdmitsArray (schema : Schema) (value : Json) : Prop :=
  ∃ elements, value = .array elements
    ∧ ∀ items, schema.items = some items → ∀ element ∈ elements, items.Admits element
termination_by (sizeOf schema, 0)
decreasing_by exact .left _ _ (sizeOf_lt_of_mem_children (mem_children_of_items ‹_›))

/-- The objects that hold the required ones among the declared properties,
whose declared properties conform to their schemas, and whose other keys
conform to `additionalProperties`. -/
def AdmitsObject (schema : Schema) (value : Json) : Prop :=
  ∃ entries, value = .object entries
    ∧ (∀ name ∈ schema.own.required.getD [], schema.Declares name →
        name ∈ entries.map Prod.fst)
    ∧ (∀ name child, (name, child) ∈ schema.properties.getD [] →
        ∀ inner, (name, inner) ∈ entries → child.Admits inner)
    ∧ ∀ key inner, (key, inner) ∈ entries → ¬ schema.Declares key →
        schema.additional ≠ some (.allowed false)
        ∧ ∀ child, schema.additional = some (.each child) → child.Admits inner
termination_by (sizeOf schema, 0)
decreasing_by
  · exact .left _ _ (sizeOf_lt_of_mem_children (mem_children_of_property ‹_›))
  · exact .left _ _ (sizeOf_lt_of_mem_children (mem_children_of_additional ‹_›))

end

end Schema

-- =============================================== type expressions

/-- The values of the primitive types. -/
def Primitive.Admits (type : Primitive) (value : Json) : Prop :=
  match type with
  | .string => ∃ text, value = .string text
  | .number => ∃ number, value = .number number
  | .boolean => ∃ flag, value = .bool flag
  | .null => value = .null
  | .any => True
  | .unknown => True

namespace TypeExpr

variable (names : Naming)

/-- The values of a type expression. An object type demands the properties
that are not optional, and of the keys that it declares that they hold their
types; the keys that it does not declare hold the type of its entry for
other keys, if there is one. -/
def Admits (type : TypeExpr) (value : Json) : Prop :=
  match type with
  | .primitive type => type.Admits value
  | .array item =>
      ∃ elements, value = .array elements ∧ ∀ element ∈ elements, item.Admits element
  | .union members => ∃ member, ∃ _ : member ∈ members, member.Admits value
  | .intersection members => ∀ member, member ∈ members → member.Admits value
  | .object ⟨properties, index⟩ =>
      ∃ entries, value = .object entries
        ∧ (∀ property, property ∈ properties →
            (property.optional = false → property.name ∈ entries.map Prod.fst)
            ∧ ∀ inner, (property.name, inner) ∈ entries → property.type.Admits inner)
        ∧ ∀ type, index = some type →
            ∀ key inner, (key, inner) ∈ entries → key ∉ properties.map Property.name →
              type.Admits inner
  | .literal given => value = given.json
  | .ref name => value ∈ names name
termination_by sizeOf type
decreasing_by
  · simp
  · exact sizeOf_lt_of_alternative ‹_›
  · exact sizeOf_lt_of_factor ‹_›
  · exact sizeOf_lt_of_property ‹_›
  · exact sizeOf_lt_of_index ‹_›

end TypeExpr

end OpenApiTypes
