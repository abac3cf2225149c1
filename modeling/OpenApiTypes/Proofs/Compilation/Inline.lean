/-
A schema as the whole of a definition, and the same schema inside another
one. Two functions decide what it becomes. They look at the keywords in
different orders, and they count levels differently: a whole definition
takes its alternatives and its items at the top, where lowering takes them
one level below. For a schema with one form, and with nothing beside it that
only one of the two looks at, the orders cannot matter; and what lowers one
level below lowers to the same at the top (`typeAt_of_le`).

What remains is a difference that does not show in the text. A definition
keeps the union of a single alternative, and lowering does not.
-/
import OpenApiTypes.Compilation
import OpenApiTypes.Proofs.Lowering.Height

namespace OpenApiTypes

namespace Schema

/-- Which forms a schema has: an object by its type, `allOf`, `oneOf`, an
array by its type and with items, and a reference. -/
def forms (schema : Schema) : List Bool :=
  [schema.isType "object", schema.allOf.isSome, schema.oneOf.isSome,
    schema.isType "array" && schema.items.isSome, schema.own.reference.isSome]

/-- Nothing stands beside the forms that changes the type: no null, no
`const`, no `anyOf` and no `enum`. -/
structure Unmixed (schema : Schema) : Prop where
  noNull : schema.own.nullable ≠ some true
  noConstant : schema.own.constant = none
  noAnyOf : schema.anyOf = none
  noValues : schema.own.values = none

/-- A schema has one form only, which gives it a shape. -/
inductive Sole (schema : Schema) : Shape → Prop where
  | object (typed : schema.isType "object" = true) (noAllOf : schema.allOf = none)
      (noOneOf : schema.oneOf = none) (noReference : schema.own.reference = none) :
      Sole schema (.object (schema.properties.isSome || schema.declaresAdditional))
  | allOf {parts : List Schema} (noObject : schema.isType "object" = false)
      (given : schema.allOf = some parts) (noOneOf : schema.oneOf = none)
      (noReference : schema.own.reference = none) : Sole schema (.allOf parts)
  | oneOf {parts : List Schema} (noObject : schema.isType "object" = false)
      (noAllOf : schema.allOf = none) (given : schema.oneOf = some parts)
      (noReference : schema.own.reference = none) : Sole schema (.oneOf parts)
  | array {items : Schema} (noObject : schema.isType "object" = false)
      (noAllOf : schema.allOf = none) (noOneOf : schema.oneOf = none)
      (typed : schema.isType "array" = true) (given : schema.items = some items)
      (noReference : schema.own.reference = none) : Sole schema (.array items)
  | reference {pointer : String} (noObject : schema.isType "object" = false)
      (noAllOf : schema.allOf = none) (noOneOf : schema.oneOf = none)
      (noArray : (schema.isType "array" && schema.items.isSome) = false)
      (given : schema.own.reference = some pointer) : Sole schema (.reference pointer)

variable {schema : Schema} {shape : Shape}

theorem count_true_cons_eq_one {first : Bool} {others : List Bool} :
    (first :: others).count true = 1
      ↔ (first = true ∧ true ∉ others) ∨ (first = false ∧ others.count true = 1) := by
  cases first with
  | true => simp [List.count_eq_zero]
  | false => simp

/-- One form among all of them is the only one. -/
theorem exists_sole (one : schema.forms.count true = 1) : ∃ shape, Sole schema shape := by
  have absent {α : Type} {given : Option α} (missing : ¬ true = given.isSome) : given = none := by
    cases given with
    | none => rfl
    | some value => exact absurd rfl missing
  simp only [forms, count_true_cons_eq_one, List.mem_cons, List.not_mem_nil, or_false,
    not_or] at one
  rcases one with ⟨typed, noAllOf, noOneOf, -, noReference⟩ | ⟨noObject, one⟩
  · exact ⟨_, .object typed (absent noAllOf) (absent noOneOf) (absent noReference)⟩
  rcases one with ⟨given, noOneOf, -, noReference⟩ | ⟨noAllOf, one⟩
  · obtain ⟨parts, given⟩ := Option.isSome_iff_exists.1 given
    exact ⟨_, .allOf noObject given (absent noOneOf) (absent noReference)⟩
  rw [Option.isSome_eq_false_iff, Option.isNone_iff_eq_none] at noAllOf
  rcases one with ⟨given, -, noReference⟩ | ⟨noOneOf, one⟩
  · obtain ⟨parts, given⟩ := Option.isSome_iff_exists.1 given
    exact ⟨_, .oneOf noObject noAllOf given (absent noReference)⟩
  rw [Option.isSome_eq_false_iff, Option.isNone_iff_eq_none] at noOneOf
  rcases one with ⟨array, noReference⟩ | ⟨noArray, one⟩
  · obtain ⟨typed, given⟩ := Bool.and_eq_true_iff.1 array
    obtain ⟨items, given⟩ := Option.isSome_iff_exists.1 given
    exact ⟨_, .array noObject noAllOf noOneOf typed given (absent noReference)⟩
  · have given : schema.own.reference.isSome = true := by simpa using one
    obtain ⟨pointer, given⟩ := Option.isSome_iff_exists.1 given
    exact ⟨_, .reference noObject noAllOf noOneOf noArray given⟩

theorem types_of_isType {name : String} (typed : schema.isType name = true) :
    schema.own.types = some (.one name) := by
  unfold isType Keywords.isType at typed
  split at typed
  · next given same => rw [same, beq_iff_eq.1 typed]
  · cases typed

/-- A schema with one form has the shape of it. -/
theorem ofSchema_of_sole (unmixed : schema.Unmixed) (sole : Sole schema shape) :
    Shape.ofSchema schema = shape := by
  unfold Shape.ofSchema
  rw [unmixed.noValues]
  cases sole with
  | object typed noAllOf noOneOf noReference => rw [if_pos typed]
  | allOf noObject given noOneOf noReference =>
      simp only [noObject, Bool.false_eq_true, if_false, given]
  | oneOf noObject noAllOf given noReference =>
      simp only [noObject, Bool.false_eq_true, if_false, noAllOf, given]
  | array noObject noAllOf noOneOf typed given noReference =>
      simp only [noObject, Bool.false_eq_true, if_false, noAllOf, noOneOf, typed, given]
  | reference noObject noAllOf noOneOf noArray given =>
      simp only [noObject, Bool.false_eq_true, if_false, noAllOf, noOneOf, given]
      split
      · next items typed present =>
        rw [typed, present] at noArray
        cases noArray
      · rfl

end Schema

namespace Lowering

open Schema

variable {options : Options} {depth : Nat} {schema : Schema} {type : TypeExpr}

/-- Without null, the deciding keyword gives the type. -/
theorem typeAt_eq_decidedAt (unmixed : schema.Unmixed) :
    typeAt options depth schema = decidedAt options depth schema := by
  rw [typeAt_eq_map]
  cases decidedAt options depth schema with
  | error error => rfl
  | ok type =>
      show Except.ok (withNull schema type) = _
      rw [withNull, if_neg unmixed.noNull]

/-- The type that a schema of a shape has inside another one, where its form
is the only one. -/
def inline (options : Options) (depth : Nat) (schema : Schema) :
    Shape → Except LoweringError TypeExpr
  | .object _ => (objectAt options depth schema).map .object
  | .enumeration values _ => enumType values
  | .allOf parts => allOfAt options depth parts
  | .oneOf parts => unionAt options depth parts
  | .array items => arrayAt options depth (some items)
  | .reference pointer => .ok (.ref (Identifier.referenceName pointer))
  | .unknown => .ok (unknownType options)

theorem typeAt_of_sole {shape : Shape} (unmixed : schema.Unmixed) (sole : Sole schema shape) :
    typeAt options depth schema = inline options depth schema shape := by
  rw [typeAt_eq_decidedAt unmixed]
  unfold decidedAt inline
  rw [unmixed.noConstant, unmixed.noAnyOf, unmixed.noValues]
  cases sole with
  | object typed noAllOf noOneOf noReference =>
      simp only [noAllOf, noOneOf, noReference, keywordType, types_of_isType typed, namedType]
  | allOf noObject given noOneOf noReference => simp only [given, noReference]
  | oneOf noObject noAllOf given noReference => simp only [noAllOf, given, noReference]
  | array noObject noAllOf noOneOf typed given noReference =>
      simp only [noAllOf, noOneOf, noReference, keywordType, types_of_isType typed, namedType, given]
  | reference noObject noAllOf noOneOf noArray given => simp only [given]

end Lowering

-- ==================================================== declarations

/-- A declaration of a schema agrees with the type that the schema has inside
another one. From an object type by the keyword `type` it makes an interface
if the object is open, and an alias if not; from any other type an alias of
the type, which may stand alone in a union. -/
inductive DeclarationKind.Agrees (schema : Schema) (type : TypeExpr) : DeclarationKind → Prop where
  | interface {shape : ObjectType} (typed : schema.isType "object" = true)
      (same : type = .object shape)
      (isOpen : (schema.properties.isSome || schema.declaresAdditional) = true) :
      Agrees schema type (.interface shape)
  | object {shape : ObjectType} (typed : schema.isType "object" = true)
      (same : type = .object shape)
      (closed : (schema.properties.isSome || schema.declaresAdditional) = false) :
      Agrees schema type (.typeAlias (.object shape))
  | same (noObject : schema.isType "object" = false) : Agrees schema type (.typeAlias type)
  | single (noObject : schema.isType "object" = false) :
      Agrees schema type (.typeAlias (.union [type]))

namespace Declaration

open Lowering Schema DeclarationKind

variable {options : Options} {schema : Schema} {type : TypeExpr}

/-- The union of the alternatives of a definition agrees with their join. -/
theorem agrees_join {types : List TypeExpr} (noObject : schema.isType "object" = false)
    (nonempty : types ≠ []) :
    Agrees schema (join options .union types) (.typeAlias (.union types)) := by
  match types with
  | [type] => exact .single noObject
  | first :: second :: rest => exact .same noObject

/-- Parts that lower one level below have the same types at the top. -/
theorem typesAt_of_partsRead {parts : List Schema} {types : List TypeExpr}
    (read : PartsRead options 0 parts types) : typesAt options 0 parts = .ok types := by
  obtain ⟨-, lowered⟩ := read
  refine typesAt_eq_ok.2 (lowered.imp fun part type lowered => ?_)
  exact typeAt_of_le lowered (Nat.zero_le 1)

/-- A schema with one form becomes a declaration that agrees with its type
inside another one. -/
theorem exists_kind_of_sole {shape : Shape} (unmixed : schema.Unmixed) (sole : Sole schema shape)
    (lowered : typeAt options 0 schema = .ok type) :
    ∃ kind, kindOfSchema options schema = ([], .ok kind) ∧ Agrees schema type kind := by
  rw [typeAt_of_sole unmixed sole] at lowered
  unfold kindOfSchema
  rw [ofSchema_of_sole unmixed sole]
  cases sole with
  | object typed noAllOf noOneOf noReference =>
      obtain ⟨shape, read, rfl⟩ := map_eq_ok.1 lowered
      cases isOpen : schema.properties.isSome || schema.declaresAdditional with
      | true => exact ⟨.interface shape, by simp [read, Except.map], .interface typed rfl isOpen⟩
      | false =>
          exact ⟨.typeAlias (.object shape), by simp [read, Except.map], .object typed rfl isOpen⟩
  | @allOf parts noObject given noOneOf noReference =>
      have read : allOfAt options 0 parts = .ok type := lowered
      exact ⟨.typeAlias type, by simp [read, Except.map], .same noObject⟩
  | @oneOf parts noObject noAllOf given noReference =>
      obtain ⟨types, read, rfl⟩ := joinedAt_eq_ok.1 lowered
      match parts with
      | [] =>
          obtain ⟨-, nothing⟩ := read
          obtain rfl := List.forall₂_nil_left_iff.1 nothing
          exact ⟨_, rfl, .same noObject⟩
      | part :: rest =>
          have nonempty : types ≠ [] := by
            intro none
            subst none
            cases read.2
          have atTop := typesAt_of_partsRead read
          refine ⟨.typeAlias (.union types), ?_, agrees_join noObject nonempty⟩
          simp [atTop, Except.map]
  | @array items noObject noAllOf noOneOf typed given noReference =>
      rcases arrayAt_eq_ok.1 lowered with ⟨none, -⟩ | ⟨items', item, same, -, below, rfl⟩
      · cases none
      · obtain rfl := Option.some.inj same
        have atTop := typeAt_of_le below (Nat.zero_le 1)
        exact ⟨.typeAlias (.array item), by simp [atTop, Except.map], .same noObject⟩
  | reference noObject noAllOf noOneOf noArray given =>
      cases lowered
      exact ⟨_, rfl, .same noObject⟩

/-- The text of an alias that agrees with a type is that of the type. -/
theorem text_of_agrees {written : TypeExpr}
    (agrees : Agrees schema type (.typeAlias written)) :
    written.text = type.text := by
  cases agrees with
  | object typed same closed => rw [same]
  | same noObject => rfl
  | single noObject =>
      rw [TypeExpr.text, TypeExpr.texts, TypeExpr.texts, String.intercalate_singleton]

/-- A schema becomes as a whole definition what it becomes inside another
one, if it has one form only and nothing beside it. Wherever lowering it
gives a type, the definition gives a declaration; it agrees with the type,
and shows the text of the type in an alias, unless as a block. -/
theorem ofDefinition_of_typeAt {depth : Nat} {definition : Definition}
    (unmixed : definition.schema.Unmixed) (one : definition.schema.forms.count true = 1)
    (lowered : typeAt options depth definition.schema = .ok type) :
    ∃ kind,
      ofDefinition options definition = ([], .ok {
        name := Identifier.typeName definition.name
        doc := DocBlock.ofSchema definition.schema.own definition.description
        kind })
      ∧ Agrees definition.schema type kind
      ∧ ∀ written, kind = .typeAlias written →
          written.text = type.text
          ∧ ((∀ shape, written ≠ .object shape) → ∀ name,
              kind.text name = "export type " ++ name ++ " = " ++ type.text ++ ";") := by
  obtain ⟨shape, sole⟩ := exists_sole one
  have atTop := typeAt_of_le lowered (Nat.zero_le depth)
  obtain ⟨kind, made, agrees⟩ := exists_kind_of_sole unmixed sole atTop
  refine ⟨kind, ?_, agrees, fun written given => ?_⟩
  · rw [ofDefinition, made]
    rfl
  · subst given
    have text := text_of_agrees agrees
    refine ⟨text, fun other name => ?_⟩
    rw [text_otherAlias name other, text]

/-- A definition with a single alternative. -/
def either : Definition where
  name := "either"
  schema := { oneOf := some [{ own := { types := some (.one "string") } }] }

/-- The definition is an alias for the union of its one alternative, which
stands alone where the schema is inside another one. -/
theorem either_agrees :
    typeAt {} 1 either.schema = .ok (.primitive .string)
      ∧ ofDefinition {} either
          = ([], .ok { name := "either", kind := .typeAlias (.union [.primitive .string]) })
      ∧ Agrees either.schema (.primitive .string) (.typeAlias (.union [.primitive .string])) := by
  have lowered : typeAt {} 1 either.schema = .ok (.primitive .string) := rfl
  have unmixed : either.schema.Unmixed := by
    constructor
    · decide
    · rfl
    · rfl
    · rfl
  have one : either.schema.forms.count true = 1 := by decide
  obtain ⟨kind, made, agrees, -⟩ := ofDefinition_of_typeAt unmixed one lowered
  have name : Identifier.typeName either.name = "either" := by decide +kernel
  have declared : ofDefinition {} either
      = ([], .ok { name := "either", kind := .typeAlias (.union [.primitive .string]) }) := by
    rw [← name]
    rfl
  rw [declared, Prod.mk.injEq, Except.ok.injEq, Declaration.mk.injEq] at made
  obtain ⟨-, -, -, rfl⟩ := made
  exact ⟨lowered, declared, agrees⟩

end Declaration

end OpenApiTypes
