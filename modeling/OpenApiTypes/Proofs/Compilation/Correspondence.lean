/-
Two runs of compilation side by side. Definitions that stand beside each
other, with one name, one description and schemas whose children lower
alike, become the same declaration with the same events or fail with the
same cause; so lists of them compile to the same, event for event.
-/
import OpenApiTypes.Compilation
import OpenApiTypes.Proofs.Lowering.Correspondence
import OpenApiTypes.Proofs.Order.Names

namespace OpenApiTypes

open Lowering (LowersAlike)

-- ================================================ shapes side by side

/-- Two shapes are of one kind and hold the same, with related schemas. -/
inductive Shape.Alike (R : Schema → Schema → Prop) : Shape → Shape → Prop where
  | object (isOpen : Bool) : Shape.Alike R (.object isOpen) (.object isOpen)
  | enumeration (values : List Json) (names : Option (List String)) :
      Shape.Alike R (.enumeration values names) (.enumeration values names)
  | allOf {parts others : List Schema} (related : List.Forall₂ R parts others) :
      Shape.Alike R (.allOf parts) (.allOf others)
  | oneOf {parts others : List Schema} (related : List.Forall₂ R parts others) :
      Shape.Alike R (.oneOf parts) (.oneOf others)
  | array {items other : Schema} (related : R items other) :
      Shape.Alike R (.array items) (.array other)
  | reference (pointer : String) : Shape.Alike R (.reference pointer) (.reference pointer)
  | unknown : Shape.Alike R .unknown .unknown

/-- Schemas beside each other have shapes of one kind. -/
theorem Shape.alike_ofSchema {R : Schema → Schema → Prop} {schema other : Schema}
    (alike : schema.Alike R other) : (ofSchema schema).Alike R (ofSchema other) := by
  have declares : schema.declaresAdditional = other.declaresAdditional := by
    have additional := alike.additional
    unfold Schema.declaresAdditional
    generalize schema.additional = given, other.additional = given' at additional ⊢
    rcases additional with ⟨value | related⟩ | _ <;> rfl
  have allOf := alike.allOf
  have oneOf := alike.oneOf
  have items := alike.items
  unfold ofSchema Schema.isType
  rw [alike.own, isSome_eq_of_rel alike.properties, declares]
  generalize schema.allOf = parts, other.allOf = parts' at allOf ⊢
  generalize schema.oneOf = ones, other.oneOf = ones' at oneOf ⊢
  generalize schema.items = inner, other.items = inner' at items ⊢
  split
  · exact .object _
  · cases other.own.values with
    | some values => exact .enumeration _ _
    | none =>
    cases allOf with
    | some related => exact .allOf related
    | none =>
    cases oneOf with
    | some related => exact .oneOf related
    | none =>
    cases other.own.reference with
    | some pointer =>
        cases other.own.isType "array" with
        | false => exact .reference pointer
        | true =>
          cases items with
          | some related => exact .array related
          | none => exact .reference pointer
    | none =>
        cases other.own.isType "array" with
        | false => exact .unknown
        | true =>
          cases items with
          | some related => exact .array related
          | none => exact .unknown

-- ========================================== declarations side by side

/-- Two definitions say the same, and what stands at the same places in
their schemas is related. -/
structure Definition.Alike (R : Schema → Schema → Prop) (definition other : Definition) :
    Prop where
  name : definition.name = other.name
  description : definition.description = other.description
  schema : definition.schema.Alike R other.schema

namespace Declaration

variable {options others : Options}

/-- Schemas whose children lower alike become declarations of one kind, with
the same events. -/
theorem kindOfSchema_congr (agree : options.Agree others) {schema other : Schema}
    (alike : schema.Alike (LowersAlike options others) other) :
    kindOfSchema options schema = kindOfSchema others other := by
  have shape := Shape.alike_ofSchema alike
  unfold kindOfSchema
  revert shape
  generalize Shape.ofSchema schema = shape, Shape.ofSchema other = shape'
  intro shape
  cases shape with
  | object isOpen => simp only [Lowering.objectAt_congr agree alike]
  | enumeration values names => rfl
  | allOf related => simp only [Lowering.allOfAt_congr agree related]
  | oneOf related =>
      cases related with
      | nil => simp only [agree.unknownType]
      | cons first rest => simp only [Lowering.typesAt_congr (.cons first rest)]
  | array related => simp only [related.type]
  | reference pointer => rfl
  | unknown => simp only [agree.unknownType]

/-- Definitions beside each other, with children that lower alike, become
one declaration. -/
theorem ofDefinition_congr (agree : options.Agree others) {definition other : Definition}
    (alike : definition.Alike (LowersAlike options others) other) :
    ofDefinition options definition = ofDefinition others other := by
  unfold ofDefinition
  rw [kindOfSchema_congr agree alike.schema, alike.name, alike.description, alike.schema.own]

end Declaration

-- =========================================== compiled side by side

namespace Compilation

variable {options : Options}

theorem definitionText_congr {definition other : Definition}
    (alike : definition.Alike (LowersAlike options options) other) :
    definitionText options definition = definitionText options other := by
  unfold definitionText Declaration.fallback
  rw [Declaration.ofDefinition_congr (.refl options) alike, alike.name]

/-- Definitions beside each other have the same texts, with the same events
and up to the same failure, whatever names have been taken. -/
theorem texts_congr {definitions others : List Definition}
    (alike : List.Forall₂ (Definition.Alike (LowersAlike options options)) definitions others)
    (earlier : List (String × String)) :
    texts options earlier definitions = texts options earlier others := by
  induction alike generalizing earlier with
  | nil => rfl
  | cons first _ ih =>
      rw [texts, texts, definitionText_congr first, first.name]
      simp only [ih]

/-- Lists of definitions beside each other compile to the same. -/
theorem tryCompile_congr {definitions others : List Definition}
    (alike : List.Forall₂ (Definition.Alike (LowersAlike options options)) definitions others) :
    tryCompile options definitions = tryCompile options others := by
  have ordered : List.Forall₂ (Definition.Alike (LowersAlike options options))
      (Definition.order definitions) (Definition.order others) :=
    Text.forall₂_sortByName (fun _ _ alike => alike.name) alike
  unfold tryCompile
  rw [texts_congr ordered]

end Compilation

end OpenApiTypes
