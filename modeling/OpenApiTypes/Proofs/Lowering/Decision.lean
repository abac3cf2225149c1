/-
Where lowering goes from a schema. The chain of keywords comes to one of six
decisions, and each of them says which of the schemas inside are lowered in
turn: the parts of a join, or what the type names ask for, and no others. A
keyword that stands behind the deciding one is never looked into.

Everything that is said about a whole lowering, how deep it goes, where it
can fail and which types it leaves blank, is said over the schemas that it
comes to (`Schema.Reached`), so the chain of keywords is taken apart here
once and not in every proof.
-/
import OpenApiTypes.Proofs.Lowering.Reading

namespace OpenApiTypes

/-- What decides the type of a schema, with what the keyword holds. -/
inductive Decision where
  | reference (pointer : String)
  | constant (value : Json)
  | factors (parts : List Schema)
  | alternatives (parts : List Schema)
  | values (values : List Json)
  | types

/-- The type names that count where the keyword `type` decides: the given
ones, or without them the one that the other keywords hint at. -/
def Keywords.kinds (own : Keywords) (objectLike arrayLike : Bool) : List String :=
  match own.types with
  | some (.one name) => [name]
  | some (.several names) => names
  | none => if objectLike then ["object"] else if arrayLike then ["array"] else []

namespace Schema

/-- What decides the type of a schema: the first keyword present. -/
def decision (schema : Schema) : Decision :=
  match schema.own.reference, schema.own.constant, schema.allOf, schema.anyOf, schema.oneOf with
  | some pointer, _, _, _, _ => .reference pointer
  | none, some value, _, _, _ => .constant value
  | none, none, some parts, _, _ => .factors parts
  | none, none, none, some parts, _ => .alternatives parts
  | none, none, none, none, some parts => .alternatives parts
  | none, none, none, none, none =>
      match schema.own.values, schema.isType "object" with
      | some values, false => .values values
      | _, _ => .types

/-- The type names of a schema. -/
def kinds (schema : Schema) : List String :=
  schema.own.kinds (schema.properties.isSome || schema.additional.isSome) schema.items.isSome

/-- The schemas that a type name asks for: the items of an array, and the
properties and the other keys of an object. -/
def under (schema : Schema) : String → List Schema
  | "array" => schema.items.toList
  | "object" =>
      (schema.properties.getD []).map Prod.snd
        ++ (schema.additional.bind Additional.schema?).toList
  | _ => []

/-- The schemas that lowering a schema goes on to. -/
def lowered (schema : Schema) : List Schema :=
  match schema.decision with
  | .factors parts => parts
  | .alternatives parts => parts
  | .types => schema.kinds.flatMap schema.under
  | .reference _ | .constant _ | .values _ => []

/-- The values that a schema lists, if its `enum` decides. -/
def enumerated (schema : Schema) : Option (List Json) :=
  match schema.decision with
  | .values values => some values
  | .reference _ | .constant _ | .factors _ | .alternatives _ | .types => none

/-- Lowering a schema comes to a schema inside: it is the schema itself, or
one that lowering comes to from those it goes on to. -/
inductive Reached (part : Schema) : Schema → Prop where
  | self : Reached part part
  | child {schema inner : Schema} (mem : inner ∈ schema.lowered) (reached : Reached part inner) :
      Reached part schema

variable {schema child : Schema}

theorem allOf_of_decision {parts : List Schema} (decides : schema.decision = .factors parts) :
    schema.allOf = some parts := by
  unfold decision at decides
  split at decides
  case h_3 given => rw [given, Decision.factors.inj decides]
  case h_6 => split at decides <;> cases decides
  all_goals cases decides

theorem anyOf_or_oneOf_of_decision {parts : List Schema}
    (decides : schema.decision = .alternatives parts) :
    schema.anyOf = some parts ∨ schema.oneOf = some parts := by
  unfold decision at decides
  split at decides
  case h_4 given => exact .inl (by rw [given, Decision.alternatives.inj decides])
  case h_5 given => exact .inr (by rw [given, Decision.alternatives.inj decides])
  case h_6 => split at decides <;> cases decides
  all_goals cases decides

/-- The values of a schema are those of the deciding `enum`. -/
theorem decision_of_enumerated {values : List Json} (lists : schema.enumerated = some values) :
    schema.decision = .values values := by
  unfold enumerated at lists
  split at lists
  · next values decides => rw [decides, Option.some.inj lists]
  all_goals cases lists

/-- Only the names of arrays and of objects ask for schemas. -/
theorem under_of_ne {name : String} (noArray : name ≠ "array") (noObject : name ≠ "object") :
    schema.under name = [] := by
  unfold under
  split
  · exact absurd rfl noArray
  · exact absurd rfl noObject
  · rfl

/-- What a type name asks for stands in the schema. -/
theorem mem_children_of_under {name : String} (mem : child ∈ schema.under name) :
    child ∈ schema.children := by
  unfold under at mem
  split at mem
  · exact mem_children_of_items (by simpa [Option.mem_toList] using mem)
  · simp only [children, List.mem_append] at mem ⊢
    rcases mem with mem | mem
    · exact .inl (.inl (.inl (.inl (.inl mem))))
    · exact .inr mem
  · cases mem

/-- What lowering goes on to stands in the schema. -/
theorem mem_children_of_lowered (mem : child ∈ schema.lowered) : child ∈ schema.children := by
  unfold lowered at mem
  split at mem
  · next decides => exact mem_children_of_allOf (allOf_of_decision decides) mem
  · next decides => exact mem_children_of_alternatives (anyOf_or_oneOf_of_decision decides) mem
  · obtain ⟨name, -, mem⟩ := List.mem_flatMap.1 mem
    exact mem_children_of_under mem
  all_goals cases mem

end Schema

namespace Lowering

variable {options : Options} {depth : Nat}

/-- The type that the keyword `type` gives joins those of the type names. -/
theorem keywordType_eq_map (schema : Schema) :
    keywordType options schema.own (schema.properties.isSome || schema.additional.isSome)
        schema.items.isSome (arrayAt options depth schema.items)
        ((objectAt options depth schema).map .object)
      = (schema.kinds.mapM (nameAt options depth schema)).map (join options .union) := by
  have single (name : String) :
      nameAt options depth schema name
        = ([name].mapM (nameAt options depth schema)).map (join options .union) := by
    rw [List.mapM_cons, List.mapM_nil]
    cases nameAt options depth schema name with
    | error error => rfl
    | ok type => rfl
  unfold keywordType Schema.kinds Keywords.kinds
  cases schema.own.types with
  | none =>
      dsimp only
      split
      · exact single "object"
      · split
        · exact single "array"
        · rfl
  | some types =>
      cases types with
      | one name => exact single name
      | several names =>
          dsimp only
          rw [namedTypes_eq_mapM, bind_ok]
          rfl

/-- The decision, carried out: the only place where the chain of keywords
and the six decisions meet. -/
theorem decidedAt_eq_match (schema : Schema) :
    decidedAt options depth schema = match schema.decision with
      | .reference pointer => .ok (.ref (Identifier.referenceName pointer))
      | .constant value => .ok (constantType options value)
      | .factors parts => allOfAt options depth parts
      | .alternatives parts => unionAt options depth parts
      | .values values => enumType values
      | .types =>
          (schema.kinds.mapM (nameAt options depth schema)).map (join options .union) := by
  rw [← keywordType_eq_map]
  unfold decidedAt Schema.decision
  cases schema.own.reference with
  | some pointer => rfl
  | none =>
  cases schema.own.constant with
  | some value => rfl
  | none =>
  cases schema.allOf with
  | some parts => rfl
  | none =>
  cases schema.anyOf with
  | some parts => rfl
  | none =>
  cases schema.oneOf with
  | some parts => rfl
  | none =>
  cases schema.own.values with
  | none => rfl
  | some values =>
      cases schema.isType "object" with
      | false => rfl
      | true => rfl

end Lowering

end OpenApiTypes
