/-
Lowering is sound: whatever the names of declared types stand for, a value
that conforms to a schema belongs to the type that the schema is lowered to.
A type may admit more than its schema, for lowering listens to one keyword
and drops the others, but it never leaves a conforming value out.

The proof goes by induction on the schema, and `Reads` splits it by the
deciding keyword. A keyword only has to be shown sound for the demand it
makes itself, since a conforming value meets every demand at once. Null is
apart: it is added after the deciding keyword has given a type, and left out
where `admitsNull` says that the type has it already, which `admits_null`
justifies.
-/
import OpenApiTypes.Proofs.Meaning.Values

namespace OpenApiTypes

variable {names : Naming} {options : Options} {depth : Nat} {value : Json}

-- ============================================================= null

namespace TypeExpr

theorem anyAdmitsNull_iff {members : List TypeExpr} :
    anyAdmitsNull members = true ↔ ∃ member ∈ members, member.admitsNull = true := by
  induction members with
  | nil => simp [anyAdmitsNull]
  | cons member rest ih => simp [anyAdmitsNull, ih]

/-- A type that plainly admits null has it among its values. -/
theorem admits_null {type : TypeExpr} (plain : type.admitsNull = true) :
    type.Admits names .null := by
  induction type using TypeExpr.induction with
  | primitive type =>
      rw [Admits]
      cases type <;> simp [admitsNull, Primitive.Admits] at plain ⊢
  | literal given =>
      rw [Admits]
      cases given <;> simp [admitsNull, Literal.json] at plain ⊢
  | union members ih =>
      rw [admitsNull, anyAdmitsNull_iff] at plain
      obtain ⟨member, mem, plain⟩ := plain
      rw [Admits]
      exact ⟨member, mem, ih member mem plain⟩
  | array item ih => simp [admitsNull] at plain
  | intersection members ih => simp [admitsNull] at plain
  | object shape ihProperties ihIndex => simp [admitsNull] at plain
  | ref name => simp [admitsNull] at plain

end TypeExpr

namespace Lowering

/-- The type for schemas without a usable shape admits everything. -/
theorem admits_unknownType : (unknownType options).Admits names value := by
  unfold unknownType UnknownType.type
  cases options.unknownType with
  | any => rw [TypeExpr.Admits]; trivial
  | unknown => rw [TypeExpr.Admits]; trivial

/-- Adding null takes no value away. -/
theorem admits_orNull {type : TypeExpr} (admits : type.Admits names value) :
    (orNull type).Admits names value := by
  unfold orNull
  split
  · exact admits
  · rw [TypeExpr.Admits]
    exact ⟨type, by simp, admits⟩

/-- After adding null a type admits it. -/
theorem null_admits_orNull (type : TypeExpr) : (orNull type).Admits names .null := by
  unfold orNull
  split
  · next plain => exact TypeExpr.admits_null plain
  · rw [TypeExpr.Admits]
    refine ⟨.primitive .null, by simp, ?_⟩
    rw [TypeExpr.Admits]
    rfl

-- ========================================================== joining

/-- A value of one of the types belongs to their union, however many they
are. -/
theorem admits_join_union {types : List TypeExpr}
    (admits : ∃ type ∈ types, type.Admits names value) :
    (join options .union types).Admits names value := by
  obtain ⟨type, mem, admits⟩ := admits
  match types with
  | [only] =>
      obtain rfl : type = only := by simpa using mem
      exact admits
  | first :: second :: rest =>
      rw [join, TypeExpr.Admits]
      · exact ⟨type, mem, admits⟩
      all_goals simp

/-- A value of each of the types belongs to their intersection. -/
theorem admits_join_intersection {types : List TypeExpr}
    (admits : ∀ type ∈ types, type.Admits names value) :
    (join options .intersection types).Admits names value := by
  match types with
  | [] => exact admits_unknownType
  | [only] => exact admits only (by simp)
  | first :: second :: rest =>
      rw [join, TypeExpr.Admits]
      · exact admits
      all_goals simp

/-- One of some literals belongs to the type of all of them. -/
theorem admits_enumUnion {given : List Literal} (listed : value ∈ given.map Literal.json) :
    (enumUnion (given.map .literal)).Admits names value := by
  obtain ⟨literal, mem, rfl⟩ := List.mem_map.1 listed
  have own : (TypeExpr.literal literal).Admits names literal.json := by
    rw [TypeExpr.Admits]
  cases given with
  | nil => cases mem
  | cons first others =>
      cases others with
      | nil =>
          obtain rfl := List.mem_singleton.1 mem
          exact own
      | cons second rest =>
          show TypeExpr.Admits names (.union _) _
          rw [TypeExpr.Admits]
          exact ⟨.literal literal, List.mem_map_of_mem mem, own⟩

/-- The value of a `const` belongs to the type of the constant, which an
array or object leaves open. -/
theorem admits_constantType : (constantType options value).Admits names value := by
  unfold constantType
  split
  · next literal given =>
    rw [TypeExpr.Admits]
    exact literal_eq_ok.1 given
  · exact admits_unknownType

-- ========================================================= schemas

/-- Lowering a schema at any depth keeps the values that conform to it. -/
def Sound (names : Naming) (options : Options) (schema : Schema) : Prop :=
  ∀ depth type value, typeAt options depth schema = .ok type →
    schema.Admits names value → type.Admits names value

section Step

variable {schema : Schema} (ih : ∀ child ∈ schema.children, Sound names options child)

include ih

/-- An array whose elements conform to the items has their type. -/
theorem admits_arrayAt {type : TypeExpr} (read : arrayAt options depth schema.items = .ok type)
    (conforms : schema.AdmitsArray names value) : type.Admits names value := by
  rw [Schema.AdmitsArray] at conforms
  obtain ⟨elements, rfl, each⟩ := conforms
  rcases arrayAt_eq_ok.1 read with ⟨noItems, rfl⟩ | ⟨items, item, given, -, lowered, rfl⟩
  · rw [TypeExpr.Admits]
    exact ⟨elements, rfl, fun element _ => admits_unknownType⟩
  · rw [TypeExpr.Admits]
    refine ⟨elements, rfl, fun element mem => ?_⟩
    exact ih items (Schema.mem_children_of_items given) _ _ _ lowered (each items given element mem)

/-- An object that conforms to the object keywords has their type. -/
theorem admits_objectAt {shape : ObjectType} (read : objectAt options depth schema = .ok shape)
    (conforms : schema.AdmitsObject names value) :
    (TypeExpr.object shape).Admits names value := by
  rw [Schema.AdmitsObject] at conforms
  obtain ⟨entries, rfl, required, declared, others⟩ := conforms
  obtain ⟨-, properties, index⟩ := objectAt_eq_ok.1 read
  rw [TypeExpr.Admits]
  refine ⟨entries, rfl, fun property mem => ?_, fun type given key inner entry undeclared => ?_⟩
  · obtain ⟨⟨name, child⟩, sorted, type, lowered, rfl⟩ := exists_of_mem_right properties mem
    have stands : (name, child) ∈ schema.properties.getD [] := mem_sortEntries.1 sorted
    refine ⟨fun demanded => ?_, fun inner entry => ?_⟩
    · have listed : name ∈ schema.own.required.getD [] := by
        simpa [Lowering.property] using demanded
      exact required name listed (List.mem_map_of_mem stands)
    · exact ih child (Schema.mem_children_of_property stands) _ _ _ lowered
        (declared name child stands inner entry)
  · have fresh : ¬ schema.Declares key := by
      intro declares
      apply undeclared
      rw [map_name_of_properties properties]
      exact ((Text.sortByName_perm Prod.fst _).map _).mem_iff.2 declares
    obtain ⟨-, conforms⟩ := others key inner entry fresh
    rw [given] at index
    rcases index_cases index with rfl | ⟨child, additional, lowered⟩
    · exact admits_unknownType
    · exact ih child (Schema.mem_children_of_additional additional) _ _ _ lowered
        (conforms child additional)

/-- A value of a type name has the type of the name. -/
theorem admits_named {name : String} {type : TypeExpr}
    (named : Named options depth schema name type)
    (conforms : schema.AdmitsAs names name value) : type.Admits names value := by
  unfold Schema.AdmitsAs at conforms
  cases named with
  | text noBinary =>
      rw [TypeExpr.Admits]
      exact (if_neg noBinary).mp conforms
  | binary given =>
      rw [fileType, TypeExpr.Admits]
      exact (if_pos given).mp conforms
  | number => rw [TypeExpr.Admits]; exact conforms
  | integer =>
      obtain ⟨number, rfl, -⟩ := conforms
      rw [TypeExpr.Admits]
      exact ⟨number, rfl⟩
  | boolean => rw [TypeExpr.Admits]; exact conforms
  | null => rw [TypeExpr.Admits]; exact conforms
  | file => rw [fileType, TypeExpr.Admits]; exact conforms
  | array read => exact admits_arrayAt ih read conforms
  | object read => exact admits_objectAt ih read conforms
  | unknown unheard => exact admits_unknownType

/-- A value that meets the keyword `type` has the type that it gives. -/
theorem admits_typed {type : TypeExpr} (typed : Typed options depth schema type)
    (conforms : schema.AdmitsTyped names value) : type.Admits names value := by
  unfold Schema.AdmitsTyped at conforms
  cases typed with
  | one given named =>
      simp only [given] at conforms
      exact admits_named ih named conforms
  | several given named =>
      simp only [given] at conforms
      obtain ⟨name, mem, conforms⟩ := conforms
      obtain ⟨type, inner, named⟩ := exists_of_mem_left named mem
      exact admits_join_union ⟨type, inner, admits_named ih named conforms⟩
  | objectLike untyped like read =>
      simp only [untyped, like, if_true] at conforms
      exact admits_objectAt ih read conforms
  | arrayLike untyped unlike like read =>
      simp only [untyped, unlike.1, unlike.2, like, Option.isSome_none, Bool.or_self,
        Bool.false_eq_true, if_false, if_true] at conforms
      exact admits_arrayAt ih read conforms
  | neither untyped unlike => exact admits_unknownType

/-- Parts that are lowered one level down keep their values. -/
theorem admits_of_partsRead {parts : List Schema} {types : List TypeExpr}
    (children : ∀ part ∈ parts, part ∈ schema.children)
    (read : PartsRead options depth parts types) :
    List.Forall₂ (fun part type => ∀ value, part.Admits names value → type.Admits names value)
      parts types := by
  have sound : ∀ part ∈ parts, Sound names options part :=
    fun part mem => ih part (children part mem)
  obtain ⟨-, read⟩ := read
  clear children
  induction read with
  | nil => exact .nil
  | cons first others again =>
      refine .cons (fun value => sound _ List.mem_cons_self _ _ _ first)
        (again fun part mem => ?_)
      exact sound part (List.mem_cons_of_mem _ mem)

/-- A value that meets every keyword of a schema has the type that the
deciding one gives. -/
theorem admits_reads {type : TypeExpr} (reads : Reads options depth schema type)
    (meets : schema.Meets names value) : type.Admits names value := by
  unfold Schema.Meets at meets
  cases reads with
  | reference given =>
      simp only [given] at meets
      rw [TypeExpr.Admits]
      exact meets
  | constant noReference given =>
      simp only [noReference] at meets
      obtain rfl := meets.1 _ given
      exact admits_constantType
  | allOf noReference noConstant given read =>
      simp only [noReference] at meets
      obtain ⟨-, -, each, -⟩ := meets
      have sound := admits_of_partsRead ih (fun _ => Schema.mem_children_of_allOf given) read
      refine admits_join_intersection fun type mem => ?_
      obtain ⟨part, inner, sound⟩ := exists_of_mem_right sound mem
      exact sound value (each _ given part inner)
  | anyOf noReference noConstant noAllOf given read =>
      simp only [noReference] at meets
      obtain ⟨-, -, -, any, -⟩ := meets
      obtain ⟨part, inner, conforms⟩ := any _ given
      have sound := admits_of_partsRead ih (fun _ => Schema.mem_children_of_anyOf given) read
      obtain ⟨type, mem, sound⟩ := exists_of_mem_left sound inner
      exact admits_join_union ⟨type, mem, sound value conforms⟩
  | oneOf noReference noConstant noAllOf noAnyOf given read =>
      simp only [noReference] at meets
      obtain ⟨-, -, -, -, one, -⟩ := meets
      obtain ⟨place, conforms, -⟩ := one _ given
      have sound := admits_of_partsRead ih (fun _ => Schema.mem_children_of_oneOf given) read
      obtain ⟨type, mem, sound⟩ := exists_of_mem_left sound (List.get_mem _ place)
      exact admits_join_union ⟨type, mem, sound value conforms⟩
  | values noReference noConstant noAllOf noAnyOf noOneOf noObject literals =>
      simp only [noReference] at meets
      exact admits_enumUnion (meets.2.1 _ literals)
  | typed noReference noConstant noAllOf noAnyOf noOneOf noValues typed =>
      simp only [noReference] at meets
      exact admits_typed ih typed meets.2.2.2.2.2

end Step

/-- Lowering is sound: a value that conforms to a schema has its type. -/
theorem sound (names : Naming) (options : Options) (schema : Schema) :
    Sound names options schema := by
  induction schema using Schema.induction with
  | step schema ih =>
      intro depth type value lowered conforms
      obtain ⟨decided, reads, rfl⟩ := typeAt_eq_ok.1 lowered
      rw [Schema.Admits] at conforms
      unfold withNull
      split
      · rcases conforms with ⟨-, rfl⟩ | meets
        · exact null_admits_orNull decided
        · exact admits_orNull (admits_reads ih reads meets)
      · next notNullable =>
        rcases conforms with ⟨nullable, -⟩ | meets
        · exact absurd nullable notNullable
        · exact admits_reads ih reads meets

/-- A value that conforms to a schema belongs to the type that the schema is
lowered to, at any depth, under all options, and whatever the names mean. -/
theorem admits_of_typeAt {options : Options} {depth : Nat} {schema : Schema} {type : TypeExpr}
    (lowered : typeAt options depth schema = .ok type) (names : Naming) {value : Json}
    (conforms : schema.Admits names value) : type.Admits names value :=
  sound names options schema depth type value lowered conforms

-- ---- a pet: its declared key, a key besides it, and the null it may be

/-- A label, in one of two forms. -/
def labelSchema : Schema where
  oneOf := some [{ own := { types := some (.one "string") } },
    { own := { types := some (.one "boolean") } }]

/-- A pet: a number, and labels under all other keys. -/
def petSchema : Schema where
  own := { types := some (.one "object"), required := some ["id"], nullable := some true }
  properties := some [("id", { own := { types := some (.one "integer") } })]
  additional := some (.each labelSchema)

/-- The type of a pet. -/
def petType : TypeExpr :=
  .union [.object {
      properties := [{ name := "id", type := .primitive .number, optional := false }]
      index := some (.union [.primitive .string, .primitive .boolean]) },
    .primitive .null]

/-- A pet with a name. -/
def rex : Json := .object [("id", .number (.integer 7)), ("name", .string "Rex")]

section Pet

variable (names : Naming)

/-- A string is a label: it has the first form and not the second. -/
theorem admits_label (text : String) : labelSchema.Admits names (.string text) := by
  have string :
      Schema.Admits names { own := { types := some (.one "string") } } (.string text) := by
    rw [Schema.Admits, Schema.Meets, Schema.AdmitsTyped]
    simp [Schema.AdmitsAs]
  have boolean :
      ¬ Schema.Admits names { own := { types := some (.one "boolean") } } (.string text) := by
    rw [Schema.Admits, Schema.Meets, Schema.AdmitsTyped]
    simp [Schema.AdmitsAs]
  rw [Schema.Admits, Schema.Meets, Schema.AdmitsTyped]
  simp only [labelSchema]
  refine .inr ⟨by simp, by simp, by simp, by simp, fun parts given => ?_, by simp⟩
  obtain rfl := Option.some.inj given
  refine ⟨⟨0, by simp⟩, string, ?_⟩
  intro place admitted
  obtain ⟨place, inside⟩ := place
  cases place with
  | zero => rfl
  | succ next =>
      obtain rfl : next = 0 := by
        simp only [List.length_cons, List.length_nil] at inside
        omega
      exact absurd admitted boolean

theorem admits_rex : petSchema.Admits names rex := by
  have id : Schema.Admits names { own := { types := some (.one "integer") } }
      (.number (.integer 7)) := by
    rw [Schema.Admits, Schema.Meets, Schema.AdmitsTyped]
    simp [Schema.AdmitsAs, Number.IsWhole]
  rw [Schema.Admits, Schema.Meets, Schema.AdmitsTyped]
  simp only [petSchema, Schema.AdmitsAs, Schema.AdmitsObject]
  refine .inr ⟨by simp, by simp, by simp, by simp, by simp, _, rfl, by simp, ?_, ?_⟩
  · intro name child declared inner mem
    obtain ⟨rfl, rfl⟩ : name = "id" ∧ child = _ := by simpa using declared
    obtain rfl : inner = .number (.integer 7) := by simpa using mem
    exact id
  · intro key inner mem free
    obtain ⟨rfl, rfl⟩ : key = "name" ∧ inner = .string "Rex" := by
      simp only [List.mem_cons, Prod.mk.injEq, List.not_mem_nil, or_false] at mem
      simp only [Schema.Declares, Option.getD_some, List.map_cons, List.map_nil,
        List.mem_singleton] at free
      exact mem.resolve_left fun same => free same.1
    refine ⟨by simp, fun child given => ?_⟩
    obtain rfl : labelSchema = child := by simpa using given
    exact admits_label names "Rex"

end Pet

theorem typeAt_petSchema : typeAt {} 0 petSchema = .ok petType := by
  have declared : declaredAt {} 1 ["id"] petSchema.properties
      = .ok [{ name := "id", type := .primitive .number, optional := false }] := by
    simp only [petSchema, declaredAt, orderedProperties, Text.sortEntries, Text.sortByName,
      propertiesAt, List.mergeSort_singleton]
    rfl
  have index : indexAt {} 1 true petSchema.additional
      = .ok (some (.union [.primitive .string, .primitive .boolean])) := rfl
  have object : objectAt {} 0 petSchema
      = shape (declaredAt {} 1 ["id"] petSchema.properties)
          (indexAt {} 1 true petSchema.additional) := rfl
  have decided : decidedAt {} 0 petSchema = (objectAt {} 0 petSchema).map .object := rfl
  rw [typeAt_eq_map, decided, object, declared, index]
  rfl

theorem petType_admits_rex :
    typeAt {} 0 petSchema = .ok petType ∧ petSchema.Admits (fun _ => ∅) rex
      ∧ petType.Admits (fun _ => ∅) rex :=
  ⟨typeAt_petSchema, admits_rex _, admits_of_typeAt typeAt_petSchema _ (admits_rex _)⟩

end Lowering

end OpenApiTypes
