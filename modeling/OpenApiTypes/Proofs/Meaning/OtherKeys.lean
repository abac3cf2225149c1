/-
The entry for other keys, read as TypeScript reads an index signature: of
every key of an object, the declared ones included. An object type is then
only in order when whatever the type of a declared property admits is also
admitted by the entry (`CoversDeclared`), and only then does a value have
the type whenever its undeclared keys fit the entry.

Where nothing but the truth value, or nothing at all, is said about other
keys, the entry admits everything and is in order. `additionalProperties`
with a schema is another matter, since in a schema it speaks of the
undeclared keys alone. Lowering copies it: the entry is the type of that
schema and never made wider for the properties beside it, so that being in
order is left to the document.
-/
import OpenApiTypes.Proofs.Meaning.Soundness

namespace OpenApiTypes

variable {names : Naming} {options : Options} {depth : Nat} {value : Json}

namespace ObjectShape

/-- The entry for other keys, if there is one, admits what the types of the
declared properties admit. -/
def CoversDeclared (names : Naming) (shape : ObjectType) : Prop :=
  ∀ index, shape.index = some index → ∀ property ∈ shape.properties, ∀ value,
    property.type.Admits names value → index.Admits names value

/-- The values of an object type whose entry for other keys is demanded of
the declared keys too. -/
def AdmitsThroughout (names : Naming) (shape : ObjectType) (value : Json) : Prop :=
  (TypeExpr.object shape).Admits names value
    ∧ ∀ index, shape.index = some index → ∀ entries, value = .object entries →
        ∀ key inner, (key, inner) ∈ entries → index.Admits names inner

/-- If the entry covers the declared properties, it makes no difference
whether it is demanded of their keys. -/
theorem admitsThroughout_of_covers {shape : ObjectType} (covers : shape.CoversDeclared names)
    (admits : (TypeExpr.object shape).Admits names value) :
    shape.AdmitsThroughout names value := by
  refine ⟨admits, fun index given entries same key inner mem => ?_⟩
  obtain ⟨properties, _⟩ := shape
  rw [TypeExpr.Admits] at admits
  obtain ⟨entries', same', declared, others⟩ := admits
  obtain rfl : entries = entries' := Json.object.inj (same.symm.trans same')
  by_cases known : key ∈ properties.map Property.name
  · obtain ⟨property, listed, rfl⟩ := List.mem_map.1 known
    exact covers index given property listed inner ((declared property listed).2 inner mem)
  · exact others index given key inner mem known

end ObjectShape

namespace Lowering

variable {schema : Schema} {shape : ObjectType} {index : TypeExpr}

/-- The declared properties of an object type are those of its schema, each
with the type of the schema under its name. -/
theorem forall_property_iff (read : objectAt options depth schema = .ok shape)
    {P : TypeExpr → Prop} :
    (∀ property ∈ shape.properties, P property.type)
      ↔ ∀ name inner, (name, inner) ∈ schema.properties.getD [] →
          ∃ type, typeAt options (depth + 1) inner = .ok type ∧ P type := by
  obtain ⟨-, properties, -⟩ := objectAt_eq_ok.1 read
  constructor
  · intro each name inner mem
    obtain ⟨property, listed, type, lowered, rfl⟩ :=
      exists_of_mem_left properties (mem_sortEntries.2 mem)
    exact ⟨type, lowered, each _ listed⟩
  · intro each property listed
    obtain ⟨⟨name, inner⟩, sorted, type, lowered, rfl⟩ := exists_of_mem_right properties listed
    obtain ⟨type', lowered', holds⟩ := each name inner (mem_sortEntries.1 sorted)
    obtain rfl : type = type' := Except.ok.inj (lowered.symm.trans lowered')
    exact holds

/-- An entry for other keys that no schema describes is open. -/
theorem index_eq_unknownType (read : objectAt options depth schema = .ok shape)
    (given : shape.index = some index)
    (undescribed : ∀ child, schema.additional ≠ some (.each child)) :
    index = unknownType options := by
  obtain ⟨-, -, lowered⟩ := objectAt_eq_ok.1 read
  rw [given] at lowered
  rcases index_cases lowered with same | ⟨child, described, -⟩
  · exact same
  · exact absurd described (undescribed child)

/-- An entry for other keys that a schema describes has the type of that
schema, whatever else is declared. -/
theorem typeAt_of_index (read : objectAt options depth schema = .ok shape)
    (given : shape.index = some index) {child : Schema}
    (described : schema.additional = some (.each child)) :
    typeAt options (depth + 1) child = .ok index := by
  obtain ⟨-, -, lowered⟩ := objectAt_eq_ok.1 read
  rw [given, described, indexAt_eq_ok] at lowered
  obtain ⟨type, lowered, same⟩ := lowered
  rw [lowered, Option.some.inj same]

/-- An object type with an entry for other keys is in order wherever the
entry is not described by a schema: it admits everything. Described by a
schema it has the type of that schema, and is in order exactly if the type
of every declared property admits no more than that. An object that meets
the object keywords has the type at any rate if the entry is read of the
undeclared keys, and if the type is in order also if it is read of all. -/
theorem covers_declared_iff (read : objectAt options depth schema = .ok shape)
    (given : shape.index = some index) (names : Naming) :
    ((∀ child, schema.additional ≠ some (.each child)) →
        index = unknownType options ∧ shape.CoversDeclared names)
      ∧ (∀ child, schema.additional = some (.each child) →
          typeAt options (depth + 1) child = .ok index
          ∧ (shape.CoversDeclared names
            ↔ ∀ name inner, (name, inner) ∈ schema.properties.getD [] →
                ∃ type, typeAt options (depth + 1) inner = .ok type
                  ∧ ∀ value, type.Admits names value → index.Admits names value))
      ∧ ∀ value, schema.AdmitsObject names value →
          (TypeExpr.object shape).Admits names value
          ∧ (shape.CoversDeclared names → shape.AdmitsThroughout names value) := by
  have covers_iff : shape.CoversDeclared names
      ↔ ∀ property ∈ shape.properties, ∀ value,
          property.type.Admits names value → index.Admits names value := by
    unfold ObjectShape.CoversDeclared
    rw [given]
    simp
  refine ⟨fun undescribed => ?_, fun child described => ?_, fun value conforms => ?_⟩
  · obtain rfl := index_eq_unknownType read given undescribed
    exact ⟨rfl, covers_iff.2 fun property _ value _ => admits_unknownType⟩
  · exact ⟨typeAt_of_index read given described,
      covers_iff.trans (forall_property_iff read
        (P := fun type => ∀ value, type.Admits names value → index.Admits names value))⟩
  · have admits : (TypeExpr.object shape).Admits names value :=
      admits_objectAt (fun child _ => sound names options child) read conforms
    exact ⟨admits, fun covers => ObjectShape.admitsThroughout_of_covers covers admits⟩

/-- The object type of a schema that declares one property. -/
theorem objectAt_of_property {name : String} {inner : Schema} {type : TypeExpr}
    (room : depth + 1 ≤ options.maxDepth) (declared : schema.properties = some [(name, inner)])
    (lowered : typeAt options (depth + 1) inner = .ok type)
    (properties :
      shape.properties = [property (schema.own.required.getD []) name inner.own type])
    (index : indexAt options (depth + 1) true schema.additional = .ok shape.index) :
    objectAt options depth schema = .ok shape := by
  have sorted : Text.sortEntries [(name, inner)] = [(name, inner)] := List.mergeSort_singleton _
  rw [objectAt_eq_ok, declared, Option.getD_some, sorted, properties]
  exact ⟨room, .cons ⟨type, lowered, rfl⟩ .nil, index⟩

-- ---- a name beside labels, which are names or flags

/-- Labels under all keys, and a name under one of them. -/
def taggedSchema : Schema where
  own := { types := some (.one "object") }
  properties := some [("name", { own := { types := some (.one "string") } })]
  additional := some (.each labelSchema)

/-- The type of something tagged. -/
def taggedType : ObjectType where
  properties := [{ name := "name", type := .primitive .string, optional := true }]
  index := some (.union [.primitive .string, .primitive .boolean])

theorem objectAt_taggedSchema : objectAt {} 0 taggedSchema = .ok taggedType :=
  objectAt_of_property (by decide) rfl rfl rfl rfl

theorem covers_declared_tagged :
    objectAt {} 0 taggedSchema = .ok taggedType
      ∧ taggedType.index = some (.union [.primitive .string, .primitive .boolean])
      ∧ taggedType.CoversDeclared (fun _ => ∅) := by
  refine ⟨objectAt_taggedSchema, rfl, ?_⟩
  obtain ⟨-, described, -⟩ := covers_declared_iff objectAt_taggedSchema rfl (fun _ => ∅)
  refine (described labelSchema rfl).2.2 fun name inner mem => ?_
  obtain ⟨rfl, rfl⟩ : name = "name" ∧ inner = { own := { types := some (.one "string") } } := by
    simpa [taggedSchema] using mem
  refine ⟨.primitive .string, rfl, fun value text => ?_⟩
  rw [TypeExpr.Admits]
  exact ⟨.primitive .string, by simp, text⟩

-- ---- a number beside names

/-- Names under all keys but one, which holds a number. -/
def countedSchema : Schema where
  own := { types := some (.one "object"), required := some ["id"] }
  properties := some [("id", { own := { types := some (.one "integer") } })]
  additional := some (.each { own := { types := some (.one "string") } })

/-- The type of something counted. -/
def countedType : ObjectType where
  properties := [{ name := "id", type := .primitive .number, optional := false }]
  index := some (.primitive .string)

theorem objectAt_countedSchema : objectAt {} 0 countedSchema = .ok countedType :=
  objectAt_of_property (by decide) rfl rfl rfl rfl

/-- An entry of strings does not cover a declared number, and the object
that holds only this number conforms to the schema and does not have the
type. -/
theorem number_beside_strings :
    objectAt {} 0 countedSchema = .ok countedType
      ∧ ¬ countedType.CoversDeclared (fun _ => ∅)
      ∧ countedSchema.AdmitsObject (fun _ => ∅) (.object [("id", .number (.integer 7))])
      ∧ ¬ countedType.AdmitsThroughout (fun _ => ∅) (.object [("id", .number (.integer 7))]) := by
  have number : TypeExpr.Admits (fun _ => ∅) (.primitive .number) (.number (.integer 7)) := by
    rw [TypeExpr.Admits]
    exact ⟨_, rfl⟩
  have noString : ¬ TypeExpr.Admits (fun _ => ∅) (.primitive .string) (.number (.integer 7)) := by
    rw [TypeExpr.Admits]
    intro h
    obtain ⟨text, same⟩ := h
    cases same
  refine ⟨objectAt_countedSchema, fun covers => ?_, ?_, fun admits => ?_⟩
  · exact noString (covers _ rfl _ List.mem_cons_self _ number)
  · have id : Schema.Admits (fun _ => ∅) { own := { types := some (.one "integer") } }
        (.number (.integer 7)) := by
      rw [Schema.Admits, Schema.Meets, Schema.AdmitsTyped]
      simp [Schema.AdmitsAs, Number.IsWhole]
    rw [Schema.AdmitsObject]
    refine ⟨_, rfl, by simp [countedSchema], fun name child declared inner mem => ?_,
      fun key inner mem free => ?_⟩
    · obtain ⟨rfl, rfl⟩ : name = "id" ∧ child = _ := by simpa [countedSchema] using declared
      obtain rfl : inner = .number (.integer 7) := by simpa using mem
      exact id
    · obtain ⟨rfl, -⟩ : key = "id" ∧ inner = .number (.integer 7) := by simpa using mem
      exact absurd (by simp [Schema.Declares, countedSchema]) free
  · exact noString (admits.2 _ rfl _ rfl "id" _ List.mem_cons_self)

end Lowering

end OpenApiTypes
