/-
Nesting: what stands inside a schema and inside a type expression, at any
depth, and the induction that descends into both. Lists, maps and optional
parts lie between a node and its children, so neither type has an induction
principle that reads well by itself; the two stated here give one hypothesis
for each child and nothing else.

`Schema.Within` and `TypeExpr.Within` are the words in which a property of
every node is stated: every reference of a schema, every union of a type.
-/
import OpenApiTypes.Lowering

namespace OpenApiTypes

-- ======================================================== schemas

/-- The schema of the keys besides the declared ones, if they have one. -/
def Additional.schema? {σ : Type} : Additional σ → Option σ
  | allowed _ => none
  | each schema => some schema

theorem Additional.mem_schema_iff {σ : Type} {additional : Option (Additional σ)} {schema : σ} :
    schema ∈ (additional.bind Additional.schema?).toList ↔ additional = some (.each schema) := by
  cases additional with
  | none => simp
  | some additional =>
      cases additional with
      | allowed value => simp [Additional.schema?]
      | each given => simp [Additional.schema?, eq_comm]

namespace Schema

/-- The schemas that stand directly in a schema, whatever the keyword. -/
def children (schema : Schema) : List Schema :=
  (schema.properties.getD []).map Prod.snd ++ schema.items.toList
    ++ schema.anyOf.getD [] ++ schema.oneOf.getD [] ++ schema.allOf.getD []
    ++ (schema.additional.bind Additional.schema?).toList

section Children

variable {schema child : Schema}

theorem mem_children_of_property {name : String}
    (mem : (name, child) ∈ schema.properties.getD []) : child ∈ schema.children := by
  have inner : child ∈ (schema.properties.getD []).map Prod.snd := List.mem_map_of_mem mem
  simp [children, inner]

theorem mem_children_of_items (given : schema.items = some child) :
    child ∈ schema.children := by
  simp [children, given]

theorem mem_children_of_anyOf {parts : List Schema} (given : schema.anyOf = some parts)
    (mem : child ∈ parts) : child ∈ schema.children := by
  simp [children, given, mem]

theorem mem_children_of_oneOf {parts : List Schema} (given : schema.oneOf = some parts)
    (mem : child ∈ parts) : child ∈ schema.children := by
  simp [children, given, mem]

theorem mem_children_of_allOf {parts : List Schema} (given : schema.allOf = some parts)
    (mem : child ∈ parts) : child ∈ schema.children := by
  simp [children, given, mem]

theorem mem_children_of_alternatives {parts : List Schema}
    (given : schema.anyOf = some parts ∨ schema.oneOf = some parts) (mem : child ∈ parts) :
    child ∈ schema.children := by
  rcases given with given | given
  · exact mem_children_of_anyOf given mem
  · exact mem_children_of_oneOf given mem

theorem mem_children_of_only
    (given : schema.anyOf = some [child] ∨ schema.oneOf = some [child]
      ∨ schema.allOf = some [child]) : child ∈ schema.children := by
  rcases given with given | given | given
  · exact mem_children_of_anyOf given (List.mem_singleton_self _)
  · exact mem_children_of_oneOf given (List.mem_singleton_self _)
  · exact mem_children_of_allOf given (List.mem_singleton_self _)

theorem mem_children_of_additional (given : schema.additional = some (.each child)) :
    child ∈ schema.children := by
  have inner : child ∈ (schema.additional.bind Additional.schema?).toList :=
    Additional.mem_schema_iff.2 given
  simp [children, inner]

/-- What stands in an optional list is smaller than the whole of it. -/
theorem sizeOf_lt_of_mem_getD {α : Type} [SizeOf α] {item : α} {items : Option (List α)}
    (mem : item ∈ items.getD []) : sizeOf item < sizeOf items := by
  cases items with
  | none => simp at mem
  | some items =>
      have size := List.sizeOf_lt_of_mem mem
      simp only [Option.getD_some] at size
      simp only [Option.some.sizeOf_spec]
      omega

/-- A child is smaller than the schema it stands in. -/
theorem sizeOf_lt_of_mem_children (mem : child ∈ schema.children) :
    sizeOf child < sizeOf schema := by
  obtain ⟨own, properties, items, anyOf, oneOf, allOf, additional⟩ := schema
  simp only [children, List.mem_append] at mem
  rw [Schema.mk.sizeOf_spec]
  rcases mem with ((((mem | mem) | mem) | mem) | mem) | mem
  · obtain ⟨⟨name, schema⟩, inner, rfl⟩ := List.mem_map.1 mem
    have size := sizeOf_lt_of_mem_getD inner
    simp only [Prod.mk.sizeOf_spec] at size ⊢
    omega
  · cases items with
    | none => simp at mem
    | some items =>
        obtain rfl : child = items := by simpa using mem
        simp only [Option.some.sizeOf_spec]
        omega
  · have size := sizeOf_lt_of_mem_getD mem
    omega
  · have size := sizeOf_lt_of_mem_getD mem
    omega
  · have size := sizeOf_lt_of_mem_getD mem
    omega
  · obtain rfl := Additional.mem_schema_iff.1 mem
    simp only [Option.some.sizeOf_spec, Additional.each.sizeOf_spec]
    omega

end Children

/-- Induction on a schema: a property that passes from the children of every
schema to the schema holds of all. -/
@[elab_as_elim]
theorem induction {motive : Schema → Prop}
    (step : ∀ schema, (∀ child ∈ schema.children, motive child) → motive schema)
    (schema : Schema) : motive schema :=
  step schema fun child mem =>
    have := sizeOf_lt_of_mem_children mem
    induction step child
termination_by sizeOf schema

/-- A schema stands within another one: it is that schema itself, or stands
within one of its children. -/
inductive Within (part : Schema) : Schema → Prop where
  | self : Within part part
  | child {schema inner : Schema} (mem : inner ∈ schema.children) (within : Within part inner) :
      Within part schema

/-- What stands in a part of a schema stands in the schema. -/
theorem Within.trans {part inner schema : Schema} (within : Within part inner)
    (within' : Within inner schema) : Within part schema := by
  induction within' with
  | self => exact within
  | child mem _ ih => exact .child mem ih

end Schema

-- =============================================== type expressions

namespace TypeExpr

section Sizes

variable {inner : TypeExpr} {members : List TypeExpr}

theorem sizeOf_lt_of_alternative (mem : inner ∈ members) :
    sizeOf inner < sizeOf (TypeExpr.union members) := by
  have size := List.sizeOf_lt_of_mem mem
  simp only [TypeExpr.union.sizeOf_spec]
  omega

theorem sizeOf_lt_of_factor (mem : inner ∈ members) :
    sizeOf inner < sizeOf (TypeExpr.intersection members) := by
  have size := List.sizeOf_lt_of_mem mem
  simp only [TypeExpr.intersection.sizeOf_spec]
  omega

theorem sizeOf_lt_of_property {shape : ObjectType} {property : Property TypeExpr}
    (mem : property ∈ shape.properties) :
    sizeOf property.type < sizeOf (TypeExpr.object shape) := by
  obtain ⟨properties, index⟩ := shape
  obtain ⟨name, type, optional, doc⟩ := property
  have size := List.sizeOf_lt_of_mem mem
  simp only [Property.mk.sizeOf_spec] at size
  simp only [TypeExpr.object.sizeOf_spec, ObjectShape.mk.sizeOf_spec]
  omega

theorem sizeOf_lt_of_index {shape : ObjectType} (given : shape.index = some inner) :
    sizeOf inner < sizeOf (TypeExpr.object shape) := by
  obtain ⟨properties, index⟩ := shape
  obtain rfl : index = some inner := given
  simp only [TypeExpr.object.sizeOf_spec, ObjectShape.mk.sizeOf_spec, Option.some.sizeOf_spec]
  omega

end Sizes

/-- Induction on a type expression, with a hypothesis for every member,
every property and the entry for other keys. -/
@[elab_as_elim]
theorem induction {motive : TypeExpr → Prop}
    (primitive : ∀ type, motive (.primitive type))
    (array : ∀ item, motive item → motive (.array item))
    (union : ∀ members, (∀ member ∈ members, motive member) → motive (.union members))
    (intersection : ∀ members, (∀ member ∈ members, motive member) →
      motive (.intersection members))
    (object : ∀ shape : ObjectType, (∀ property ∈ shape.properties, motive property.type) →
      (∀ type, shape.index = some type → motive type) → motive (.object shape))
    (literal : ∀ value, motive (.literal value))
    (ref : ∀ name, motive (.ref name)) :
    ∀ type, motive type := by
  intro type
  have again (inner : TypeExpr) (_ : sizeOf inner < sizeOf type) : motive inner :=
    induction primitive array union intersection object literal ref inner
  cases type with
  | primitive type => exact primitive type
  | array item => exact array item (again item (by simp))
  | union members =>
      exact union members fun member mem => again member (sizeOf_lt_of_alternative mem)
  | intersection members =>
      exact intersection members fun member mem => again member (sizeOf_lt_of_factor mem)
  | object shape =>
      exact object shape (fun property mem => again property.type (sizeOf_lt_of_property mem))
        fun type given => again type (sizeOf_lt_of_index given)
  | literal value => exact literal value
  | ref name => exact ref name
termination_by type => sizeOf type

/-- A type stands within another one, at any depth. -/
inductive Within (part : TypeExpr) : TypeExpr → Prop where
  | self : Within part part
  | item {item : TypeExpr} (within : Within part item) : Within part (.array item)
  | alternative {members : List TypeExpr} {member : TypeExpr} (mem : member ∈ members)
      (within : Within part member) : Within part (.union members)
  | factor {members : List TypeExpr} {member : TypeExpr} (mem : member ∈ members)
      (within : Within part member) : Within part (.intersection members)
  | property {shape : ObjectType} {property : Property TypeExpr}
      (mem : property ∈ shape.properties) (within : Within part property.type) :
      Within part (.object shape)
  | index {shape : ObjectType} {type : TypeExpr} (given : shape.index = some type)
      (within : Within part type) : Within part (.object shape)

section Within

variable {part : TypeExpr}

/-- What stands in a part of a type stands in the type. -/
theorem Within.trans {inner type : TypeExpr} (within : Within part inner)
    (within' : Within inner type) : Within part type := by
  induction within' with
  | self => exact within
  | item _ ih => exact .item ih
  | alternative mem _ ih => exact .alternative mem ih
  | factor mem _ ih => exact .factor mem ih
  | property mem _ ih => exact .property mem ih
  | index given _ ih => exact .index given ih

theorem within_primitive {type : Primitive} :
    Within part (.primitive type) ↔ part = .primitive type := by
  constructor
  · intro within
    cases within
    rfl
  · intro same
    subst same
    exact .self

theorem within_literal {value : Literal} :
    Within part (.literal value) ↔ part = .literal value := by
  constructor
  · intro within
    cases within
    rfl
  · intro same
    subst same
    exact .self

theorem within_ref {name : String} : Within part (.ref name) ↔ part = .ref name := by
  constructor
  · intro within
    cases within
    rfl
  · intro same
    subst same
    exact .self

theorem within_array {item : TypeExpr} :
    Within part (.array item) ↔ part = .array item ∨ Within part item := by
  constructor
  · intro within
    cases within with
    | self => exact .inl rfl
    | item within => exact .inr within
  · intro h
    rcases h with rfl | within
    · exact .self
    · exact .item within

theorem within_union {members : List TypeExpr} :
    Within part (.union members)
      ↔ part = .union members ∨ ∃ member ∈ members, Within part member := by
  constructor
  · intro within
    cases within with
    | self => exact .inl rfl
    | alternative mem within => exact .inr ⟨_, mem, within⟩
  · intro h
    rcases h with rfl | ⟨member, mem, within⟩
    · exact .self
    · exact .alternative mem within

theorem within_intersection {members : List TypeExpr} :
    Within part (.intersection members)
      ↔ part = .intersection members ∨ ∃ member ∈ members, Within part member := by
  constructor
  · intro within
    cases within with
    | self => exact .inl rfl
    | factor mem within => exact .inr ⟨_, mem, within⟩
  · intro h
    rcases h with rfl | ⟨member, mem, within⟩
    · exact .self
    · exact .factor mem within

end Within

end TypeExpr

end OpenApiTypes
