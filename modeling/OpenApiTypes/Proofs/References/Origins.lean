/-
Where the names in a lowered type come from. Lowering makes a name in two
places only: a reference gives the one that its pointer means, and a file or
a binary string gives `Blob`. Everything else it does with types, joining
them, adding null, setting them into arrays and objects, brings in no name
of its own.

`Traced` says more than that every name has some origin. It follows a type
and its schema down together, a property to the schema under its name, a
member of a join to the part at its place, so that each name is set beside
the one schema that it was lowered from, and so is the comment of each
property.
-/
import OpenApiTypes.Proofs.Lowering.Reading

namespace OpenApiTypes

/-- The type names that a schema gives by the keyword `type`. -/
def Keywords.typeNames (own : Keywords) : List String :=
  match own.types with
  | none => []
  | some (.one name) => [name]
  | some (.several names) => names

namespace Schema

/-- Whether a file is among the types of a schema, as such or as a binary
string. -/
def HoldsFile (schema : Schema) : Prop :=
  "file" ∈ schema.own.typeNames
    ∨ ("string" ∈ schema.own.typeNames ∧ schema.own.format = some "binary")

/-- The names that a schema itself gives to its type: the one that its
reference means, and that of files. -/
inductive Gives (schema : Schema) : String → Prop where
  | reference {pointer : String} (given : schema.own.reference = some pointer) :
      schema.Gives (Identifier.referenceName pointer)
  | file (holds : schema.HoldsFile) : schema.Gives "Blob"

end Schema

namespace Lowering

open TypeExpr

/-- A part and a member stand at the same place of their lists. -/
def Beside (parts : List Schema) (members : List TypeExpr) (part : Schema) (member : TypeExpr) :
    Prop :=
  ∃ place : Nat, parts[place]? = some part ∧ members[place]? = some member

/-- A type follows a schema, place by place, and every name in it stands
where a schema stands to which it belongs. -/
inductive Traced (belongs : Schema → String → Prop) : Schema → TypeExpr → Prop where
  | primitive {schema : Schema} {type : Primitive} : Traced belongs schema (.primitive type)
  | literal {schema : Schema} {value : Literal} : Traced belongs schema (.literal value)
  | name {schema : Schema} {name : String} (given : belongs schema name) :
      Traced belongs schema (.ref name)
  | anyItem {schema : Schema} {type : Primitive} (given : schema.items = none) :
      Traced belongs schema (.array (.primitive type))
  | array {schema items : Schema} {item : TypeExpr} (given : schema.items = some items)
      (traced : Traced belongs items item) : Traced belongs schema (.array item)
  | object {schema : Schema} {shape : ObjectType}
      (child : ∀ property ∈ shape.properties, Schema) (rest : Schema)
      (declared : ∀ property (mem : property ∈ shape.properties),
        (property.name, child property mem) ∈ schema.properties.getD [])
      (documented : ∀ property (mem : property ∈ shape.properties),
        property.doc = DocBlock.ofSchema (child property mem).own none)
      (others : ∀ type, shape.index = some type →
        (∃ given, type = .primitive given) ∨ schema.additional = some (.each rest))
      (traced : ∀ property (mem : property ∈ shape.properties),
        Traced belongs (child property mem) property.type)
      (tracedOthers : ∀ type, shape.index = some type → Traced belongs rest type) :
      Traced belongs schema (.object shape)
  | alternatives {schema : Schema} {parts : List Schema} {members : List TypeExpr}
      (given : schema.anyOf = some parts ∨ schema.oneOf = some parts)
      (same : parts.length = members.length)
      (traced : ∀ part member, Beside parts members part member → Traced belongs part member) :
      Traced belongs schema (.union members)
  | factors {schema : Schema} {parts : List Schema} {members : List TypeExpr}
      (given : schema.allOf = some parts) (same : parts.length = members.length)
      (traced : ∀ part member, Beside parts members part member → Traced belongs part member) :
      Traced belongs schema (.intersection members)
  | only {schema part : Schema} {type : TypeExpr}
      (given : schema.anyOf = some [part] ∨ schema.oneOf = some [part] ∨ schema.allOf = some [part])
      (traced : Traced belongs part type) : Traced belongs schema type
  | several {schema : Schema} {members : List TypeExpr}
      (traced : ∀ member ∈ members, Traced belongs schema member) :
      Traced belongs schema (.union members)

variable {options : Options} {depth : Nat} {belongs : Schema → String → Prop} {schema : Schema}

theorem Beside.mem {parts : List Schema} {members : List TypeExpr} {part : Schema}
    {member : TypeExpr} (beside : Beside parts members part member) : part ∈ parts := by
  obtain ⟨place, stands, -⟩ := beside
  exact List.mem_of_getElem? stands

/-- A member of a join stands beside some part. -/
theorem exists_beside {parts : List Schema} {members : List TypeExpr}
    (same : parts.length = members.length) {member : TypeExpr} (mem : member ∈ members) :
    ∃ part, Beside parts members part member := by
  obtain ⟨place, inside, rfl⟩ := List.mem_iff_getElem.1 mem
  have inside' : place < parts.length := by omega
  exact ⟨parts[place], place, List.getElem?_eq_getElem inside', List.getElem?_eq_getElem inside⟩

/-- What stands in a traced type follows a schema within. -/
theorem Traced.of_within {type part : TypeExpr} (traced : Traced belongs schema type)
    (within : Within part type) :
    ∃ inner, Schema.Within inner schema ∧ Traced belongs inner part := by
  have lift {schema child : Schema} (mem : child ∈ schema.children)
      (found : ∃ inner, Schema.Within inner child ∧ Traced belongs inner part) :
      ∃ inner, Schema.Within inner schema ∧ Traced belongs inner part := by
    obtain ⟨inner, within, given⟩ := found
    exact ⟨inner, .child mem within, given⟩
  induction traced with
  | @primitive schema type =>
      obtain rfl := within_primitive.1 within
      exact ⟨schema, .self, .primitive⟩
  | @literal schema value =>
      obtain rfl := within_literal.1 within
      exact ⟨schema, .self, .literal⟩
  | @name schema name given =>
      obtain rfl := within_ref.1 within
      exact ⟨schema, .self, .name given⟩
  | @anyItem schema type given =>
      rcases within_array.1 within with rfl | within
      · exact ⟨schema, .self, .anyItem given⟩
      · obtain rfl := within_primitive.1 within
        exact ⟨schema, .self, .primitive⟩
  | @array schema items item given traced ih =>
      cases within with
      | self => exact ⟨schema, .self, .array given traced⟩
      | item within => exact lift (Schema.mem_children_of_items given) (ih within)
  | @object schema shape child rest declared documented others traced tracedOthers ih ihOthers =>
      cases within with
      | self =>
          exact ⟨schema, .self,
            .object child rest declared documented others traced tracedOthers⟩
      | property mem within =>
          exact lift (Schema.mem_children_of_property (declared _ mem)) (ih _ mem within)
      | index given within =>
          rcases others _ given with ⟨primitive, rfl⟩ | additional
          · obtain rfl := within_primitive.1 within
            exact ⟨schema, .self, .primitive⟩
          · exact lift (Schema.mem_children_of_additional additional) (ihOthers _ given within)
  | @alternatives schema parts members given same traced ih =>
      cases within with
      | self => exact ⟨schema, .self, .alternatives given same traced⟩
      | alternative mem within =>
          obtain ⟨part, beside⟩ := exists_beside same mem
          have inside := Schema.mem_children_of_alternatives given beside.mem
          exact lift inside (ih part _ beside within)
  | @factors schema parts members given same traced ih =>
      cases within with
      | self => exact ⟨schema, .self, .factors given same traced⟩
      | factor mem within =>
          obtain ⟨part, beside⟩ := exists_beside same mem
          exact lift (Schema.mem_children_of_allOf given beside.mem) (ih part _ beside within)
  | only given traced ih => exact lift (Schema.mem_children_of_only given) (ih within)
  | @several schema members traced ih =>
      cases within with
      | self => exact ⟨schema, .self, .several traced⟩
      | alternative mem within => exact ih _ mem within

/-- A type that is only a name is so by a schema to which the name belongs,
maybe through parts that stand alone. -/
theorem Traced.of_ref {name : String} (traced : Traced belongs schema (.ref name)) :
    ∃ inner, Schema.Within inner schema ∧ belongs inner name := by
  generalize same : TypeExpr.ref name = type at traced
  induction traced with
  | @name schema _ given =>
      obtain rfl := TypeExpr.ref.inj same
      exact ⟨schema, .self, given⟩
  | only given traced ih =>
      obtain ⟨inner, within, belongs⟩ := ih same
      exact ⟨inner, .child (Schema.mem_children_of_only given) within, belongs⟩
  | primitive | literal | anyItem | array | object | alternatives | factors | several => cases same

/-- A name in a traced type belongs to a schema within. -/
theorem Traced.exists_belongs {type : TypeExpr} (traced : Traced belongs schema type)
    {name : String} (within : Within (.ref name) type) :
    ∃ inner, Schema.Within inner schema ∧ belongs inner name := by
  obtain ⟨inner, outside, traced⟩ := traced.of_within within
  obtain ⟨giver, inside, given⟩ := traced.of_ref
  exact ⟨giver, inside.trans outside, given⟩

/-- The properties of a traced object type are documented by their
schemas. -/
theorem Traced.of_object {shape : ObjectType} (traced : Traced belongs schema (.object shape))
    {property : Property TypeExpr} (mem : property ∈ shape.properties) :
    ∃ own, property.doc = DocBlock.ofSchema own none := by
  generalize same : TypeExpr.object shape = type at traced
  induction traced with
  | object child rest declared documented others traced tracedOthers =>
      obtain rfl := TypeExpr.object.inj same
      exact ⟨_, documented property mem⟩
  | only given traced ih => exact ih same
  | primitive | literal | name | anyItem | array | alternatives | factors | several => cases same

/-- What the names of the schemas within belong to may be put in other
words. -/
theorem Traced.imp {belongs' : Schema → String → Prop} {type : TypeExpr}
    (traced : Traced belongs schema type)
    (imp : ∀ inner name, Schema.Within inner schema → belongs inner name → belongs' inner name) :
    Traced belongs' schema type := by
  induction traced with
  | primitive => exact .primitive
  | literal => exact .literal
  | name given => exact .name (imp _ _ .self given)
  | anyItem given => exact .anyItem given
  | array given traced ih =>
      have child := Schema.mem_children_of_items given
      exact .array given (ih fun inner name within => imp inner name (.child child within))
  | object child rest declared documented others traced tracedOthers ih ihOthers =>
      refine .object child rest declared documented others (fun property mem => ?_)
        fun type given => ?_
      · have inside := Schema.mem_children_of_property (declared property mem)
        exact ih property mem fun inner name within => imp inner name (.child inside within)
      · rcases others type given with ⟨primitive, rfl⟩ | additional
        · exact .primitive
        · have inside := Schema.mem_children_of_additional additional
          exact ihOthers type given fun inner name within => imp inner name (.child inside within)
  | alternatives given same traced ih =>
      refine .alternatives given same fun part member beside => ?_
      have inside := Schema.mem_children_of_alternatives given beside.mem
      exact ih part member beside fun inner name within => imp inner name (.child inside within)
  | factors given same traced ih =>
      refine .factors given same fun part member beside => ?_
      have inside := Schema.mem_children_of_allOf given beside.mem
      exact ih part member beside fun inner name within => imp inner name (.child inside within)
  | only given traced ih =>
      have inside := Schema.mem_children_of_only given
      exact .only given (ih fun inner name within => imp inner name (.child inside within))
  | several traced ih => exact .several fun member mem => ih member mem imp

-- ============================================= types without parts

theorem exists_unknownType (options : Options) :
    ∃ type, unknownType options = .primitive type := by
  unfold unknownType UnknownType.type
  cases options.unknownType with
  | any => exact ⟨.any, rfl⟩
  | unknown => exact ⟨.unknown, rfl⟩

theorem traced_unknownType : Traced belongs schema (unknownType options) := by
  obtain ⟨type, given⟩ := exists_unknownType options
  rw [given]
  exact .primitive

theorem traced_constantType {value : Json} :
    Traced belongs schema (constantType options value) := by
  unfold constantType
  split
  · exact .literal
  · exact traced_unknownType

theorem traced_enumUnion {given : List Literal} :
    Traced belongs schema (enumUnion (given.map .literal)) := by
  have each : ∀ type ∈ given.map TypeExpr.literal, Traced belongs schema type := by
    intro type mem
    obtain ⟨literal, -, rfl⟩ := List.mem_map.1 mem
    exact .literal
  unfold enumUnion
  split
  · next type only => exact each type (by simp [only])
  · exact .several each

/-- Adding null brings in no name. -/
theorem Traced.withNull {type : TypeExpr} (traced : Traced belongs schema type) :
    Traced belongs schema (withNull schema type) := by
  unfold Lowering.withNull orNull
  split
  · split
    · exact traced
    · refine .several fun member mem => ?_
      rcases List.mem_pair.1 mem with rfl | rfl
      · exact traced
      · exact .primitive
  · exact traced

-- ========================================================= schemas

/-- Parts and their types stand beside one another. -/
theorem typeAt_of_beside {parts : List Schema} {types : List TypeExpr}
    (read : List.Forall₂ (fun part type => typeAt options depth part = .ok type) parts types)
    {part : Schema} {type : TypeExpr} (beside : Beside parts types part type) :
    typeAt options depth part = .ok type := by
  obtain ⟨place, stands, stands'⟩ := beside
  induction read generalizing place with
  | nil => simp at stands
  | cons lowered others ih =>
      cases place with
      | zero =>
          simp only [List.getElem?_cons_zero, Option.some.injEq] at stands stands'
          rw [← stands, ← stands']
          exact lowered
      | succ place =>
          rw [List.getElem?_cons_succ] at stands stands'
          exact ih place stands stands'

/-- Lowering a schema at any depth gives a type that follows it, in which
every name is given by the schema where it stands. -/
def Traces (options : Options) (schema : Schema) : Prop :=
  ∀ depth type, typeAt options depth schema = .ok type → Traced Schema.Gives schema type

section Step

variable (ih : ∀ child ∈ schema.children, Traces options child)

include ih

theorem traced_arrayAt {type : TypeExpr}
    (read : arrayAt options depth schema.items = .ok type) : Traced Schema.Gives schema type := by
  rcases arrayAt_eq_ok.1 read with ⟨noItems, rfl⟩ | ⟨items, item, given, -, lowered, rfl⟩
  · obtain ⟨type, unknown⟩ := exists_unknownType options
    rw [unknown]
    exact .anyItem noItems
  · exact .array given (ih items (Schema.mem_children_of_items given) _ _ lowered)

theorem traced_objectAt {shape : ObjectType} (read : objectAt options depth schema = .ok shape) :
    Traced Schema.Gives schema (.object shape) := by
  obtain ⟨-, properties, index⟩ := objectAt_eq_ok.1 read
  have each (property : Property TypeExpr) (mem : property ∈ shape.properties) :
      ∃ child, (property.name, child) ∈ schema.properties.getD []
        ∧ property.doc = DocBlock.ofSchema child.own none
        ∧ Traced Schema.Gives child property.type := by
    obtain ⟨⟨key, child⟩, sorted, type, lowered, rfl⟩ := exists_of_mem_right properties mem
    have stands := mem_sortEntries.1 sorted
    exact ⟨child, stands, rfl, ih child (Schema.mem_children_of_property stands) _ _ lowered⟩
  have others : ∃ rest, ∀ type, shape.index = some type →
      ((∃ given, type = .primitive given) ∨ schema.additional = some (.each rest))
        ∧ Traced Schema.Gives rest type := by
    cases given : shape.index with
    | none => exact ⟨schema, fun type none => by cases none⟩
    | some type =>
        rw [given] at index
        rcases index_cases index with rfl | ⟨rest, additional, lowered⟩
        · refine ⟨schema, fun type same => ?_⟩
          obtain rfl := Option.some.inj same
          exact ⟨.inl (exists_unknownType options), traced_unknownType⟩
        · refine ⟨rest, fun type same => ?_⟩
          obtain rfl := Option.some.inj same
          have inside := Schema.mem_children_of_additional additional
          exact ⟨.inr additional, ih rest inside _ _ lowered⟩
  obtain ⟨rest, others⟩ := others
  exact .object (fun property mem => (each property mem).choose) rest
    (fun property mem => (each property mem).choose_spec.1)
    (fun property mem => (each property mem).choose_spec.2.1)
    (fun type given => (others type given).1)
    (fun property mem => (each property mem).choose_spec.2.2)
    fun type given => (others type given).2

theorem traced_named {given : String} {type : TypeExpr}
    (listed : given ∈ schema.own.typeNames) (named : Named options depth schema given type) :
    Traced Schema.Gives schema type := by
  cases named with
  | binary format => exact .name (.file (.inr ⟨listed, format⟩))
  | file => exact .name (.file (.inl listed))
  | array read => exact traced_arrayAt ih read
  | object read => exact traced_objectAt ih read
  | text | number | integer | boolean | null => exact .primitive
  | unknown unheard => exact traced_unknownType

theorem traced_typed {type : TypeExpr} (typed : Typed options depth schema type) :
    Traced Schema.Gives schema type := by
  cases typed with
  | one given named => exact traced_named ih (by simp [Keywords.typeNames, given]) named
  | @several names types given named =>
      have each : ∀ type ∈ types, Traced Schema.Gives schema type := by
        intro type mem
        obtain ⟨listed, inner, named⟩ := exists_of_mem_right named mem
        exact traced_named ih (by simpa [Keywords.typeNames, given] using inner) named
      unfold join
      split
      · exact traced_unknownType
      · exact each _ List.mem_cons_self
      · exact .several each
  | objectLike untyped like read => exact traced_objectAt ih read
  | arrayLike untyped unlike like read => exact traced_arrayAt ih read
  | neither untyped unlike => exact traced_unknownType

/-- Members that the types of parts are follow the parts. -/
theorem traced_of_beside {parts : List Schema} {types : List TypeExpr}
    (children : ∀ part ∈ parts, part ∈ schema.children)
    (read : List.Forall₂ (fun part type => typeAt options depth part = .ok type) parts types)
    (part : Schema) (type : TypeExpr) (beside : Beside parts types part type) :
    Traced Schema.Gives part type :=
  ih part (children part beside.mem) _ _ (typeAt_of_beside read beside)

theorem traced_alternatives {parts : List Schema} {types : List TypeExpr}
    (given : schema.anyOf = some parts ∨ schema.oneOf = some parts)
    (read : List.Forall₂ (fun part type => typeAt options depth part = .ok type) parts types) :
    Traced Schema.Gives schema (join options .union types) := by
  have each := traced_of_beside ih (fun _ => Schema.mem_children_of_alternatives given) read
  have same := read.length_eq
  unfold join
  split
  · exact traced_unknownType
  · obtain ⟨part, rfl⟩ := List.length_eq_one_iff.1 same
    have traced := each part _ ⟨0, rfl, rfl⟩
    rcases given with given | given
    · exact .only (.inl given) traced
    · exact .only (.inr (.inl given)) traced
  · exact .alternatives given same each

theorem traced_factors {parts : List Schema} {types : List TypeExpr}
    (given : schema.allOf = some parts)
    (read : List.Forall₂ (fun part type => typeAt options depth part = .ok type) parts types) :
    Traced Schema.Gives schema (join options .intersection types) := by
  have each := traced_of_beside ih (fun _ => Schema.mem_children_of_allOf given) read
  have same := read.length_eq
  unfold join
  split
  · exact traced_unknownType
  · obtain ⟨part, rfl⟩ := List.length_eq_one_iff.1 same
    exact .only (.inr (.inr given)) (each part _ ⟨0, rfl, rfl⟩)
  · exact .factors given same each

theorem traced_reads {type : TypeExpr} (reads : Reads options depth schema type) :
    Traced Schema.Gives schema type := by
  cases reads with
  | reference given => exact .name (.reference given)
  | constant noReference given => exact traced_constantType
  | allOf noReference noConstant given read => exact traced_factors ih given read.2
  | anyOf noReference noConstant noAllOf given read =>
      exact traced_alternatives ih (.inl given) read.2
  | oneOf noReference noConstant noAllOf noAnyOf given read =>
      exact traced_alternatives ih (.inr given) read.2
  | values noReference noConstant noAllOf noAnyOf noOneOf noObject literals =>
      exact traced_enumUnion
  | typed noReference noConstant noAllOf noAnyOf noOneOf noValues typed =>
      exact traced_typed ih typed

end Step

/-- The type of a schema follows it, and its names are given where they
stand. -/
theorem traces (options : Options) (schema : Schema) : Traces options schema := by
  induction schema using Schema.induction with
  | step schema ih =>
      intro depth type lowered
      obtain ⟨decided, reads, rfl⟩ := typeAt_eq_ok.1 lowered
      exact (traced_reads ih reads).withNull

end Lowering

end OpenApiTypes
