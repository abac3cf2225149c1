/-
Types without a blank in them, but for one. Where lowering joins types, none
stand for the unknown type and one stands for itself, so a union or an
intersection that it makes has at least two members, and the text of every
part of a type has something in it. The one exception is an `enum` that lists
no values, inside another schema: its union has no members and its text is
blank. `joined_or_blank` says that there is no other, and that this one shows
wherever such an `enum` is come to.

The induction is over what lowering comes to. One step of it is `Covers`: a
type, cut off at the types of the schemas that lowering goes on to, has full
joins only, and each of those types stands in it.
-/
import OpenApiTypes.Proofs.Emission.Characters
import OpenApiTypes.Proofs.Lowering.Decision
import OpenApiTypes.Proofs.References.Origins

namespace OpenApiTypes

namespace TypeExpr

/-- The type joins two types at least, if it joins any. -/
def Full : TypeExpr → Prop
  | union members => 2 ≤ members.length
  | intersection members => 2 ≤ members.length
  | primitive _ | array _ | object _ | literal _ | ref _ => True

instance (type : TypeExpr) : Decidable type.Full :=
  match type with
  | union members => inferInstanceAs (Decidable (2 ≤ members.length))
  | intersection members => inferInstanceAs (Decidable (2 ≤ members.length))
  | primitive _ | array _ | object _ | literal _ | ref _ => inferInstanceAs (Decidable True)

/-- The two ways of joining members. -/
def IsJoin (many : List TypeExpr → TypeExpr) : Prop := many = .union ∨ many = .intersection

variable {many : List TypeExpr → TypeExpr} {members : List TypeExpr} {part : TypeExpr}

theorem within_join (join : IsJoin many) :
    Within part (many members) ↔ part = many members ∨ ∃ member ∈ members, Within part member := by
  rcases join with rfl | rfl
  · exact within_union
  · exact within_intersection

theorem full_join (join : IsJoin many) : (many members).Full ↔ 2 ≤ members.length := by
  rcases join with rfl | rfl
  · rfl
  · rfl

-- =========================================================== text

/-- Two texts with a sign between them are not blank. -/
theorem intercalate_ne_empty {sign : String} (visible : sign ≠ "") {texts : List String}
    (full : 2 ≤ texts.length) : sign.intercalate texts ≠ "" := by
  match texts with
  | first :: second :: rest =>
      rw [String.intercalate_cons_cons]
      simp [visible]

theorem literal_text_ne_empty (value : Literal) : value.text ≠ "" := by
  cases value with
  | string value => simp [Literal.text, Text.quote]
  | number value =>
      intro blank
      exact Number.isNumeral_ne_nil value.isNumeral_text (String.toList_eq_nil_iff.2 blank)
  | bool value => cases value <;> decide
  | null => decide

/-- A type is written with some text if it joins two types at least, where
it joins any, and is no blank name. -/
theorem text_ne_empty {type : TypeExpr} (full : type.Full)
    (named : ∀ name, type = .ref name → name ≠ "") : type.text ≠ "" := by
  cases type with
  | primitive type => cases type <;> decide
  | array item => simp [text]
  | union members =>
      have several : 2 ≤ (members.map text).length := by rw [List.length_map]; exact full
      rw [text, texts_eq_map]
      exact intercalate_ne_empty (by decide) several
  | intersection members =>
      rw [text, factorTexts_eq_map]
      refine intercalate_ne_empty (by decide) ?_
      rw [List.length_map]
      exact full
  | object shape =>
      rw [text_object]
      unfold inlineObject
      split
      · decide
      · simp
  | literal value => exact literal_text_ne_empty value
  | ref name => exact named name rfl

end TypeExpr

namespace Lowering

open TypeExpr

-- ======================================================= one step

/-- A type is made over the types of some schemas: what stands in it stands
in one of those, or is no join of fewer than two, where a union of none is
let through if `hollow` holds; and each of those types stands in it. -/
structure Covers (options : Options) (hollow : Prop) (parts : List Schema) (type : TypeExpr) :
    Prop where
  inside : ∀ part, Within part type →
    part.Full ∨ (part = .union [] ∧ hollow)
      ∨ ∃ child ∈ parts, ∃ depth inner, typeAt options depth child = .ok inner ∧ Within part inner
  outside : ∀ child ∈ parts,
    ∃ depth inner, typeAt options depth child = .ok inner ∧ Within inner type

variable {options : Options} {depth : Nat} {hollow : Prop} {schema : Schema}

theorem covers_of_full {type : TypeExpr} (full : ∀ part, Within part type → part.Full) :
    Covers options hollow [] type where
  inside part within := .inl (full part within)
  outside child mem := by cases mem

/-- A type in which nothing else stands is made over no schemas. -/
theorem covers_of_alone {type : TypeExpr} (alone : ∀ part, Within part type → part = type)
    (full : type.Full) : Covers options hollow [] type :=
  covers_of_full fun part within => by
    rw [alone part within]
    exact full

theorem covers_primitive (type : Primitive) : Covers options hollow [] (.primitive type) :=
  covers_of_alone (fun _ => within_primitive.1) trivial

theorem covers_literal (value : Literal) : Covers options hollow [] (.literal value) :=
  covers_of_alone (fun _ => within_literal.1) trivial

theorem covers_ref (name : String) : Covers options hollow [] (.ref name) :=
  covers_of_alone (fun _ => within_ref.1) trivial

theorem covers_hollow (empty : hollow) : Covers options hollow [] (.union []) where
  inside part within := by
    rcases within_union.1 within with rfl | ⟨member, mem, -⟩
    · exact .inr (.inl ⟨rfl, empty⟩)
    · cases mem
  outside child mem := by cases mem

theorem full_of_within_unknownType {part : TypeExpr} (within : Within part (unknownType options)) :
    part.Full := by
  obtain ⟨type, given⟩ := exists_unknownType options
  rw [given] at within
  obtain rfl := within_primitive.1 within
  trivial

theorem covers_unknownType : Covers options hollow [] (unknownType options) :=
  covers_of_full fun _ => full_of_within_unknownType

/-- The type of a schema is made over it. -/
theorem covers_typeAt {child : Schema} {type : TypeExpr}
    (lowered : typeAt options depth child = .ok type) : Covers options hollow [child] type where
  inside part within :=
    .inr (.inr ⟨child, List.mem_singleton_self _, depth, type, lowered, within⟩)
  outside other mem := by
    obtain rfl := List.mem_singleton.1 mem
    exact ⟨depth, type, lowered, .self⟩

namespace Covers

variable {parts : List Schema} {type : TypeExpr}

theorem array (covers : Covers options hollow parts type) :
    Covers options hollow parts (.array type) where
  inside part within := by
    rcases within_array.1 within with rfl | within
    · exact .inl trivial
    · exact covers.inside part within
  outside child mem := by
    obtain ⟨depth, inner, lowered, within⟩ := covers.outside child mem
    exact ⟨depth, inner, lowered, .item within⟩

/-- Types that are made over parts make one over all of them as members of a
union or an intersection. -/
theorem members {σ : Type} {under : σ → List Schema} {items : List σ} {types : List TypeExpr}
    {many : List TypeExpr → TypeExpr} (isJoin : IsJoin many)
    (each : List.Forall₂ (fun item type => Covers options hollow (under item) type) items types)
    (full : 2 ≤ types.length) :
    Covers options hollow (items.flatMap under) (many types) where
  inside part within := by
    rcases (within_join isJoin).1 within with rfl | ⟨member, mem, within⟩
    · exact .inl ((full_join isJoin).2 full)
    · obtain ⟨item, inner, covers⟩ := exists_of_mem_right each mem
      rcases covers.inside part within with full | empty | ⟨child, under, found⟩
      · exact .inl full
      · exact .inr (.inl empty)
      · exact .inr (.inr ⟨child, List.mem_flatMap.2 ⟨item, inner, under⟩, found⟩)
  outside child mem := by
    obtain ⟨item, inner, mem⟩ := List.mem_flatMap.1 mem
    obtain ⟨member, listed, covers⟩ := exists_of_mem_left each inner
    obtain ⟨depth, type, lowered, within⟩ := covers.outside child mem
    exact ⟨depth, type, lowered, (within_join isJoin).2 (.inr ⟨member, listed, within⟩)⟩

/-- Types that are made over parts are joined to one over all of them. -/
theorem join {σ : Type} {under : σ → List Schema} {items : List σ} {types : List TypeExpr}
    {many : List TypeExpr → TypeExpr} (isJoin : IsJoin many)
    (each : List.Forall₂ (fun item type => Covers options hollow (under item) type) items types) :
    Covers options hollow (items.flatMap under) (join options many types) := by
  unfold Lowering.join
  split
  · obtain rfl := List.forall₂_nil_right_iff.1 each
    exact covers_unknownType
  · cases each with
    | cons first others =>
        cases others
        simpa using first
  · next none one =>
    refine members isJoin each ?_
    match types with
    | [] => exact absurd rfl none
    | [type] => exact absurd rfl (one type)
    | _ :: _ :: _ => simp

/-- Adding null makes a union of two. -/
theorem withNull (covers : Covers options hollow parts type) :
    Covers options hollow parts (withNull schema type) := by
  unfold Lowering.withNull orNull
  split
  · split
    · exact covers
    · have pair : List.Forall₂ (fun parts type => Covers options hollow (id parts) type)
          [parts, []] [type, .primitive .null] :=
        .cons covers (.cons (covers_primitive .null) .nil)
      simpa using members (.inl rfl) pair (Nat.le_refl 2)
  · exact covers

end Covers

-- ================================================= lowering functions

theorem covers_arrayAt {type : TypeExpr}
    (read : arrayAt options depth schema.items = .ok type) :
    Covers options hollow (schema.under "array") type := by
  rcases arrayAt_eq_ok.1 read with ⟨none, rfl⟩ | ⟨items, item, given, -, lowered, rfl⟩
  · have nothing : schema.under "array" = [] := by simp [Schema.under, none]
    rw [nothing]
    exact covers_unknownType.array
  · have only : schema.under "array" = [items] := by simp [Schema.under, given]
    rw [only]
    exact (covers_typeAt lowered).array

theorem covers_objectAt {shape : ObjectType} (read : objectAt options depth schema = .ok shape) :
    Covers options hollow (schema.under "object") (.object shape) := by
  obtain ⟨-, properties, index⟩ := objectAt_eq_ok.1 read
  have declared {entry : String × Schema} (mem : entry ∈ schema.properties.getD []) :
      entry.2 ∈ schema.under "object" := by
    simp only [Schema.under, List.mem_append]
    exact .inl (List.mem_map_of_mem mem)
  have others {rest : Schema} (given : schema.additional = some (.each rest)) :
      rest ∈ schema.under "object" := by
    simp only [Schema.under, List.mem_append]
    exact .inr (Additional.mem_schema_iff.2 given)
  constructor
  · intro part within
    cases within with
    | self => exact .inl trivial
    | property mem within =>
        obtain ⟨entry, sorted, type, lowered, rfl⟩ := exists_of_mem_right properties mem
        exact .inr (.inr ⟨entry.2, declared (mem_sortEntries.1 sorted), _, type, lowered, within⟩)
    | index given within =>
        rw [given] at index
        rcases index_cases index with rfl | ⟨rest, additional, lowered⟩
        · exact .inl (full_of_within_unknownType within)
        · exact .inr (.inr ⟨rest, others additional, _, _, lowered, within⟩)
  · intro child mem
    rcases List.mem_append.1 mem with mem | mem
    · obtain ⟨entry, inner, rfl⟩ := List.mem_map.1 mem
      obtain ⟨property, listed, type, lowered, rfl⟩ :=
        exists_of_mem_left properties (mem_sortEntries.2 inner)
      exact ⟨_, type, lowered, .property listed .self⟩
    · have additional := Additional.mem_schema_iff.1 mem
      rw [additional, indexAt_eq_ok] at index
      obtain ⟨type, lowered, given⟩ := index
      exact ⟨_, type, lowered, .index given.symm .self⟩

theorem covers_nameAt {name : String} {type : TypeExpr}
    (made : nameAt options depth schema name = .ok type) :
    Covers options hollow (schema.under name) type := by
  cases nameAt_eq_ok.1 made with
  | text | number | integer | boolean | null => exact covers_primitive _
  | binary | file => exact covers_ref _
  | array read => exact covers_arrayAt read
  | object read => exact covers_objectAt read
  | unknown unheard =>
      have noArray : name ≠ "array" := by
        rintro rfl
        exact unheard (by decide)
      have noObject : name ≠ "object" := by
        rintro rfl
        exact unheard (by decide)
      rw [Schema.under_of_ne noArray noObject]
      exact covers_unknownType

/-- The types of parts are made over the parts. -/
theorem covers_joinedAt {parts : List Schema} {type : TypeExpr}
    {many : List TypeExpr → TypeExpr} (isJoin : IsJoin many)
    (read : (do let depth ← enter options depth
                .ok (join options many (← typesAt options depth parts))) = .ok type) :
    Covers options hollow parts type := by
  obtain ⟨types, ⟨-, lowered⟩, rfl⟩ := joinedAt_eq_ok.1 read
  have each : List.Forall₂ (fun part type => Covers options hollow [part] type) parts types :=
    lowered.imp fun part type => covers_typeAt
  simpa using Covers.join isJoin each

theorem covers_constantType {value : Json} :
    Covers options hollow [] (constantType options value) := by
  unfold constantType
  split
  · exact covers_literal _
  · exact covers_unknownType

/-- The type of an `enum` is hollow only if it lists no values. -/
theorem covers_enumType {values : List Json} {type : TypeExpr}
    (made : enumType values = .ok type) : Covers options (values = []) [] type := by
  obtain ⟨given, rfl, rfl⟩ := enumType_eq_ok.1 made
  match given with
  | [] => exact covers_hollow rfl
  | [value] => exact covers_literal value
  | first :: second :: rest =>
      refine covers_of_full fun part within => ?_
      rcases within_union.1 within with rfl | ⟨member, mem, within⟩
      · simp [Full]
      · have mem : member ∈ (first :: second :: rest).map TypeExpr.literal := mem
        obtain ⟨value, -, rfl⟩ := List.mem_map.1 mem
        obtain rfl := within_literal.1 within
        trivial

/-- The type of a schema is made over what lowering goes on to, and is
hollow only if its `enum` decides and lists no values. -/
theorem covers_lowered {type : TypeExpr} (lowered : typeAt options depth schema = .ok type) :
    Covers options (schema.enumerated = some []) schema.lowered type := by
  rw [typeAt_eq_map] at lowered
  obtain ⟨decided, made, rfl⟩ := map_eq_ok.1 lowered
  refine Covers.withNull ?_
  rw [decidedAt_eq_match] at made
  unfold Schema.lowered Schema.enumerated
  cases decides : schema.decision with
  | reference pointer =>
      rw [decides] at made
      cases made
      exact covers_ref _
  | constant value =>
      rw [decides] at made
      cases made
      exact covers_constantType
  | factors parts =>
      rw [decides] at made
      exact covers_joinedAt (.inr rfl) made
  | alternatives parts =>
      rw [decides] at made
      exact covers_joinedAt (.inl rfl) made
  | values values =>
      rw [decides] at made
      simpa using covers_enumType made
  | types =>
      rw [decides] at made
      obtain ⟨types, named, rfl⟩ := map_eq_ok.1 made
      exact Covers.join (.inl rfl) ((mapM_eq_ok.1 named).imp fun name type => covers_nameAt)

-- ===================================================== every step

/-- What stands in the type of a schema is full, or is the union of an `enum`
without values that lowering comes to. -/
theorem full_or_hollow (schema : Schema) :
    ∀ depth type, typeAt options depth schema = .ok type → ∀ part, Within part type →
      part.Full ∨ (part = .union []
        ∧ ∃ inner, Schema.Reached inner schema ∧ inner.enumerated = some []) := by
  induction schema using Schema.induction with
  | step schema ih =>
      intro depth type lowered part within
      rcases (covers_lowered lowered).inside part within with
        full | ⟨hollow, empty⟩ | ⟨child, mem, below, inner, lowered, within⟩
      · exact .inl full
      · exact .inr ⟨hollow, schema, .self, empty⟩
      · have mem' := Schema.mem_children_of_lowered mem
        rcases ih child mem' below inner lowered part within with full | ⟨hollow, found⟩
        · exact .inl full
        · obtain ⟨enum, reached, empty⟩ := found
          exact .inr ⟨hollow, enum, .child mem reached, empty⟩

/-- The type of each schema that lowering comes to stands in the type. -/
theorem within_of_reached {inner : Schema} (reached : Schema.Reached inner schema) :
    ∀ depth type, typeAt options depth schema = .ok type →
      ∃ below part, typeAt options below inner = .ok part ∧ Within part type := by
  induction reached with
  | self =>
      intro depth type lowered
      exact ⟨depth, type, lowered, .self⟩
  | child mem _ ih =>
      intro depth type lowered
      obtain ⟨below, next, lowered', within⟩ := (covers_lowered lowered).outside _ mem
      obtain ⟨below, part, lowered', within'⟩ := ih below next lowered'
      exact ⟨below, part, lowered', within'.trans within⟩

/-- Null is added beside a type, which still stands there. -/
theorem within_withNull (schema : Schema) (type : TypeExpr) :
    Within type (withNull schema type) := by
  unfold withNull orNull
  split
  · split
    · exact .self
    · exact .alternative List.mem_cons_self .self
  · exact .self

/-- An `enum` without values is lowered to a union without members. -/
theorem hollow_of_enumerated {type : TypeExpr} (lowered : typeAt options depth schema = .ok type)
    (empty : schema.enumerated = some []) : Within (.union []) type := by
  rw [typeAt_eq_map, decidedAt_eq_match, Schema.decision_of_enumerated empty] at lowered
  cases lowered
  exact within_withNull schema (.union [])

-- ============================================= blanks in types

/-- The names in the type of a schema are not blank. -/
theorem name_ne_empty {type : TypeExpr} (lowered : typeAt options depth schema = .ok type)
    {name : String} (within : Within (.ref name) type) : name ≠ "" := by
  obtain ⟨inner, -, given⟩ := (traces options schema depth type lowered).exists_belongs within
  cases given with
  | reference given => exact Identifier.typeName_ne_empty _
  | file holds => decide

/-- What stands in the type of a schema joins two types or more, where it
joins any, and is written with some text. The one exception is the union of
an `enum` without values, which stands in the type wherever lowering comes to
such an `enum`. -/
theorem joined_or_blank {type : TypeExpr} (lowered : typeAt options depth schema = .ok type) :
    (∀ part, Within part type →
      (part.Full ∧ part.text ≠ "") ∨ (part = .union [] ∧ part.text = ""))
    ∧ (Within (.union []) type
        ↔ ∃ inner, Schema.Reached inner schema ∧ inner.enumerated = some []) := by
  constructor
  · intro part within
    rcases full_or_hollow schema depth type lowered part within with full | ⟨rfl, -⟩
    · have named (name : String) (same : part = .ref name) : name ≠ "" := by
        subst same
        exact name_ne_empty lowered within
      exact .inl ⟨full, text_ne_empty full named⟩
    · exact .inr ⟨rfl, rfl⟩
  · constructor
    · intro within
      rcases full_or_hollow schema depth type lowered _ within with full | ⟨-, found⟩
      · exact absurd full (by decide)
      · exact found
    · intro found
      obtain ⟨inner, reached, empty⟩ := found
      obtain ⟨below, part, lowered', within⟩ := within_of_reached reached depth type lowered
      exact (hollow_of_enumerated lowered' empty).trans within

/-- A nullable choice between a text and one of no values. -/
def choice : Schema where
  own := { nullable := some true }
  anyOf := some [{ own := { types := some (.one "string") } }, { own := { values := some [] } }]

/-- The type of the choice is written with a blank after the first bar. -/
theorem choice_blank :
    typeAt {} 0 choice
        = .ok (.union [.union [.primitive .string, .union []], .primitive .null])
      ∧ Within (.union [])
          (.union [.union [.primitive .string, .union []], .primitive .null]) := by
  have lowered : typeAt {} 0 choice
      = .ok (.union [.union [.primitive .string, .union []], .primitive .null]) := rfl
  obtain ⟨-, blank⟩ := joined_or_blank lowered
  have listed : ({ own := { values := some [] } } : Schema) ∈ choice.lowered := by
    simp [Schema.lowered, Schema.decision, choice]
  exact ⟨lowered, blank.2 ⟨_, .child listed .self, rfl⟩⟩

/-- An array of one of no values. -/
def unlisted : Schema where
  own := { types := some (.one "array") }
  items := some { own := { values := some [] } }

/-- Lowering succeeds on an `enum` without values, with a union that joins
nothing and a type that is written with nothing between its brackets. -/
theorem unlisted_blank :
    ∃ type part, typeAt {} 0 unlisted = .ok type ∧ Within part type
      ∧ ¬ part.Full ∧ part.text = "" ∧ type.text = "()[]" :=
  ⟨.array (.union []), .union [], rfl, .item .self, by decide, rfl, by decide⟩

end Lowering

end OpenApiTypes
