/-
Two runs of lowering side by side. `Schema.Alike` sets two schemas beside
each other: they say the same themselves, and a relation holds between what
stands at the same places in them, where the place of a property is its
place in the order of names. If the relation is that the children lower to
the same, at every depth and with the same error, so do the schemas
(`lowersAlike_of_alike`).

The runs may also differ in their options, as long as they choose the same
keyword for what is unknown and the same depth limit. Nothing else that can
be chosen is looked at.
-/
import OpenApiTypes.Proofs.Lowering.Reading

namespace OpenApiTypes

-- ============================================== schemas side by side

/-- Two entries of maps stand under the same key, and their values are
related. -/
inductive SameKey {α : Type} (R : α → α → Prop) : String × α → String × α → Prop where
  | intro (key : String) {value other : α} (related : R value other) :
      SameKey R (key, value) (key, other)

namespace SameKey

variable {α : Type} {R S : α → α → Prop} {entry other : String × α}

theorem key (same : SameKey R entry other) : entry.1 = other.1 := by
  cases same
  rfl

theorem value (same : SameKey R entry other) : R entry.2 other.2 := by
  cases same
  assumption

theorem imp (same : SameKey R entry other) (implies : R entry.2 other.2 → S entry.2 other.2) :
    SameKey S entry other := by
  cases same with
  | intro key related => exact .intro key (implies related)

end SameKey

/-- The same is said about other keys, with related schemas. -/
inductive Additional.Alike {σ : Type} (R : σ → σ → Prop) : Additional σ → Additional σ → Prop where
  | allowed (value : Bool) : Additional.Alike R (.allowed value) (.allowed value)
  | each {schema other : σ} (related : R schema other) :
      Additional.Alike R (.each schema) (.each other)

/-- Two schemas say the same themselves, and what stands at the same places
in them is related. -/
structure Schema.Alike (R : Schema → Schema → Prop) (schema other : Schema) : Prop where
  own : schema.own = other.own
  properties : Option.Rel
    (fun entries others =>
      List.Forall₂ (SameKey R) (Text.sortEntries entries) (Text.sortEntries others))
    schema.properties other.properties
  items : Option.Rel R schema.items other.items
  anyOf : Option.Rel (List.Forall₂ R) schema.anyOf other.anyOf
  oneOf : Option.Rel (List.Forall₂ R) schema.oneOf other.oneOf
  allOf : Option.Rel (List.Forall₂ R) schema.allOf other.allOf
  additional : Option.Rel (Additional.Alike R) schema.additional other.additional

/-- Related options are both there or both missing. -/
theorem isSome_eq_of_rel {α : Type} {R : α → α → Prop} {value other : Option α}
    (related : Option.Rel R value other) : value.isSome = other.isSome := by
  cases related with
  | some => rfl
  | none => rfl

/-- What is in related options is related in any way that follows for it. -/
theorem rel_imp_of_mem {α : Type} {R S : α → α → Prop} {value other : Option α}
    (implies : ∀ given, value = some given → ∀ beside, R given beside → S given beside)
    (related : Option.Rel R value other) : Option.Rel S value other := by
  cases related with
  | some related => exact .some (implies _ rfl _ related)
  | none => exact .none

/-- What is related one by one is related in any way that follows for the
members of the first list. -/
theorem forall₂_imp_of_mem {α : Type} {R S : α → α → Prop} {items others : List α}
    (implies : ∀ item ∈ items, ∀ other, R item other → S item other)
    (related : List.Forall₂ R items others) : List.Forall₂ S items others :=
  ((List.forall₂_and_left _ _).2 ⟨fun _ mem => mem, related⟩).imp fun item other h =>
    implies item h.1 other h.2

namespace Schema.Alike

variable {R S : Schema → Schema → Prop} {schema other : Schema}

/-- Schemas set beside each other by one relation are so by any that follows
from it for the children of the first. -/
theorem imp (implies : ∀ child ∈ schema.children, ∀ beside, R child beside → S child beside)
    (alike : schema.Alike R other) : schema.Alike S other where
  own := alike.own
  properties := by
    refine rel_imp_of_mem (fun entries given others related => ?_) alike.properties
    refine forall₂_imp_of_mem (fun entry mem beside same => ?_) related
    have inside : entry ∈ schema.properties.getD [] := by
      rw [given]
      exact Lowering.mem_sortEntries.1 mem
    exact same.imp (implies _ (mem_children_of_property inside) _)
  items := rel_imp_of_mem (fun _ given => implies _ (mem_children_of_items given)) alike.items
  anyOf := by
    refine rel_imp_of_mem (fun parts given others related => ?_) alike.anyOf
    exact forall₂_imp_of_mem (fun part mem => implies _ (mem_children_of_anyOf given mem)) related
  oneOf := by
    refine rel_imp_of_mem (fun parts given others related => ?_) alike.oneOf
    exact forall₂_imp_of_mem (fun part mem => implies _ (mem_children_of_oneOf given mem)) related
  allOf := by
    refine rel_imp_of_mem (fun parts given others related => ?_) alike.allOf
    exact forall₂_imp_of_mem (fun part mem => implies _ (mem_children_of_allOf given mem)) related
  additional := by
    refine rel_imp_of_mem (fun value given beside related => ?_) alike.additional
    cases related with
    | allowed value => exact .allowed value
    | each related => exact .each (implies _ (mem_children_of_additional given) _ related)

/-- A schema stands beside itself when its children do. -/
theorem refl (each : ∀ child, R child child) (schema : Schema) : schema.Alike R schema where
  own := rfl
  properties := by
    cases schema.properties with
    | none => exact .none
    | some entries =>
        exact .some (List.forall₂_same.2 fun entry _ => .intro entry.1 (each entry.2))
  items := by
    cases schema.items with
    | none => exact .none
    | some items => exact .some (each items)
  anyOf := by
    cases schema.anyOf with
    | none => exact .none
    | some parts => exact .some (List.forall₂_same.2 fun part _ => each part)
  oneOf := by
    cases schema.oneOf with
    | none => exact .none
    | some parts => exact .some (List.forall₂_same.2 fun part _ => each part)
  allOf := by
    cases schema.allOf with
    | none => exact .none
    | some parts => exact .some (List.forall₂_same.2 fun part _ => each part)
  additional := by
    match schema.additional with
    | none => exact .none
    | some (.allowed value) => exact .some (.allowed value)
    | some (.each inner) => exact .some (.each (each inner))

end Schema.Alike

-- ================================================= lowered side by side

/-- Two choices agree in what lowering looks at. -/
structure Options.Agree (options others : Options) : Prop where
  unknownType : options.unknownType = others.unknownType
  maxDepth : options.maxDepth = others.maxDepth

theorem Options.Agree.refl (options : Options) : options.Agree options := ⟨rfl, rfl⟩

namespace Lowering

/-- Two schemas say the same themselves and lower to the same, or fail with
the same, at every depth. -/
structure LowersAlike (options others : Options) (schema other : Schema) : Prop where
  own : schema.own = other.own
  type : ∀ depth, typeAt options depth schema = typeAt others depth other

section Congruence

variable {options others : Options} (agree : options.Agree others) {depth : Nat}

include agree

theorem unknownType_congr : unknownType options = unknownType others := by
  unfold unknownType
  rw [agree.unknownType]

theorem enter_congr : enter options depth = enter others depth := by
  unfold enter
  rw [agree.maxDepth]

theorem constantType_congr (value : Json) :
    constantType options value = constantType others value := by
  unfold constantType
  rw [unknownType_congr agree]

theorem join_congr (many : List TypeExpr → TypeExpr) (types : List TypeExpr) :
    join options many types = join others many types := by
  unfold join
  rw [unknownType_congr agree]

theorem namedType_congr (format : Option String) (array object : Except LoweringError TypeExpr)
    (name : String) :
    namedType options format array object name = namedType others format array object name := by
  unfold namedType
  rw [unknownType_congr agree]

theorem namedTypes_congr (format : Option String) (array object : Except LoweringError TypeExpr)
    (names : List String) :
    namedTypes options format array object names
      = namedTypes others format array object names := by
  induction names with
  | nil => rfl
  | cons name rest ih => rw [namedTypes, namedTypes, namedType_congr agree, ih]

theorem keywordType_congr (own : Keywords) (objectLike arrayLike : Bool)
    (array object : Except LoweringError TypeExpr) :
    keywordType options own objectLike arrayLike array object
      = keywordType others own objectLike arrayLike array object := by
  unfold keywordType
  simp only [namedType_congr agree, namedTypes_congr agree, join_congr agree,
    unknownType_congr agree]

omit agree in
/-- Parts that lower alike have the same types, up to the same failure. -/
theorem typesAt_congr {parts beside : List Schema}
    (alike : List.Forall₂ (LowersAlike options others) parts beside) :
    typesAt options depth parts = typesAt others depth beside := by
  induction alike with
  | nil => rfl
  | cons first _ ih => rw [typesAt, typesAt, first.type, ih]

theorem allOfAt_congr {parts beside : List Schema}
    (alike : List.Forall₂ (LowersAlike options others) parts beside) :
    allOfAt options depth parts = allOfAt others depth beside := by
  unfold allOfAt
  simp only [enter_congr agree, typesAt_congr alike, join_congr agree]

theorem unionAt_congr {parts beside : List Schema}
    (alike : List.Forall₂ (LowersAlike options others) parts beside) :
    unionAt options depth parts = unionAt others depth beside := by
  unfold unionAt
  simp only [enter_congr agree, typesAt_congr alike, join_congr agree]

theorem arrayAt_congr {items beside : Option Schema}
    (alike : Option.Rel (LowersAlike options others) items beside) :
    arrayAt options depth items = arrayAt others depth beside := by
  cases alike with
  | none => rw [arrayAt, arrayAt, unknownType_congr agree]
  | some alike =>
      rw [arrayAt, arrayAt, enter_congr agree]
      simp only [alike.type]

theorem indexAt_congr {declared : Bool} {additional beside : Option (Additional Schema)}
    (alike : Option.Rel (Additional.Alike (LowersAlike options others)) additional beside) :
    indexAt options depth declared additional = indexAt others depth declared beside := by
  rcases alike with ⟨value | alike⟩ | _
  · rw [indexAt, indexAt, unknownType_congr agree]
  · rw [indexAt, indexAt, alike.type]
  · rw [indexAt, indexAt, unknownType_congr agree]

omit agree in
/-- Properties that stand beside each other in the order of names and lower
alike are the same, up to the same failure. The failure that counts is that
of the first in this order. -/
theorem declaredAt_congr {required : List String}
    {properties beside : Option (List (String × Schema))}
    (alike : Option.Rel
      (fun entries others' =>
        List.Forall₂ (SameKey (LowersAlike options others))
          (Text.sortEntries entries) (Text.sortEntries others'))
      properties beside) :
    declaredAt options depth required properties = declaredAt others depth required beside := by
  rcases alike with ⟨alike⟩ | _
  · rw [declaredAt, declaredAt, orderedProperties, orderedProperties, propertiesAt_eq_map,
      propertiesAt_eq_map, sortEntries_map, sortEntries_map, List.mapM_map, List.mapM_map]
    revert alike
    generalize Text.sortEntries _ = sorted
    generalize Text.sortEntries _ = sorted'
    intro alike
    induction alike with
    | nil => rfl
    | cons first _ ih =>
        rw [List.mapM_cons, List.mapM_cons, ih]
        cases first with
        | intro key first => simp only [Function.comp_apply, first.own, first.type]
  · rfl

variable {schema other : Schema}
  (alike : schema.Alike (LowersAlike options others) other)

include alike

theorem objectAt_congr : objectAt options depth schema = objectAt others depth other := by
  unfold objectAt
  simp only [enter_congr agree, alike.own, isSome_eq_of_rel alike.properties,
    declaredAt_congr alike.properties, indexAt_congr agree alike.additional]

theorem decidedAt_congr : decidedAt options depth schema = decidedAt others depth other := by
  have keyword : keywordType options schema.own
        (schema.properties.isSome || schema.additional.isSome) schema.items.isSome
        (arrayAt options depth schema.items) ((objectAt options depth schema).map .object)
      = keywordType others other.own
        (other.properties.isSome || other.additional.isSome) other.items.isSome
        (arrayAt others depth other.items) ((objectAt others depth other).map .object) := by
    rw [keywordType_congr agree, alike.own, isSome_eq_of_rel alike.properties,
      isSome_eq_of_rel alike.additional, isSome_eq_of_rel alike.items,
      arrayAt_congr agree alike.items, objectAt_congr agree alike]
  have allOf := alike.allOf
  have anyOf := alike.anyOf
  have oneOf := alike.oneOf
  unfold decidedAt Schema.isType
  rw [keyword, alike.own]
  generalize schema.allOf = parts, other.allOf = parts' at allOf ⊢
  generalize schema.anyOf = anys, other.anyOf = anys' at anyOf ⊢
  generalize schema.oneOf = ones, other.oneOf = ones' at oneOf ⊢
  cases other.own.reference with
  | some pointer => rfl
  | none =>
  cases other.own.constant with
  | some value => exact congrArg Except.ok (constantType_congr agree value)
  | none =>
  cases allOf with
  | some related => exact allOfAt_congr agree related
  | none =>
  cases anyOf with
  | some related => exact unionAt_congr agree related
  | none =>
  cases oneOf with
  | some related => exact unionAt_congr agree related
  | none => rfl

/-- Schemas whose children lower alike lower alike. -/
theorem lowersAlike_of_alike : LowersAlike options others schema other where
  own := alike.own
  type depth := by
    rw [typeAt_eq_map, typeAt_eq_map, decidedAt_congr agree alike]
    unfold withNull
    rw [alike.own]

end Congruence

/-- Under choices that agree every schema lowers to the same. -/
theorem lowersAlike_self {options others : Options} (agree : options.Agree others)
    (schema : Schema) : LowersAlike options others schema schema := by
  induction schema using Schema.induction with
  | step schema ih =>
      have beside : schema.Alike Eq schema := .refl (fun _ => rfl) schema
      refine lowersAlike_of_alike agree (beside.imp fun child mem other same => ?_)
      rw [← same]
      exact ih child mem

end Lowering

end OpenApiTypes
