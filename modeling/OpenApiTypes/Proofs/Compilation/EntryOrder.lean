/-
The order in which a map lists its entries never shows. Two documents are
the same when their maps hold the same entries in whatever order: the four
maps of named parts, the content of a payload, and the properties of every
schema at every depth. Each of these is sorted before anything is made of
it, so the definitions that are collected stand beside each other, and
compiling them gives one result and one list of events.

The argument is one relation pushed through. `Schema.Same` follows both
schemas down together; the children of two such schemas stand beside each
other once the properties are sorted (`Schema.Same.alike`), and induction on
the schema makes them lower to the same. What is collected is related in
the same way, and compilation does the rest.
-/
import OpenApiTypes.Proofs.Compilation.Correspondence

namespace OpenApiTypes

open Lowering (LowersAlike)

-- ================================================== maps as maps

/-- Two maps hold related values under the same keys. The keys of a map are
distinct, and an entry of the first may have its counterpart at any place of
the second. -/
inductive SameMap {α : Type} (R : α → α → Prop) :
    List (String × α) → List (String × α) → Prop where
  | nil : SameMap R [] []
  | cons {key : String} {value other : α} {entries before after : List (String × α)}
      (fresh : key ∉ entries.map Prod.fst) (related : R value other)
      (rest : SameMap R entries (before ++ after)) :
      SameMap R ((key, value) :: entries) (before ++ (key, other) :: after)

section Maps

variable {α : Type} {R : α → α → Prop} {entries others : List (String × α)}

theorem SameMap.distinct (same : SameMap R entries others) : (entries.map Prod.fst).Nodup := by
  induction same with
  | nil => exact List.nodup_nil
  | cons fresh _ _ ih => exact List.nodup_cons.2 ⟨fresh, ih⟩

/-- Maps that hold the same stand beside each other once the entries of the
first are moved. -/
theorem SameMap.exists_moved (same : SameMap R entries others) :
    ∃ moved, entries.Perm moved ∧ List.Forall₂ (SameKey R) moved others := by
  induction same with
  | nil => exact ⟨[], .refl [], .nil⟩
  | @cons key value other entries before after fresh related rest ih =>
      obtain ⟨moved, perm, beside⟩ := ih
      let front := moved.take before.length
      let back := moved.drop before.length
      have inFront : List.Forall₂ (SameKey R) front before :=
        List.forall₂_take_append moved before after beside
      have inBack : List.Forall₂ (SameKey R) back after :=
        List.forall₂_drop_append moved before after beside
      have joined : front ++ back = moved := List.take_append_drop _ _
      refine ⟨front ++ (key, value) :: back, ?_, ?_⟩
      · rw [← joined] at perm
        exact (perm.cons _).trans List.perm_middle.symm
      · exact List.rel_append inFront (.cons (.intro key related) inBack)

/-- Maps that hold the same list the same when they are sorted. -/
theorem SameMap.sorted (same : SameMap R entries others) :
    List.Forall₂ (SameKey R) (Text.sortEntries entries) (Text.sortEntries others) := by
  obtain ⟨moved, perm, beside⟩ := same.exists_moved
  have sorted : Text.sortEntries entries = Text.sortEntries moved :=
    Text.sortByName_eq_of_perm same.distinct perm
  rw [sorted]
  exact Text.forall₂_sortByName (fun _ _ same => same.key) beside

/-- With distinct keys, what is found under a key is what stands there. -/
theorem lookup_eq_some_of_mem {key : String} {value : α}
    (distinct : (entries.map Prod.fst).Nodup) (mem : (key, value) ∈ entries) :
    entries.lookup key = some value := by
  induction entries with
  | nil => cases mem
  | cons entry rest ih =>
      obtain ⟨fresh, distinct⟩ := List.nodup_cons.1 distinct
      rcases List.mem_cons.1 mem with same | later
      · rw [← same, List.lookup_cons_self]
      · have apart : key ≠ entry.1 := by
          intro same
          exact fresh (List.mem_map.2 ⟨(key, value), later, same⟩)
        rw [List.lookup_cons, beq_eq_false_iff_ne.2 apart]
        exact ih distinct later

/-- What is found under a key stands there. -/
theorem mem_of_lookup_eq_some {key : String} {value : α}
    (found : entries.lookup key = some value) : (key, value) ∈ entries := by
  obtain ⟨before, after, rfl, -⟩ := List.lookup_eq_some_iff.1 found
  simp

/-- Where the entries of a map stand does not change what is found. -/
theorem lookup_eq_of_perm {moved : List (String × α)} (distinct : (entries.map Prod.fst).Nodup)
    (perm : entries.Perm moved) (key : String) : entries.lookup key = moved.lookup key := by
  have distinct' : (moved.map Prod.fst).Nodup := (perm.map Prod.fst).nodup_iff.1 distinct
  refine Option.ext fun value => ?_
  constructor
  · intro found
    exact lookup_eq_some_of_mem distinct' (perm.mem_iff.1 (mem_of_lookup_eq_some found))
  · intro found
    exact lookup_eq_some_of_mem distinct (perm.mem_iff.2 (mem_of_lookup_eq_some found))

/-- In lists that stand beside each other related values are found. -/
theorem rel_lookup_of_forall₂ (related : List.Forall₂ (SameKey R) entries others) (key : String) :
    Option.Rel R (entries.lookup key) (others.lookup key) := by
  induction related with
  | nil => exact .none
  | cons first _ ih =>
      cases first with
      | intro key' first =>
          rw [List.lookup_cons, List.lookup_cons]
          split
          · exact .some first
          · exact ih

/-- In maps that hold the same related values are found. -/
theorem SameMap.lookup (same : SameMap R entries others) (key : String) :
    Option.Rel R (entries.lookup key) (others.lookup key) := by
  obtain ⟨moved, perm, beside⟩ := same.exists_moved
  rw [lookup_eq_of_perm same.distinct perm]
  exact rel_lookup_of_forall₂ beside key

/-- A map that is missing is like one without entries. -/
theorem SameMap.sorted_getD {map other : Option (List (String × α))}
    (same : Option.Rel (SameMap R) map other) :
    List.Forall₂ (SameKey R) (Text.sortEntries (map.getD []))
      (Text.sortEntries (other.getD [])) := by
  cases same with
  | some same => exact same.sorted
  | none => exact Text.forall₂_sortByName (fun _ _ same => same.key) .nil

end Maps

-- ============================================ schemas and documents

/-- Two schemas are the same up to the order in which the properties are
listed, in them and in every schema that they hold. -/
inductive Schema.Same : Schema → Schema → Prop where
  | intro {schema other : Schema} (own : schema.own = other.own)
      (properties : Option.Rel (SameMap Schema.Same) schema.properties other.properties)
      (items : Option.Rel Schema.Same schema.items other.items)
      (anyOf : Option.Rel (List.Forall₂ Schema.Same) schema.anyOf other.anyOf)
      (oneOf : Option.Rel (List.Forall₂ Schema.Same) schema.oneOf other.oneOf)
      (allOf : Option.Rel (List.Forall₂ Schema.Same) schema.allOf other.allOf)
      (additional :
        Option.Rel (Additional.Alike Schema.Same) schema.additional other.additional) :
      Schema.Same schema other

/-- What is known in one media type is the same. -/
structure MediaType.Same (media other : MediaType) : Prop where
  schema : Option.Rel Schema.Same media.schema other.schema

/-- Two payloads are the same up to the order of their media types. -/
structure Payload.Same (payload other : Payload) : Prop where
  description : payload.description = other.description
  content : Option.Rel (SameMap MediaType.Same) payload.content other.content

/-- Two sets of components are the same up to the order of their parts. -/
structure Components.Same (components other : Components) : Prop where
  schemas : Option.Rel (SameMap Schema.Same) components.schemas other.schemas
  responses : Option.Rel (SameMap Payload.Same) components.responses other.responses
  requestBodies : Option.Rel (SameMap Payload.Same) components.requestBodies other.requestBodies

/-- Two documents are the same up to the order in which their maps list
their entries, at every depth. -/
structure Document.Same (document other : Document) : Prop where
  components : Option.Rel Components.Same document.components other.components
  definitions : Option.Rel (SameMap Schema.Same) document.definitions other.definitions

/-- Missing components are components without parts. -/
theorem Components.same_getD {components other : Option Components}
    (same : Option.Rel Components.Same components other) :
    (components.getD {}).Same (other.getD {}) := by
  cases same with
  | some same => exact same
  | none => exact ⟨.none, .none, .none⟩

-- ======================================================= lowering

section Lowering

variable {options : Options} {schema other : Schema}

/-- Two schemas that are the same up to order stand beside each other. -/
theorem Schema.Same.alike (same : schema.Same other) : schema.Alike Schema.Same other := by
  cases same with
  | intro own properties items anyOf oneOf allOf additional =>
      have sorted := rel_imp_of_mem (S := fun entries others =>
        List.Forall₂ (SameKey Schema.Same) (Text.sortEntries entries) (Text.sortEntries others))
        (fun _ _ _ same => same.sorted) properties
      exact ⟨own, sorted, items, anyOf, oneOf, allOf, additional⟩

/-- Schemas that are the same up to order lower to the same. -/
theorem Schema.Same.lowersAlike (same : schema.Same other) :
    LowersAlike options options schema other := by
  induction schema using Schema.induction generalizing other with
  | step schema ih =>
      have alike : schema.Alike (LowersAlike options options) other :=
        same.alike.imp fun child mem beside same => ih child mem same
      exact Lowering.lowersAlike_of_alike (.refl options) alike

end Lowering

-- ===================================================== collecting

/-- What is kept of lists that stand beside each other is the same if it is
the same for each two items. -/
theorem filterMap_eq_of_forall₂ {α β γ : Type} {R : α → β → Prop} {f : α → Option γ}
    {g : β → Option γ} (each : ∀ item other, R item other → f item = g other)
    {items : List α} {others : List β} (related : List.Forall₂ R items others) :
    items.filterMap f = others.filterMap g := by
  induction related with
  | nil => rfl
  | cons first _ ih => rw [List.filterMap_cons, List.filterMap_cons, each _ _ first, ih]

namespace Definition

/-- Two definitions are the same up to order in their schemas. -/
structure Same (definition other : Definition) : Prop where
  name : definition.name = other.name
  description : definition.description = other.description
  schema : definition.schema.Same other.schema

/-- The first schema among media types is the same. -/
theorem rel_findSome {content others : List (String × MediaType)}
    (beside : List.Forall₂ (SameKey MediaType.Same) content others) :
    Option.Rel Schema.Same (content.findSome? (·.2.schema)) (others.findSome? (·.2.schema)) := by
  induction beside with
  | nil => exact .none
  | @cons entry other content others first _ ih =>
      have schema := first.value.schema
      rw [List.findSome?_cons, List.findSome?_cons]
      generalize entry.2.schema = given, other.2.schema = given' at schema ⊢
      cases schema with
      | some same => exact .some same
      | none => exact ih

/-- The schema that counts is the same for payloads that are the same. -/
theorem rel_payloadSchema {payload other : Payload} (same : payload.Same other) :
    Option.Rel Schema.Same (payloadSchema payload) (payloadSchema other) := by
  have first := rel_findSome (SameMap.sorted_getD same.content)
  have preferred : Option.Rel MediaType.Same
      ((payload.content.getD []).lookup preferredMediaType)
      ((other.content.getD []).lookup preferredMediaType) := by
    have content := same.content
    generalize payload.content = map, other.content = map' at content ⊢
    cases content with
    | some same => exact same.lookup preferredMediaType
    | none => exact .none
  unfold payloadSchema
  dsimp only
  generalize (payload.content.getD []).lookup preferredMediaType = media,
    (other.content.getD []).lookup preferredMediaType = media' at preferred ⊢
  cases preferred with
  | none => exact first
  | @some media media' same =>
      have schema := same.schema
      rw [Option.bind_some, Option.bind_some]
      generalize media.schema = given, media'.schema = given' at schema ⊢
      cases schema with
      | some same => exact .some same
      | none => exact first

/-- The definitions of maps of schemas that hold the same are the same. -/
theorem same_ofSchemas {schemas others : Option (List (String × Schema))}
    (same : Option.Rel (SameMap Schema.Same) schemas others) :
    List.Forall₂ Same (ofSchemas schemas) (ofSchemas others) := by
  unfold ofSchemas
  rw [List.forall₂_map_left_iff, List.forall₂_map_right_iff]
  refine (SameMap.sorted_getD same).imp fun entry other same => ?_
  cases same with
  | intro key same => exact ⟨rfl, rfl, same⟩

/-- The definitions of maps of payloads that hold the same are the same. -/
theorem same_ofPayloads {payloads others : Option (List (String × Payload))}
    (same : Option.Rel (SameMap Payload.Same) payloads others) :
    List.Forall₂ Same (ofPayloads payloads) (ofPayloads others) := by
  unfold ofPayloads
  refine List.rel_filterMap ?_ (SameMap.sorted_getD same)
  intro entry other same
  cases same with
  | @intro key payload payload' same =>
      have schema := rel_payloadSchema same
      simp only [ofPayload?]
      generalize payloadSchema payload = given, payloadSchema payload' = given' at schema ⊢
      cases schema with
      | some inner => exact .some ⟨rfl, same.description, inner⟩
      | none => exact .none

/-- The same payloads are passed over. -/
theorem skipped_congr {payloads others : Option (List (String × Payload))}
    (same : Option.Rel (SameMap Payload.Same) payloads others) :
    skipped payloads = skipped others := by
  refine filterMap_eq_of_forall₂ (fun entry other same => ?_) (SameMap.sorted_getD same)
  cases same with
  | intro key same =>
      simp only [← Option.not_isSome, isSome_eq_of_rel (rel_payloadSchema same)]

/-- The definitions of documents that are the same are the same. -/
theorem same_collect {document other : Document} (same : document.Same other) :
    List.Forall₂ Same (collect document) (collect other) := by
  have components := Components.same_getD same.components
  unfold collect
  exact List.rel_append
    (List.rel_append
      (List.rel_append (same_ofSchemas components.schemas) (same_ofSchemas same.definitions))
      (same_ofPayloads components.responses))
    (same_ofPayloads components.requestBodies)

/-- Collecting from documents that are the same tells the same. -/
theorem collectEvents_congr {document other : Document} (same : document.Same other) :
    collectEvents document = collectEvents other := by
  have components := Components.same_getD same.components
  unfold collectEvents
  dsimp only
  rw [skipped_congr components.responses, skipped_congr components.requestBodies,
    (same_collect same).length_eq]

end Definition

-- ======================================================= compiling

/-- The result does not depend on the order in which the maps of a document
list their entries. Of two documents that differ in nothing else, the same
names and descriptions are collected in the same order, and the definitions
compile to the same text or fail with the same error, in both cases with the
same events, warnings and all. -/
theorem Compilation.tryCompile_collect_congr (options : Options) {document other : Document}
    (same : document.Same other) :
    (Definition.collect document).map (fun definition => (definition.name, definition.description))
        = (Definition.collect other).map
          (fun definition => (definition.name, definition.description))
      ∧ Definition.collectEvents document = Definition.collectEvents other
      ∧ tryCompile options (Definition.collect document)
        = tryCompile options (Definition.collect other) := by
  have collected := Definition.same_collect same
  refine ⟨?_, Definition.collectEvents_congr same, tryCompile_congr ?_⟩
  · rw [← List.forall₂_eq_eq_eq, List.forall₂_map_left_iff, List.forall₂_map_right_iff]
    exact collected.imp fun definition other same => by rw [same.name, same.description]
  · exact collected.imp fun definition other same => ⟨same.name, same.description,
      same.schema.alike.imp fun _ _ _ inner => inner.lowersAlike⟩

-- ---- definitions and nested properties listed in two orders

/-- A schema of one type without anything inside. -/
def plainSchema (name : String) : Schema := { own := { types := some (.one name) } }

/-- Cats by their properties, in either order, in a list or alone. -/
def catSchema (properties : List (String × Schema)) : Schema :=
  { own := { types := some (.one "object") }, properties := some properties }

/-- Lists of cats. -/
def catsSchema (properties : List (String × Schema)) : Schema :=
  { own := { types := some (.one "array") }, items := some (catSchema properties) }

def nameFirst : List (String × Schema) :=
  [("name", plainSchema "string"), ("age", plainSchema "number")]

def ageFirst : List (String × Schema) :=
  [("age", plainSchema "number"), ("name", plainSchema "string")]

theorem same_plainSchema (name : String) : (plainSchema name).Same (plainSchema name) :=
  .intro rfl .none .none .none .none .none .none

theorem same_nameFirst : SameMap Schema.Same nameFirst ageFirst :=
  @SameMap.cons _ _ _ _ _ _ [_] _ (by decide) (same_plainSchema _)
    (@SameMap.cons _ _ _ _ _ _ [] _ (by decide) (same_plainSchema _) .nil)

theorem same_catSchema : (catSchema nameFirst).Same (catSchema ageFirst) :=
  .intro rfl (.some same_nameFirst) .none .none .none .none .none

theorem same_catsSchema : (catsSchema nameFirst).Same (catsSchema ageFirst) :=
  .intro rfl .none (.some same_catSchema) .none .none .none .none

/-- A document with two definitions, in one order and in the other. -/
def catsFirst : Document where
  definitions := some [("Cats", catsSchema nameFirst), ("Cat", catSchema nameFirst)]

def catFirst : Document where
  definitions := some [("Cat", catSchema ageFirst), ("Cats", catsSchema ageFirst)]

theorem tryCompile_cats :
    catsFirst.Same catFirst
      ∧ Compilation.tryCompile {} (Definition.collect catsFirst)
        = Compilation.tryCompile {} (Definition.collect catFirst) := by
  have same : catsFirst.Same catFirst :=
    ⟨.none, .some (@SameMap.cons _ _ _ _ _ _ [_] _ (by decide) same_catsSchema
      (@SameMap.cons _ _ _ _ _ _ [] _ (by decide) same_catSchema .nil))⟩
  obtain ⟨-, -, compiled⟩ := Compilation.tryCompile_collect_congr {} same
  exact ⟨same, compiled⟩

end OpenApiTypes
