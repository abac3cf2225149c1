/-
What is collected from a document. Each of its four maps gives a block of
definitions, in strictly ascending order of their names: one for every
schema, and one for every payload that has a schema in some media type. The
schema that is taken from a payload is said here without sorting
(`Payload.Chooses`): the one of the preferred media type, or else the one of
the least media type that has one.

A block is a map sorted, with what each entry gives if it gives something,
so all four are cases of one lemma (`lists_filterMap`).
-/
import OpenApiTypes.Proofs.Compilation.EntryOrder

namespace OpenApiTypes

-- ====================================================== the statement

/-- The keys of a map are distinct. -/
def DistinctKeys {α : Type} (entries : List (String × α)) : Prop :=
  (entries.map Prod.fst).Nodup

instance {α : Type} (entries : List (String × α)) : Decidable (DistinctKeys entries) :=
  inferInstanceAs (Decidable (entries.map Prod.fst).Nodup)

namespace Payload

/-- The media types of a payload. -/
def media (payload : Payload) : List (String × MediaType) := payload.content.getD []

/-- Whether some media type of a payload has a schema. -/
def hasSchema (payload : Payload) : Bool := payload.media.any (·.2.schema.isSome)

/-- The schema that counts among those of the media types of a payload. -/
inductive Chooses (payload : Payload) (schema : Schema) : Prop where
  | preferred {type : MediaType} (listed : ("application/json", type) ∈ payload.media)
      (given : type.schema = some schema)
  | least {key : String} {type : MediaType}
      (passed : ∀ type, ("application/json", type) ∈ payload.media → type.schema = none)
      (listed : (key, type) ∈ payload.media) (given : type.schema = some schema)
      (first : ∀ other ∈ payload.media, other.2.schema.isSome = true →
        other.1 = key ∨ Text.compareNames key other.1 = .lt)

end Payload

namespace Document

/-- The schemas among the components of a document. -/
def schemaEntries (document : Document) : List (String × Schema) :=
  (document.components.bind (·.schemas)).getD []

/-- The Swagger 2 definitions of a document. -/
def definitionEntries (document : Document) : List (String × Schema) :=
  document.definitions.getD []

/-- The responses among the components of a document. -/
def responseEntries (document : Document) : List (String × Payload) :=
  (document.components.bind (·.responses)).getD []

/-- The request bodies among the components of a document. -/
def requestBodyEntries (document : Document) : List (String × Payload) :=
  (document.components.bind (·.requestBodies)).getD []

/-- The maps of a document, and those of its payloads, have distinct keys. -/
structure IsKeyed (document : Document) : Prop where
  schemas : DistinctKeys document.schemaEntries
  definitions : DistinctKeys document.definitionEntries
  responses : DistinctKeys document.responseEntries
  requestBodies : DistinctKeys document.requestBodyEntries
  media : ∀ entry ∈ document.responseEntries ++ document.requestBodyEntries,
    DistinctKeys entry.2.media

end Document

namespace Definition

/-- Definitions are those of a map: one for each entry, with its key as the
name and made of its value, in strictly ascending order of the names. -/
structure Lists {α : Type} (gives : α → Definition → Prop) (entries : List (String × α))
    (definitions : List Definition) : Prop where
  ascending : definitions.Pairwise fun first second =>
    Text.compareNames first.name second.name = .lt
  exactly : ∃ moved, moved.Perm entries
    ∧ List.Forall₂ (fun entry definition => definition.name = entry.1 ∧ gives entry.2 definition)
      moved definitions

/-- A definition is a schema and nothing else. -/
structure IsSchema (schema : Schema) (definition : Definition) : Prop where
  schema : definition.schema = schema
  bare : definition.description = none

/-- A definition is a payload: the schema that counts in it, and its
description. -/
structure IsPayload (payload : Payload) (definition : Definition) : Prop where
  chosen : payload.Chooses definition.schema
  described : definition.description = payload.description

/-- Definitions are those of a document: its schemas, its definitions, and
the responses and the request bodies that have a schema. -/
def AreCollected (document : Document) (definitions : List Definition) : Prop :=
  ∃ schemas given responses requestBodies,
    definitions = schemas ++ given ++ responses ++ requestBodies
    ∧ Lists IsSchema document.schemaEntries schemas
    ∧ Lists IsSchema document.definitionEntries given
    ∧ Lists IsPayload (document.responseEntries.filter (·.2.hasSchema)) responses
    ∧ Lists IsPayload (document.requestBodyEntries.filter (·.2.hasSchema)) requestBodies

-- ======================================================== one block

section Block

variable {α : Type} {gives : α → Definition → Prop} (make : String × α → Option Definition)

/-- Of the entries that give something each gives its own definition. -/
theorem forall₂_filterMap {entries : List (String × α)}
    (named : ∀ entry ∈ entries, ∀ definition, make entry = some definition →
      definition.name = entry.1 ∧ gives entry.2 definition) :
    List.Forall₂ (fun entry definition => definition.name = entry.1 ∧ gives entry.2 definition)
      (entries.filter fun entry => (make entry).isSome) (entries.filterMap make) := by
  induction entries with
  | nil => exact .nil
  | cons entry rest ih =>
      have later := ih fun other mem => named other (List.mem_cons_of_mem _ mem)
      cases made : make entry with
      | none =>
          rw [List.filterMap_cons_none made, List.filter_cons_of_neg (by simp [made])]
          exact later
      | some definition =>
          rw [List.filterMap_cons_some made, List.filter_cons_of_pos (by simp [made])]
          exact .cons (named entry List.mem_cons_self definition made) later

/-- A sorted map lists the definitions of those of its entries that give
one. -/
theorem lists_filterMap {entries : List (String × α)} (distinct : DistinctKeys entries)
    (named : ∀ entry ∈ entries, ∀ definition, make entry = some definition →
      definition.name = entry.1 ∧ gives entry.2 definition) :
    Lists gives (entries.filter fun entry => (make entry).isSome)
      ((Text.sortEntries entries).filterMap make) := by
  have moved : (Text.sortEntries entries).Perm entries := Text.sortByName_perm Prod.fst entries
  have named' : ∀ entry ∈ Text.sortEntries entries, ∀ definition, make entry = some definition →
      definition.name = entry.1 ∧ gives entry.2 definition :=
    fun entry mem => named entry (moved.mem_iff.1 mem)
  refine ⟨?_, _, moved.filter _, forall₂_filterMap make named'⟩
  rw [List.pairwise_filterMap]
  refine (Text.pairwise_lt_sortByName distinct).imp_of_mem ?_
  intro first second memFirst memSecond before one madeOne two madeTwo
  rw [(named' first memFirst one madeOne).1, (named' second memSecond two madeTwo).1]
  exact before

end Block

-- ========================================================= schemas

/-- A map of schemas gives one definition for each. -/
theorem lists_ofSchemas {schemas : Option (List (String × Schema))}
    (distinct : DistinctKeys (schemas.getD [])) :
    Lists IsSchema (schemas.getD []) (ofSchemas schemas) := by
  let make : String × Schema → Option Definition :=
    fun entry => some { name := entry.1, schema := entry.2 }
  have lists : Lists IsSchema ((schemas.getD []).filter fun entry => (make entry).isSome)
      ((Text.sortEntries (schemas.getD [])).filterMap make) := by
    refine lists_filterMap make distinct fun entry _ definition made => ?_
    obtain rfl := Option.some.inj made
    exact ⟨rfl, rfl, rfl⟩
  have all : (schemas.getD []).filter (fun entry => (make entry).isSome) = schemas.getD [] :=
    List.filter_eq_self.2 fun _ _ => rfl
  have made : (Text.sortEntries (schemas.getD [])).filterMap make = ofSchemas schemas :=
    congrFun List.filterMap_eq_map _
  rw [all, made] at lists
  exact lists

-- ======================================================== payloads

/-- The schema that is taken from a payload is the one that counts. -/
theorem chooses_of_payloadSchema {payload : Payload} (distinct : DistinctKeys payload.media)
    {schema : Schema} (taken : payloadSchema payload = some schema) : payload.Chooses schema := by
  unfold payloadSchema at taken
  dsimp only at taken
  split at taken
  · next preferred given =>
    cases taken
    obtain ⟨type, found, held⟩ := Option.bind_eq_some_iff.1 given
    exact .preferred (mem_of_lookup_eq_some found) held
  · next missing =>
    have passed : ∀ type, ("application/json", type) ∈ payload.media → type.schema = none := by
      intro type mem
      have found : (payload.content.getD []).lookup preferredMediaType = some type :=
        lookup_eq_some_of_mem distinct mem
      rw [found] at missing
      exact missing
    obtain ⟨front, entry, back, parts, given, without⟩ := List.findSome?_eq_some_iff.1 taken
    have moved : (front ++ entry :: back).Perm payload.media := by
      rw [← parts]
      exact Text.sortByName_perm Prod.fst payload.media
    have sorted : (front ++ entry :: back).Pairwise fun first second =>
        Text.compareNames first.1 second.1 = .lt := by
      rw [← parts]
      exact Text.pairwise_lt_sortByName distinct
    have listed : (entry.1, entry.2) ∈ payload.media := moved.mem_iff.1 (by simp)
    -- Before the entry that is found none has a schema, and those after it
    -- have greater keys.
    refine .least passed listed given fun other mem held => ?_
    rcases List.mem_append.1 (moved.mem_iff.2 mem) with mem | mem
    · rw [without other mem] at held
      cases held
    · rcases List.mem_cons.1 mem with rfl | mem
      · exact .inl rfl
      · exact .inr (List.rel_of_pairwise_cons (List.pairwise_append.1 sorted).2.1 mem)

/-- A schema is taken from a payload exactly when some media type has one. -/
theorem isSome_payloadSchema (payload : Payload) :
    (payloadSchema payload).isSome = payload.hasSchema := by
  have first : ((Text.sortEntries payload.media).findSome? (·.2.schema)).isSome
      = payload.hasSchema := by
    rw [Bool.eq_iff_iff, List.findSome?_isSome_iff, Payload.hasSchema, List.any_eq_true]
    have moved : (Text.sortEntries payload.media).Perm payload.media :=
      Text.sortByName_perm Prod.fst payload.media
    exact exists_congr fun entry => and_congr_left fun _ => moved.mem_iff
  unfold payloadSchema
  dsimp only
  split
  · next schema given =>
    obtain ⟨type, found, held⟩ := Option.bind_eq_some_iff.1 given
    have listed : ("application/json", type) ∈ payload.media := mem_of_lookup_eq_some found
    refine (List.any_eq_true.2 ⟨_, listed, ?_⟩).symm
    rw [held]
    rfl
  · exact first

/-- A map of payloads gives one definition for each that has a schema. -/
theorem lists_ofPayloads {payloads : Option (List (String × Payload))}
    (distinct : DistinctKeys (payloads.getD []))
    (media : ∀ entry ∈ payloads.getD [], DistinctKeys entry.2.media) :
    Lists IsPayload ((payloads.getD []).filter (·.2.hasSchema)) (ofPayloads payloads) := by
  let make : String × Payload → Option Definition := fun entry => ofPayload? entry.1 entry.2
  have lists : Lists IsPayload ((payloads.getD []).filter fun entry => (make entry).isSome)
      ((Text.sortEntries (payloads.getD [])).filterMap make) := by
    refine lists_filterMap make distinct fun entry mem definition made => ?_
    obtain ⟨schema, taken, rfl⟩ := Option.map_eq_some_iff.1 made
    exact ⟨rfl, chooses_of_payloadSchema (media entry mem) taken, rfl⟩
  have kept : (payloads.getD []).filter (fun entry => (make entry).isSome)
      = (payloads.getD []).filter (·.2.hasSchema) := by
    refine List.filter_congr fun entry _ => ?_
    rw [← isSome_payloadSchema]
    exact Option.isSome_map
  rw [kept] at lists
  exact lists

-- ======================================================= documents

/-- A part of missing components is missing. -/
theorem getD_components {α : Type} (document : Document)
    {part : Components → Option (List (String × α))} (empty : part {} = none) :
    (part (document.components.getD {})).getD [] = (document.components.bind part).getD [] := by
  cases document.components with
  | none => rw [Option.getD_none, empty, Option.bind_none]
  | some components => rfl

/-- Nothing is lost or doubled when the definitions of a document are
collected. They are one for each of its schemas, one for each of its
definitions, and one for each response and each request body that has a
schema, in this order, and within each of the four by name in strictly
ascending order. Only the last two carry a description, that of the payload,
and their schema is the one that counts in it. -/
theorem areCollected_collect {document : Document} (keyed : document.IsKeyed) :
    AreCollected document (collect document) := by
  have schemas : ((document.components.getD {}).schemas).getD [] = document.schemaEntries :=
    getD_components document rfl
  have responses : ((document.components.getD {}).responses).getD [] = document.responseEntries :=
    getD_components document rfl
  have requestBodies :
      ((document.components.getD {}).requestBodies).getD [] = document.requestBodyEntries :=
    getD_components document rfl
  refine ⟨_, _, _, _, rfl, ?_, lists_ofSchemas keyed.definitions, ?_, ?_⟩
  · rw [← schemas]
    exact lists_ofSchemas (schemas ▸ keyed.schemas)
  · rw [← responses]
    refine lists_ofPayloads (responses ▸ keyed.responses) fun entry mem => ?_
    rw [responses] at mem
    exact keyed.media entry (List.mem_append_left _ mem)
  · rw [← requestBodies]
    refine lists_ofPayloads (requestBodies ▸ keyed.requestBodies) fun entry mem => ?_
    rw [requestBodies] at mem
    exact keyed.media entry (List.mem_append_right _ mem)

-- ---- a document with all four maps, their entries in no order

/-- A payload of several media types. The preferred one has no schema, and of
the others the one that is listed last is the least. -/
def evasivePayload : Payload where
  description := some "none of it preferred"
  content := some [("text/plain", { schema := some (plainSchema "string") }),
    ("application/json", {}), ("application/cbor", { schema := some (plainSchema "number") })]

/-- A payload whose preferred media type is not the least. -/
def plainPayload : Payload where
  content := some [("application/cbor", { schema := some (plainSchema "number") }),
    ("application/json", { schema := some (plainSchema "string") })]

/-- The document. One response has no schema. -/
def scatteredDocument : Document where
  components := some {
    schemas := some [("b", plainSchema "string"), ("a", plainSchema "number")]
    responses := some [("gone", { description := some "nothing" }), ("found", evasivePayload)]
    requestBodies := some [("a", plainPayload)] }
  definitions := some [("a", plainSchema "boolean")]

theorem isKeyed_scatteredDocument : scatteredDocument.IsKeyed where
  schemas := by decide
  definitions := by decide
  responses := by decide
  requestBodies := by decide
  media := by decide

theorem areCollected_scattered :
    scatteredDocument.IsKeyed ∧ AreCollected scatteredDocument (collect scatteredDocument) :=
  ⟨isKeyed_scatteredDocument, areCollected_collect isKeyed_scatteredDocument⟩

end Definition

end OpenApiTypes
