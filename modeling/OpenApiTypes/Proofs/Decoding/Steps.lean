/-
What a notation that knows objects leaves open. An object lists its keys in
some order, may hold keys that nothing is known about, and may give null for
what it has nothing to say about; each is a step from one tree to another
that should not show in the document. Which steps may be taken where depends
on what the part is decoded as: only a record has fields that it does not
know or that are missing, while in a map every key counts, and in a value
that is kept raw so does every null.

One place takes more notice of what it does not know. The part under
`additionalProperties` is read whole before it is decoded, so it has to nest
no deeper than the budget allows and to hold nothing that cannot be read,
unknown keys included. `fits` says so of every such part of a tree.
-/
import OpenApiTypes.Proofs.Decoding.Readers

namespace OpenApiTypes

namespace Decoding

-- =========================================================== places

/-- The records of a document. -/
inductive Kind where
  | document
  | components
  | payload
  | mediaType
  | schema

/-- The names of the fields of a record, in order. -/
def Kind.names : Kind → List String
  | document => ["components", "definitions"]
  | components => ["schemas", "responses", "requestBodies"]
  | payload => ["description", "content"]
  | mediaType => ["schema"]
  | schema => schemaKeywords

/-- What a part of a document is decoded as. -/
inductive Place where
  /-- Text, a flag, a list of these, any value, or nothing at all. -/
  | raw
  | record (kind : Kind)
  /-- A flag, or a schema that is read whole first. -/
  | whole
  | map (kind : Kind)
  | list (kind : Kind)

/-- The fields of a record that hold records in their turn, with what they
are decoded as. -/
def Kind.inner : Kind → List (String × Place)
  | document => [("components", .record .components), ("definitions", .map .schema)]
  | components =>
      [("schemas", .map .schema), ("responses", .map .payload), ("requestBodies", .map .payload)]
  | payload => [("content", .map .mediaType)]
  | mediaType => [("schema", .record .schema)]
  | schema =>
      [("properties", .map .schema), ("items", .record .schema), ("anyOf", .list .schema),
        ("oneOf", .list .schema), ("allOf", .list .schema), ("additionalProperties", .whole)]

/-- What a field of a record is decoded as. -/
def Kind.place (kind : Kind) (name : String) : Place := (kind.inner.lookup name).getD .raw

namespace Place

/-- The record whose fields stand in an object or a list at a place. -/
def kind? : Place → Option Kind
  | record kind => some kind
  | whole => some .schema
  | _ => none

/-- The place of what an object holds under a key. -/
def entry (place : Place) (name : String) : Place :=
  match place with
  | record kind => kind.place name
  | whole => Kind.schema.place name
  | map kind => .record kind
  | raw | list _ => .raw

/-- The place of an item of a list. A record that is given as a list gives
its fields in order. -/
def item (place : Place) (index : Nat) : Place :=
  match place with
  | record kind => kind.place (kind.names.getD index "")
  | whole => Kind.schema.place (Kind.schema.names.getD index "")
  | list kind => .record kind
  | raw | map _ => .raw

end Place

-- ============================================================ steps

/-- A step that should not change what the tree is decoded to, taken at a
place or anywhere below it. -/
inductive Step : Place → Tree → Tree → Prop where
  /-- The keys of an object in another order. -/
  | reorder {place : Place} {entries moved : List (String × Tree)}
      (distinct : (entries.map Prod.fst).Nodup) (perm : entries.Perm moved) :
      Step place (.object entries) (.object moved)
  /-- One more key that the record does not know, with any value. -/
  | unknown {place : Place} {kind : Kind} {before after : List (String × Tree)} {name : String}
      (decoded : place.kind? = some kind) (unheard : name ∉ kind.names) (part : Tree) :
      Step place (.object (before ++ after)) (.object (before ++ (name, part) :: after))
  /-- A field that the record has and the object does not give, as null. -/
  | absent {place : Place} {kind : Kind} {before after : List (String × Tree)} {name : String}
      (decoded : place.kind? = some kind) (known : name ∈ kind.names)
      (missing : name ∉ (before ++ after).map Prod.fst) :
      Step place (.object (before ++ after)) (.object (before ++ (name, .null) :: after))
  /-- A step below a key. -/
  | entry {place : Place} {before after : List (String × Tree)} {name : String}
      {part other : Tree} (inner : Step (place.entry name) part other) :
      Step place (.object (before ++ (name, part) :: after))
        (.object (before ++ (name, other) :: after))
  /-- A step below an item. -/
  | item {place : Place} {before after : List Tree} {part other : Tree}
      (inner : Step (place.item before.length) part other) :
      Step place (.list (before ++ part :: after)) (.list (before ++ other :: after))

/-- One document is changed into another by any number of steps. -/
def Changes : Tree → Tree → Prop := Relation.ReflTransGen (Step (.record .document))

-- ==================================================== reading whole

/-- Whether all of a tree can be read: its lists and maps nest within the
budget, and nothing in it is spoiled. -/
def readable : Nat → Tree → Bool
  | _, .defect => false
  | 0, .list _ => false
  | 0, .map _ => false
  | budget + 1, .list items => items.all fun item => readable budget item
  | budget + 1, .map entries =>
      entries.all fun entry => readable budget entry.1 && readable budget entry.2
  | _, _ => true

/-- Whether every part that is read whole when a tree is decoded at a place
can be read, within what the budget leaves for it. -/
def fits : Nat → Place → Tree → Bool
  | _, .raw, _ => true
  | budget, .whole, tree => readable budget tree
  | budget + 1, place, .list items =>
      items.zipIdx.all fun (item, index) => fits budget (place.item index) item
  | budget + 1, place, .map entries => entries.all fun entry =>
      match entry.1 with
      | .text name => fits budget (place.entry name) entry.2
      | _ => true
  | _, _, _ => true

section Fits

variable {budget : Nat} {place : Place} {part other : Tree}

theorem readable_list (items : List Tree) :
    readable (budget + 1) (.list items) = true ↔ ∀ item ∈ items, readable budget item = true :=
  List.all_eq_true

theorem readable_object (entries : List (String × Tree)) :
    readable (budget + 1) (.object entries) = true
      ↔ ∀ entry ∈ entries, readable budget entry.2 = true := by
  have each (entry : String × Tree) :
      (readable budget (.text entry.1) && readable budget entry.2) = readable budget entry.2 := by
    cases budget <;> rfl
  rw [Tree.object, readable, List.all_map, List.all_eq_true]
  simp only [Function.comp_apply, each]

@[simp] theorem fits_raw : fits budget .raw part = true := by
  cases budget <;> rfl

@[simp] theorem fits_whole : fits budget .whole part = readable budget part := by
  cases budget <;> rfl

theorem fits_map (apart : place ≠ .whole) (entries : List (Tree × Tree)) :
    fits (budget + 1) place (.map entries) = true
      ↔ ∀ name part, (.text name, part) ∈ entries →
        fits budget (place.entry name) part = true := by
  have each : fits (budget + 1) place (.map entries) = true
      ↔ ∀ entry ∈ entries, (match entry.1 with
        | .text name => fits budget (place.entry name) entry.2
        | _ => true) = true := by
    rw [← List.all_eq_true]
    cases place with
    | whole => exact absurd rfl apart
    | raw =>
        simp only [fits_raw, Place.entry, true_iff, List.all_eq_true]
        intro entry _
        split <;> rfl
    | _ => rfl
  rw [each]
  constructor
  · intro all name part mem
    exact all _ mem
  · intro all entry mem
    obtain ⟨key, part⟩ := entry
    cases key with
    | text name => exact all name part mem
    | _ => rfl

theorem fits_object (apart : place ≠ .whole) (entries : List (String × Tree)) :
    fits (budget + 1) place (.object entries) = true
      ↔ ∀ entry ∈ entries, fits budget (place.entry entry.1) entry.2 = true := by
  rw [Tree.object, fits_map apart]
  constructor
  · intro all entry mem
    exact all entry.1 entry.2 (List.mem_map_of_mem mem)
  · intro all name part mem
    obtain ⟨entry, listed, same⟩ := List.mem_map.1 mem
    cases same
    exact all entry listed

theorem fits_list (apart : place ≠ .whole) (items : List Tree) :
    fits (budget + 1) place (.list items) = true
      ↔ ∀ index item, items[index]? = some item → fits budget (place.item index) item = true := by
  have each : fits (budget + 1) place (.list items) = true
      ↔ ∀ entry ∈ items.zipIdx, fits budget (place.item entry.2) entry.1 = true := by
    rw [← List.all_eq_true]
    cases place with
    | whole => exact absurd rfl apart
    | raw => simp [Place.item]
    | _ => rfl
  rw [each]
  constructor
  · intro all index item found
    exact all (item, index) (List.mem_zipIdx_iff_getElem?.2 found)
  · intro all entry mem
    exact all entry.2 entry.1 (List.mem_zipIdx_iff_getElem?.1 mem)

/-- What can be read whole fits, whatever it is decoded as. -/
theorem fits_of_readable (whole : readable budget part = true) :
    fits budget place part = true := by
  induction budget generalizing place part with
  | zero =>
      cases place with
      | whole => exact whole
      | _ => cases part <;> rfl
  | succ budget ih =>
      by_cases apart : place = .whole
      · rw [apart, fits_whole]
        exact whole
      cases part with
      | list items =>
          refine (fits_list apart items).2 fun index item found => ?_
          exact ih ((readable_list items).1 whole item (List.mem_of_getElem? found))
      | map entries =>
          refine (fits_map apart entries).2 fun name part mem => ?_
          have both := List.all_eq_true.1 whole _ mem
          exact ih (Bool.and_eq_true_iff.1 both).2
      | _ =>
          cases place with
          | whole => exact absurd rfl apart
          | _ => rfl

/-- Items apart from the one that differs are found in both lists. -/
theorem getElem?_middle {before after : List Tree} {index : Nat}
    (apart : index ≠ before.length) :
    (before ++ part :: after)[index]? = (before ++ other :: after)[index]? := by
  by_cases earlier : index < before.length
  · rw [List.getElem?_append_left earlier, List.getElem?_append_left earlier]
  · obtain ⟨offset, rfl⟩ := Nat.exists_eq_add_of_lt (by omega : before.length < index)
    rw [List.getElem?_append_right (by omega), List.getElem?_append_right (by omega),
      Nat.add_assoc, Nat.add_sub_cancel_left, List.getElem?_cons_succ, List.getElem?_cons_succ]

/-- A step leads from an object to an object or from a list to a list, and
leaves nothing out: each part is still there, itself or a step further. -/
theorem Step.cases_parts (step : Step place part other) :
    (∃ entries others, part = .object entries ∧ other = .object others
      ∧ ∀ entry ∈ entries, ∃ beside ∈ others, beside.1 = entry.1
        ∧ (beside.2 = entry.2 ∨ Step (place.entry entry.1) entry.2 beside.2))
    ∨ (∃ items others, part = .list items ∧ other = .list others
      ∧ ∀ (index : Nat) (item : Tree), items[index]? = some item →
        ∃ beside, others[index]? = some beside
          ∧ (beside = item ∨ Step (place.item index) item beside)) := by
  cases step with
  | reorder distinct perm =>
      refine .inl ⟨_, _, rfl, rfl, fun entry mem => ?_⟩
      exact ⟨entry, perm.mem_iff.1 mem, rfl, .inl rfl⟩
  | unknown decoded unheard inner =>
      refine .inl ⟨_, _, rfl, rfl, fun entry mem => ⟨entry, ?_, rfl, .inl rfl⟩⟩
      exact List.perm_middle.mem_iff.2 (List.mem_cons_of_mem _ mem)
  | absent decoded known missing =>
      refine .inl ⟨_, _, rfl, rfl, fun entry mem => ⟨entry, ?_, rfl, .inl rfl⟩⟩
      exact List.perm_middle.mem_iff.2 (List.mem_cons_of_mem _ mem)
  | @entry _ before after name part other inner =>
      refine .inl ⟨_, _, rfl, rfl, fun entry mem => ?_⟩
      rcases List.mem_cons.1 (List.perm_middle.mem_iff.1 mem) with rfl | mem
      · exact ⟨(name, other), List.mem_append_right _ List.mem_cons_self, rfl, .inr inner⟩
      · exact ⟨entry, List.perm_middle.mem_iff.2 (List.mem_cons_of_mem _ mem), rfl, .inl rfl⟩
  | @item _ before after part other inner =>
      refine .inr ⟨_, _, rfl, rfl, fun index item found => ?_⟩
      by_cases here : index = before.length
      · subst here
        rw [List.getElem?_append_right (Nat.le_refl _), Nat.sub_self] at found ⊢
        cases found
        exact ⟨other, rfl, .inr inner⟩
      · rw [getElem?_middle here] at found
        exact ⟨item, found, .inl rfl⟩

/-- If all of the result of a step can be read, so can all of what it was
taken from. -/
theorem readable_of_step (step : Step place part other) (whole : readable budget other = true) :
    readable budget part = true := by
  induction budget generalizing place part other with
  | zero => rcases step.cases_parts with ⟨_, _, rfl, rfl, _⟩ | ⟨_, _, rfl, rfl, _⟩ <;> cases whole
  | succ budget ih =>
      rcases step.cases_parts with
        ⟨entries, others, rfl, rfl, each⟩ | ⟨items, others, rfl, rfl, each⟩
      · rw [readable_object] at whole ⊢
        intro entry mem
        obtain ⟨beside, listed, -, same | inner⟩ := each entry mem
        · exact same ▸ whole beside listed
        · exact ih inner (whole beside listed)
      · rw [readable_list] at whole ⊢
        intro item mem
        obtain ⟨index, found⟩ := List.getElem?_of_mem mem
        obtain ⟨beside, found', same | inner⟩ := each index item found
        · exact same ▸ whole beside (List.mem_of_getElem? found')
        · exact ih inner (whole beside (List.mem_of_getElem? found'))

/-- If the result of a step fits, so does what it was taken from. -/
theorem fits_of_step (step : Step place part other) (fit : fits budget place other = true) :
    fits budget place part = true := by
  induction budget generalizing place part other with
  | zero =>
      cases place with
      | whole => exact readable_of_step step fit
      | _ => cases part <;> rfl
  | succ budget ih =>
      by_cases apart : place = .whole
      · subst apart
        exact readable_of_step step fit
      rcases step.cases_parts with
        ⟨entries, others, rfl, rfl, each⟩ | ⟨items, others, rfl, rfl, each⟩
      · rw [fits_object apart] at fit ⊢
        intro entry mem
        obtain ⟨beside, listed, key, inside⟩ := each entry mem
        have fitInside := fit beside listed
        rw [key] at fitInside
        rcases inside with same | inner
        · exact same ▸ fitInside
        · exact ih inner fitInside
      · rw [fits_list apart] at fit ⊢
        intro index item found
        obtain ⟨beside, found', same | inner⟩ := each index item found
        · exact same ▸ fit index beside found'
        · exact ih inner (fit index beside found')

end Fits

end Decoding

end OpenApiTypes
