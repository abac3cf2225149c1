/-
What decoding a document ignores: the order in which objects list their
keys, keys that a record does not know, and known keys that are null.

One step is kept wherever it is taken (`kept_of_step`): raw parts read alike,
maps and lists hold what is kept, and the fields of a record are filled
alike. From one step it follows for any number of them, since to be the same
up to order is transitive.

Only a key under `additionalProperties` does not always go by unnoticed,
since it is read before it is ignored. If it cannot be read there is no
document at all, but never another one (`Document.ofTree_of_changes`).
-/
import OpenApiTypes.Document.Format
import OpenApiTypes.Proofs.Decoding.Fitting
import OpenApiTypes.Proofs.Decoding.RawParts

namespace OpenApiTypes

namespace Decoding

variable {budget : Nat} {place : Place} {kind : Kind} {part other : Tree}

-- ======================================================== fields

section Fields

variable {entries moved given others before after : List (String × Tree)} {name : String}

theorem filledAlike_refl (given : List (String × Tree)) : FilledAlike budget kind given given := by
  intro name
  cases filled given name with
  | none => exact .none
  | some inner => exact .some (kept_refl budget _ inner)

/-- Fields in another order are filled alike. -/
theorem leads_fields_of_perm (perm : entries.Perm moved) :
    Leads (FilledAlike budget kind)
      (fields Tree.refusing (budget + 1) kind.names (.object entries))
      (fields Tree.refusing (budget + 1) kind.names (.object moved)) := by
  intro given read
  obtain ⟨rfl, distinct⟩ := fields_object_eq_some.1 read
  have perm' : (known kind.names entries).Perm (known kind.names moved) := perm.filter _
  have distinct' := (perm'.map Prod.fst).nodup_iff.1 distinct
  refine ⟨_, fields_object_eq_some.2 ⟨rfl, distinct'⟩, fun name => ?_⟩
  have same : filled (known kind.names moved) name = filled (known kind.names entries) name := by
    unfold filled
    rw [lookup_eq_of_perm distinct perm']
  rw [same]
  exact filledAlike_refl _ name

/-- Beside a key that is no field the same fields are filled. -/
theorem leads_fields_unknown (unheard : name ∉ kind.names) :
    Leads (FilledAlike budget kind)
      (fields Tree.refusing (budget + 1) kind.names (.object (before ++ after)))
      (fields Tree.refusing (budget + 1) kind.names
        (.object (before ++ (name, part) :: after))) := by
  intro given read
  have skipped : known kind.names (before ++ (name, part) :: after)
      = known kind.names (before ++ after) := by
    rw [known_append, known_append, known_cons_of_notMem unheard]
  rw [fields_object_eq_some, ← skipped] at read
  exact ⟨given, fields_object_eq_some.2 read, filledAlike_refl given⟩

/-- What null is given for is filled as little as without it. -/
theorem filled_absent (missing : name ∉ (before ++ after).map Prod.fst) (asked : String) :
    filled (before ++ (name, .null) :: after) asked = filled (before ++ after) asked := by
  unfold filled
  rw [List.lookup_append, List.lookup_append]
  by_cases same : asked = name
  · subst same
    have unlisted : ∀ entry ∈ before ++ after, (asked != entry.1) = true := by
      intro entry mem
      refine bne_iff_ne.2 fun same => missing ?_
      exact same ▸ List.mem_map_of_mem mem
    have front : before.lookup asked = none := List.lookup_eq_none_iff.2 fun entry mem =>
      unlisted entry (List.mem_append_left _ mem)
    have back : after.lookup asked = none := List.lookup_eq_none_iff.2 fun entry mem =>
      unlisted entry (List.mem_append_right _ mem)
    rw [front, back, List.lookup_cons_self]
    rfl
  · rw [List.lookup_cons, beq_eq_false_iff_ne.2 same]

/-- A field that is given as null is like one that is missing. -/
theorem leads_fields_absent (heard : name ∈ kind.names)
    (missing : name ∉ (before ++ after).map Prod.fst) :
    Leads (FilledAlike budget kind)
      (fields Tree.refusing (budget + 1) kind.names (.object (before ++ after)))
      (fields Tree.refusing (budget + 1) kind.names
        (.object (before ++ (name, .null) :: after))) := by
  intro given read
  obtain ⟨rfl, distinct⟩ := fields_object_eq_some.1 read
  rw [known_append] at distinct
  have fresh : name ∉ (known kind.names before ++ known kind.names after).map Prod.fst := by
    rw [← known_append]
    exact fun mem => missing ((List.filter_sublist.map Prod.fst).mem mem)
  have given : known kind.names (before ++ (name, .null) :: after)
      = known kind.names before ++ (name, .null) :: known kind.names after := by
    rw [known_append, known_cons_of_mem heard]
  have distinct' : ((known kind.names (before ++ (name, .null) :: after)).map Prod.fst).Nodup := by
    rw [given, (List.perm_middle.map Prod.fst).nodup_iff]
    exact List.nodup_cons.2 ⟨fresh, distinct⟩
  refine ⟨_, fields_object_eq_some.2 ⟨rfl, distinct'⟩, fun asked => ?_⟩
  rw [given, known_append, filled_absent fresh]
  exact filledAlike_refl _ asked

/-- Lists that differ in one item stand beside each other. -/
theorem forall₂_middle {α : Type} {R : α → α → Prop} {before after : List α} {item item' : α}
    (refl : ∀ item, R item item) (here : R item item') :
    List.Forall₂ R (before ++ item :: after) (before ++ item' :: after) :=
  List.rel_append (List.forall₂_same.2 fun item _ => refl item)
    (.cons here (List.forall₂_same.2 fun item _ => refl item))

/-- Two entries for one field, each filling it when the other one does, of
which the second keeps what the first is read as. -/
structure FieldKept (budget : Nat) (kind : Kind) (entry other : String × Tree) : Prop where
  key : entry.1 = other.1
  null : entry.2.isNull = other.2.isNull
  kept : Kept budget (kind.place entry.1) entry.2 other.2

theorem FieldKept.refl (entry : String × Tree) : FieldKept budget kind entry entry :=
  ⟨rfl, rfl, kept_refl budget _ entry.2⟩

/-- Fields that are kept one by one are filled alike. -/
theorem filledAlike_of_forall₂ (beside : List.Forall₂ (FieldKept budget kind) given others) :
    FilledAlike budget kind given others := by
  intro name
  induction beside with
  | nil => exact .none
  | @cons entry other rest rest' first _ ih =>
      unfold filled at ih ⊢
      rw [List.lookup_cons, List.lookup_cons, ← first.key]
      by_cases found : name = entry.1
      · subst found
        simp only [beq_self_eq_true, Option.filter_some, first.null]
        cases other.2.isNull with
        | true => exact .none
        | false => exact .some first.kept
      · rw [beq_eq_false_iff_ne.2 found]
        exact ih

/-- Fields of which one is exchanged for one that is kept are filled
alike. -/
theorem leads_fields_entry (nulls : part.isNull = other.isNull)
    (kept : Kept budget (kind.place name) part other) :
    Leads (FilledAlike budget kind)
      (fields Tree.refusing (budget + 1) kind.names (.object (before ++ (name, part) :: after)))
      (fields Tree.refusing (budget + 1) kind.names
        (.object (before ++ (name, other) :: after))) := by
  intro given read
  obtain ⟨rfl, distinct⟩ := fields_object_eq_some.1 read
  have beside : List.Forall₂ (FieldKept budget kind) (before ++ (name, part) :: after)
      (before ++ (name, other) :: after) := forall₂_middle FieldKept.refl ⟨rfl, nulls, kept⟩
  have inside : List.Forall₂ (FieldKept budget kind)
      (known kind.names (before ++ (name, part) :: after))
      (known kind.names (before ++ (name, other) :: after)) :=
    List.rel_filter (fun entry other kept => by simp only [kept.key]) beside
  have keys : (known kind.names (before ++ (name, part) :: after)).map Prod.fst
      = (known kind.names (before ++ (name, other) :: after)).map Prod.fst := by
    rw [← List.forall₂_eq_eq_eq, List.forall₂_map_left_iff, List.forall₂_map_right_iff]
    exact inside.imp fun _ _ kept => kept.key
  exact ⟨_, fields_object_eq_some.2 ⟨rfl, keys ▸ distinct⟩, filledAlike_of_forall₂ inside⟩

/-- Fields given in order differ in one if the items do. -/
theorem forall₂_zip_middle {Q : String × Tree → String × Tree → Prop} {names : List String}
    {before after : List Tree} (refl : ∀ entry, Q entry entry)
    (here : ∀ name, names[before.length]? = some name → Q (name, part) (name, other)) :
    List.Forall₂ Q (names.zip (before ++ part :: after))
      (names.zip (before ++ other :: after)) := by
  induction before generalizing names with
  | nil =>
      cases names with
      | nil => exact .nil
      | cons name rest =>
          exact .cons (here name rfl) (List.forall₂_same.2 fun entry _ => refl entry)
  | cons item before ih =>
      cases names with
      | nil => exact .nil
      | cons name rest => exact .cons (refl _) (ih here)

/-- The same of a record that is given as a list. -/
theorem leads_fields_item {before after : List Tree} (nulls : part.isNull = other.isNull)
    (kept : Kept budget (kind.place (kind.names.getD before.length "")) part other) :
    Leads (FilledAlike budget kind)
      (fields Tree.refusing (budget + 1) kind.names (.list (before ++ part :: after)))
      (fields Tree.refusing (budget + 1) kind.names (.list (before ++ other :: after))) := by
  intro given read
  obtain ⟨rfl, length⟩ := fields_list_eq_some.1 read
  have length' : (before ++ other :: after).length = kind.names.length := by
    simpa only [List.length_append, List.length_cons] using length
  refine ⟨_, fields_list_eq_some.2 ⟨rfl, length'⟩, filledAlike_of_forall₂ ?_⟩
  refine forall₂_zip_middle FieldKept.refl fun name named => ⟨rfl, nulls, ?_⟩
  rw [List.getD_eq_getElem?_getD, named] at kept
  exact kept

end Fields

-- ========================================================= one step

section Steps

/-- A step is taken from a list or an object to another one, neither of
which is null or a flag. -/
theorem Step.isNull_eq (step : Step place part other) : part.isNull = other.isNull := by
  cases step <;> rfl

theorem Step.flag_eq (step : Step place part other) :
    flag Tree.refusing part = flag Tree.refusing other := by
  cases step <;> rfl

/-- The places below a record that stands at a place are those below the
record. -/
theorem Place.below_eq (decoded : place.kind? = some kind) :
    (∀ name, place.entry name = kind.place name)
      ∧ ∀ index, place.item index = kind.place (kind.names.getD index "") := by
  cases place with
  | record kind' =>
      cases decoded
      exact ⟨fun _ => rfl, fun _ => rfl⟩
  | whole =>
      cases decoded
      exact ⟨fun _ => rfl, fun _ => rfl⟩
  | _ => cases decoded

/-- What stands below a key fits there. -/
theorem fits_entry {before after : List (String × Tree)} {name : String}
    (fit : fits (budget + 1) place (.object (before ++ (name, part) :: after)) = true) :
    fits budget (place.entry name) part = true := by
  have mem : (name, part) ∈ before ++ (name, part) :: after :=
    List.mem_append_right _ List.mem_cons_self
  by_cases apart : place = .whole
  · rw [apart, fits_whole, readable_object] at fit
    exact fits_of_readable (fit _ mem)
  · exact (fits_object apart _).1 fit _ mem

/-- What stands in a list fits at its own place. -/
theorem fits_item {before after : List Tree}
    (fit : fits (budget + 1) place (.list (before ++ part :: after)) = true) :
    fits budget (place.item before.length) part = true := by
  by_cases apart : place = .whole
  · rw [apart, fits_whole, readable_list] at fit
    exact fits_of_readable (fit part (List.mem_append_right _ List.mem_cons_self))
  · refine (fits_list apart _).1 fit before.length part ?_
    rw [List.getElem?_append_right (Nat.le_refl _), Nat.sub_self, List.getElem?_cons_zero]

/-- What a record keeps is kept where it stands, as long as it fits there. -/
theorem kept_of_record (decoded : place.kind? = some kind)
    (flags : flag Tree.refusing part = flag Tree.refusing other)
    (fit : fits budget place other = true)
    (leads : Leads kind.Same (kind.read budget part) (kind.read budget other)) :
    Kept budget place part other := by
  cases place with
  | record kind' =>
      cases decoded
      exact .of_leads nofun leads
  | whole =>
      cases decoded
      rw [fits_whole] at fit
      exact .of_leads nofun (leads_additional flags (fun _ => fit) leads)
  | _ => cases decoded

-- The steps below are kept already, with one level of the budget less.
variable (below : ∀ {place : Place} {part other : Tree}, Step place part other →
  fits budget place other = true → Kept budget place part other)

include below

/-- After a step in a record its fields are filled alike. -/
theorem leads_fields_of_step (step : Step place part other)
    (fit : fits (budget + 1) place other = true) (decoded : place.kind? = some kind) :
    Leads (FilledAlike budget kind) (fields Tree.refusing (budget + 1) kind.names part)
      (fields Tree.refusing (budget + 1) kind.names other) := by
  obtain ⟨entries, items⟩ := Place.below_eq decoded
  cases step with
  | reorder _ perm => exact leads_fields_of_perm perm
  | unknown decoded' unheard =>
      obtain rfl := Option.some.inj (decoded.symm.trans decoded')
      exact leads_fields_unknown unheard
  | absent decoded' heard missing =>
      obtain rfl := Option.some.inj (decoded.symm.trans decoded')
      exact leads_fields_absent heard missing
  | entry inner =>
      have kept := below inner (fits_entry fit)
      rw [entries] at kept
      exact leads_fields_entry inner.isNull_eq kept
  | item inner =>
      have kept := below inner (fits_item fit)
      rw [items] at kept
      exact leads_fields_item inner.isNull_eq kept

/-- A step in a map, where every key counts, is a step in one of its parts
or a move. -/
theorem leads_map_of_step (step : Step (.map kind) part other)
    (fit : fits (budget + 1) (.map kind) other = true) :
    Leads (SameMap kind.Same) (map Tree.refusing (budget + 1) (kind.read budget) part)
      (map Tree.refusing (budget + 1) (kind.read budget) other) := by
  have self (inner : Tree) := (kept_refl budget (.record kind) inner).leads
  cases step with
  | reorder distinct perm => exact leads_map_of_perm distinct perm fun entry _ => self entry.2
  | unknown decoded => cases decoded
  | absent decoded => cases decoded
  | @entry _ _ _ name _ _ inner =>
      have kept : Kept budget (.record kind) _ _ := below inner (fits_entry fit)
      exact leads_map (forall₂_middle (fun entry => .intro entry.1 (self entry.2))
        (.intro name kept.leads))
  | item => exact .of_none (map_list _)

/-- A step in a list is one in an item. -/
theorem leads_list_of_step (step : Step (.list kind) part other)
    (fit : fits (budget + 1) (.list kind) other = true) :
    Leads (List.Forall₂ kind.Same) (list Tree.refusing (budget + 1) (kind.read budget) part)
      (list Tree.refusing (budget + 1) (kind.read budget) other) := by
  have self (inner : Tree) := (kept_refl budget (.record kind) inner).leads
  cases step with
  | reorder => exact .of_none (list_object _)
  | unknown decoded => cases decoded
  | absent decoded => cases decoded
  | entry => exact .of_none (list_object _)
  | item inner =>
      have kept : Kept budget (.record kind) _ _ := below inner (fits_item fit)
      exact leads_list (forall₂_middle self kept.leads)

end Steps

/-- A step leads from what is decoded at a place to what is decoded to the
same, as long as the result fits there. -/
theorem kept_of_step (step : Step place part other) (fit : fits budget place other = true) :
    Kept budget place part other := by
  induction budget generalizing place part other with
  | zero =>
      have nothing (kind : Kind) : Leads kind.Same (kind.read 0 part) (kind.read 0 other) :=
        .of_none (kind.read_zero part)
      cases place with
      | raw => exact .of_readsAlike (readsAlike_of_step step rfl)
      | record kind => exact kept_of_record rfl step.flag_eq fit (nothing kind)
      | whole => exact kept_of_record rfl step.flag_eq fit (nothing .schema)
      | map kind => exact .of_leads nofun (.of_none (map_zero (kind.read 0) part))
      | list kind => exact .of_leads nofun (.of_none (list_zero (kind.read 0) part))
  | succ budget ih =>
      cases place with
      | raw => exact .of_readsAlike (readsAlike_of_step step rfl)
      | record kind =>
          exact kept_of_record rfl step.flag_eq fit
            (leads_record (leads_fields_of_step ih step fit rfl))
      | whole =>
          exact kept_of_record rfl step.flag_eq fit
            (leads_record (leads_fields_of_step ih step fit rfl))
      | map kind => exact .of_leads nofun (leads_map_of_step ih step fit)
      | list kind => exact .of_leads nofun (leads_list_of_step ih step fit)

end Decoding

-- ================================================== any number of steps

open Decoding

/-- Objects in another order, keys that no record knows and known keys that
are null change nothing: whatever document a tree is decoded to, after any
number of such steps at any depth it is decoded to the same one, as long as
the parts that are read whole can be read in what has become of it. If one
of them cannot, nothing is decoded. -/
theorem Document.ofTree_of_changes {tree changed : Tree} {document : Document}
    (changes : Changes tree changed) (decoded : ofTree? tree = some document) :
    (fits Json.maxNesting (.record .document) changed = true →
        ∃ document', ofTree? changed = some document' ∧ document.Same document')
      ∧ (fits Json.maxNesting (.record .document) changed = false → ofTree? changed = none) := by
  constructor
  · intro fit
    induction changes with
    | refl => exact (kept_refl Json.maxNesting (.record .document) tree).leads document decoded
    | tail _ step ih =>
        obtain ⟨between, decoded', same⟩ := ih (fits_of_step step fit)
        obtain ⟨document', decoded'', same'⟩ := (kept_of_step step fit).leads between decoded'
        exact ⟨document', decoded'', same.trans same'⟩
  · intro misfit
    cases success : ofTree? changed with
    | none => rfl
    | some document' =>
        have fit : fits Json.maxNesting (.record .document) changed = true :=
          fits_of_isSome_read (Option.isSome_iff_exists.2 ⟨document', success⟩)
        rw [misfit] at fit
        cases fit

-- ---- a definition that says something about other keys

/-- A document with one definition, of objects that hold anything of one
schema. -/
def bagOf (keywords : List (String × Tree)) : Tree :=
  .object [("definitions", .object [("Bag", .object [("additionalProperties",
    .object keywords)])])]

/-- A step below `additionalProperties` is a step of the document. -/
theorem step_bagOf {keywords others : List (String × Tree)}
    (step : Step .whole (.object keywords) (.object others)) :
    Step (.record .document) (bagOf keywords) (bagOf others) := by
  have inSchema : Step (.record .schema) (.object [("additionalProperties", .object keywords)])
      (.object [("additionalProperties", .object others)]) :=
    @Step.entry _ [] [] "additionalProperties" _ _ step
  have inMap : Step (.map .schema)
      (.object [("Bag", .object [("additionalProperties", .object keywords)])])
      (.object [("Bag", .object [("additionalProperties", .object others)])]) :=
    @Step.entry _ [] [] "Bag" _ _ inSchema
  exact @Step.entry _ [] [] "definitions" _ _ inMap

/-- Lists in one another. -/
def nested : Nat → Tree
  | 0 => .list []
  | levels + 1 => .list [nested levels]

/-- A key that no schema knows, with a value of so many levels, before the
keywords of the schema for other keys. -/
def markedBag (levels : Nat) : Tree := bagOf [("x-mark", nested levels), ("type", .text "string")]

def plainBag : Tree := bagOf [("type", .text "string")]

theorem changes_markedBag (levels : Nat) : Changes plainBag (markedBag levels) :=
  .single (step_bagOf (@Step.unknown .whole .schema [] [("type", .text "string")] "x-mark" rfl
    (by decide) (nested levels)))

/-- The same bag with the key marked, the items null and the keywords in
another order. -/
def movedBag : Tree :=
  bagOf [("type", .text "string"), ("items", .null), ("x-mark", nested 2)]

theorem changes_movedBag : Changes plainBag movedBag := by
  have withNull : Step .whole
      (.object [("x-mark", nested 2), ("type", .text "string")])
      (.object [("x-mark", nested 2), ("items", .null), ("type", .text "string")]) :=
    @Step.absent .whole .schema [("x-mark", nested 2)] [("type", .text "string")] "items" rfl
      (by decide) (by decide)
  have turned : Step .whole
      (.object [("x-mark", nested 2), ("items", .null), ("type", .text "string")])
      (.object [("type", .text "string"), ("items", .null), ("x-mark", nested 2)]) :=
    .reorder (by decide) (List.reverse_perm _).symm
  exact ((changes_markedBag 2).tail (step_bagOf withNull)).tail (step_bagOf turned)

theorem bags_decoded : (Document.ofTree? plainBag).isSome = true
    ∧ fits Json.maxNesting (.record .document) movedBag = true
    ∧ (Document.ofTree? (markedBag 130)).isSome = false := by
  decide +kernel

theorem Document.ofTree_movedBag : ∃ document document', ofTree? plainBag = some document
    ∧ ofTree? movedBag = some document' ∧ document.Same document' := by
  obtain ⟨decodes, fit, -⟩ := bags_decoded
  obtain ⟨document, decoded⟩ := Option.isSome_iff_exists.1 decodes
  obtain ⟨document', decoded', same⟩ :=
    (Document.ofTree_of_changes changes_movedBag decoded).1 fit
  exact ⟨document, document', decoded, decoded', same⟩

/-- A key that no schema knows spoils the document if its value nests too
deep, because it stands in a part that is read whole. -/
theorem Document.ofTree_markedBag : Changes plainBag (markedBag 130)
    ∧ (ofTree? plainBag).isSome = true ∧ (ofTree? (markedBag 130)).isSome = false := by
  obtain ⟨decodes, -, refused⟩ := bags_decoded
  exact ⟨changes_markedBag 130, decodes, refused⟩

end OpenApiTypes
