/-
Being the same up to order, over several steps. Maps that hold the same are
exactly those that stand beside each other once the entries of the first are
moved (`SameMap.of_moved`), so that two such steps make one, and from maps
this carries over to schemas and to whole documents (`Document.Same.trans`).
-/
import Mathlib.Data.List.Perm.Basic
import OpenApiTypes.Proofs.Compilation.EntryOrder

namespace OpenApiTypes

-- ============================================================= maps

section Maps

variable {α : Type} {R : α → α → Prop} {entries moved others further : List (String × α)}

/-- Lists that stand beside each other split at the same place. -/
theorem exists_split_of_forall₂ {β : Type} {S : α → β → Prop} {before after : List α}
    {others : List β} (beside : List.Forall₂ S (before ++ after) others) :
    ∃ front back, others = front ++ back ∧ List.Forall₂ S before front
      ∧ List.Forall₂ S after back := by
  have inFront := List.forall₂_take before.length beside
  have inBack := List.forall₂_drop before.length beside
  rw [List.take_left] at inFront
  rw [List.drop_left] at inBack
  exact ⟨_, _, (List.take_append_drop before.length others).symm, inFront, inBack⟩

/-- Maps that stand beside each other once the entries of the first are
moved hold the same. -/
theorem SameMap.of_moved (distinct : (entries.map Prod.fst).Nodup) (perm : entries.Perm moved)
    (beside : List.Forall₂ (SameKey R) moved others) : SameMap R entries others := by
  induction entries generalizing moved others with
  | nil =>
      obtain rfl := perm.nil_eq
      cases beside
      exact .nil
  | cons entry rest ih =>
      obtain ⟨key, value⟩ := entry
      obtain ⟨fresh, distinct⟩ := List.nodup_cons.1 distinct
      obtain ⟨before, after, rfl⟩ := List.append_of_mem (perm.mem_iff.1 List.mem_cons_self)
      have perm' : rest.Perm (before ++ after) :=
        (List.perm_cons _).1 (perm.trans List.perm_middle)
      obtain ⟨front, back, rfl, inFront, inBack⟩ := exists_split_of_forall₂ beside
      cases inBack with
      | cons first inBack =>
          cases first with
          | intro _ related =>
              exact .cons fresh related (ih distinct perm' (List.rel_append inFront inBack))

/-- What is related to the same in the middle is linked one by one. -/
theorem forall₂_comp {β γ δ : Type} {S : β → γ → Prop} {T : γ → δ → Prop} {as : List β}
    {bs : List γ} {cs : List δ} (first : List.Forall₂ S as bs) (second : List.Forall₂ T bs cs) :
    List.Forall₂ (Relation.Comp S T) as cs := by
  induction first generalizing cs with
  | nil =>
      cases second
      exact .nil
  | cons head _ ih =>
      cases second with
      | cons head' tail' => exact .cons ⟨_, head, head'⟩ (ih tail')

/-- Two steps between maps make one, of two steps for each value. -/
theorem SameMap.comp {S : α → α → Prop} (same : SameMap R entries others)
    (same' : SameMap S others further) : SameMap (Relation.Comp R S) entries further := by
  obtain ⟨moved, perm, beside⟩ := same.exists_moved
  obtain ⟨moved', perm', beside'⟩ := same'.exists_moved
  -- The second move can be made in the first map already.
  have swapped : Relation.Comp List.Perm (List.Forall₂ (SameKey R)) moved moved' := by
    rw [← List.forall₂_comp_perm_eq_perm_comp_forall₂]
    exact ⟨others, beside, perm'⟩
  obtain ⟨middle, permMiddle, besideMiddle⟩ := swapped
  refine .of_moved same.distinct (perm.trans permMiddle) ?_
  refine (forall₂_comp besideMiddle beside').imp fun entry value link => ?_
  obtain ⟨between, link, link'⟩ := link
  cases link with
  | intro key related =>
      cases link' with
      | intro _ related' => exact .intro key ⟨_, related, related'⟩

/-- Maps that hold what is related hold what is related in any way that
follows for the values of the first. -/
theorem SameMap.imp {S : α → α → Prop}
    (implies : ∀ entry ∈ entries, ∀ other, R entry.2 other → S entry.2 other)
    (same : SameMap R entries others) : SameMap S entries others := by
  induction same with
  | nil => exact .nil
  | cons fresh related _ ih =>
      refine .cons fresh (implies _ List.mem_cons_self _ related) (ih fun entry mem => ?_)
      exact implies entry (List.mem_cons_of_mem _ mem)

/-- Two optional steps make one. -/
theorem rel_comp {β γ δ : Type} {S : β → γ → Prop} {T : γ → δ → Prop} {a : Option β}
    {b : Option γ} {c : Option δ} (first : Option.Rel S a b) (second : Option.Rel T b c) :
    Option.Rel (Relation.Comp S T) a c := by
  cases first with
  | none =>
      cases second
      exact .none
  | some head =>
      cases second with
      | some head' => exact .some ⟨_, head, head'⟩

end Maps

-- ============================================== schemas and documents

/-- Two steps between schemas make one. -/
theorem Schema.Same.trans {schema other further : Schema} (same : schema.Same other)
    (same' : other.Same further) : schema.Same further := by
  induction schema using Schema.induction generalizing other further with
  | step schema ih =>
      have link (child : Schema) (mem : child ∈ schema.children) (beside : Schema)
          (steps : Relation.Comp Schema.Same Schema.Same child beside) : child.Same beside := by
        obtain ⟨between, first, second⟩ := steps
        exact ih child mem first second
      have each {parts others : List Schema} (inside : ∀ part ∈ parts, part ∈ schema.children)
          (steps : Relation.Comp (List.Forall₂ Schema.Same) (List.Forall₂ Schema.Same) parts
            others) : List.Forall₂ Schema.Same parts others := by
        obtain ⟨between, first, second⟩ := steps
        exact forall₂_imp_of_mem (fun part mem => link part (inside part mem))
          (forall₂_comp first second)
      cases same with
      | intro own properties items anyOf oneOf allOf additional =>
      cases same' with
      | intro own' properties' items' anyOf' oneOf' allOf' additional' =>
          refine .intro (own.trans own') ?_ ?_ ?_ ?_ ?_ ?_
          · refine rel_imp_of_mem (fun entries given others steps => ?_)
              (rel_comp properties properties')
            obtain ⟨between, first, second⟩ := steps
            refine (first.comp second).imp fun entry mem => link _ ?_
            exact mem_children_of_property (by rw [given]; exact mem)
          · exact rel_imp_of_mem (fun _ given => link _ (mem_children_of_items given))
              (rel_comp items items')
          · exact rel_imp_of_mem (fun _ given _ => each fun _ => mem_children_of_anyOf given)
              (rel_comp anyOf anyOf')
          · exact rel_imp_of_mem (fun _ given _ => each fun _ => mem_children_of_oneOf given)
              (rel_comp oneOf oneOf')
          · exact rel_imp_of_mem (fun _ given _ => each fun _ => mem_children_of_allOf given)
              (rel_comp allOf allOf')
          · refine rel_imp_of_mem (fun _ given _ steps => ?_) (rel_comp additional additional')
            obtain ⟨between, first, second⟩ := steps
            cases first with
            | allowed value =>
                cases second
                exact .allowed value
            | each first =>
                cases second with
                | each second =>
                    exact .each (link _ (mem_children_of_additional given) _
                      ⟨_, first, second⟩)

/-- Two steps between optional maps make one if they do between the
values. -/
theorem rel_sameMap_trans {α : Type} {R : α → α → Prop}
    {map other further : Option (List (String × α))} (same : Option.Rel (SameMap R) map other)
    (same' : Option.Rel (SameMap R) other further) (trans : ∀ a b c, R a b → R b c → R a c) :
    Option.Rel (SameMap R) map further := by
  refine rel_imp_of_mem (fun entries _ others steps => ?_) (rel_comp same same')
  obtain ⟨between, first, second⟩ := steps
  refine (first.comp second).imp fun _ _ _ links => ?_
  obtain ⟨between, link, link'⟩ := links
  exact trans _ _ _ link link'

theorem MediaType.Same.trans {media other further : MediaType} (same : media.Same other)
    (same' : other.Same further) : media.Same further := by
  refine ⟨rel_imp_of_mem (fun _ _ _ steps => ?_) (rel_comp same.schema same'.schema)⟩
  obtain ⟨between, first, second⟩ := steps
  exact first.trans second

theorem Payload.Same.trans {payload other further : Payload} (same : payload.Same other)
    (same' : other.Same further) : payload.Same further :=
  ⟨same.description.trans same'.description,
    rel_sameMap_trans same.content same'.content fun _ _ _ => MediaType.Same.trans⟩

theorem Components.Same.trans {components other further : Components}
    (same : components.Same other) (same' : other.Same further) : components.Same further :=
  ⟨rel_sameMap_trans same.schemas same'.schemas fun _ _ _ => Schema.Same.trans,
    rel_sameMap_trans same.responses same'.responses fun _ _ _ => Payload.Same.trans,
    rel_sameMap_trans same.requestBodies same'.requestBodies fun _ _ _ => Payload.Same.trans⟩

/-- Two steps between documents make one. -/
theorem Document.Same.trans {document other further : Document} (same : document.Same other)
    (same' : other.Same further) : document.Same further := by
  refine ⟨rel_imp_of_mem (fun _ _ _ steps => ?_) (rel_comp same.components same'.components),
    rel_sameMap_trans same.definitions same'.definitions fun _ _ _ => Schema.Same.trans⟩
  obtain ⟨between, first, second⟩ := steps
  exact first.trans second

end OpenApiTypes
