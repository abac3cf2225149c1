/-
The order of names as an order, and what sorting by it leaves of the order
that the items came in: nothing where the names are distinct, and never more
than the places of items that are alike.

Both facts are about two runs. A map that is listed in another order sorts
to the same entries (`sortByName_eq_of_perm`), and lists that correspond one
by one still do so when each of them has been sorted (`forall₂_sortByName`).
What sorting computes is said by recursion on the items (`sortByName_cons`).
-/
import Mathlib.Data.List.Forall2
import Mathlib.Data.List.Nodup
import Mathlib.Data.List.Sort
import OpenApiTypes.Text.Order

namespace OpenApiTypes.Text

-- ====================================================== comparing

instance : Std.OrientedCmp compareNames where
  eq_swap {a b} := by
    unfold compareNames
    exact Std.OrientedCmp.eq_swap

instance : Std.TransCmp compareNames where
  isLE_trans {a b c} ab bc := by
    unfold compareNames at ab bc ⊢
    exact Std.TransCmp.isLE_trans ab bc

instance : Std.LawfulEqCmp compareNames where
  compare_self {a} := by
    unfold compareNames
    exact Std.ReflCmp.compare_self
  eq_of_compare {a b} level := by
    unfold compareNames at level
    exact utf8_injective (Std.LawfulEqCmp.eq_of_compare level)

/-- A name that may stand before a second one, which may stand before a
third, may stand before the third. -/
theorem nameLE_trans {a b c : String} (ab : nameLE a b = true) (bc : nameLE b c = true) :
    nameLE a c = true :=
  Std.TransCmp.isLE_trans ab bc

/-- Of two names one may stand before the other. -/
theorem nameLE_total (a b : String) : (nameLE a b || nameLE b a) = true := by
  have turned : compareNames a b = (compareNames b a).swap := Std.OrientedCmp.eq_swap
  unfold nameLE
  rw [turned]
  cases compareNames b a with
  | lt => rfl
  | eq => rfl
  | gt => rfl

/-- Two names that may stand before each other are one name. -/
theorem nameLE_antisymm {a b : String} (ab : nameLE a b = true) (ba : nameLE b a = true) :
    a = b :=
  Std.LawfulEqCmp.eq_of_compare (Std.OrientedCmp.isLE_antisymm ab ba)

-- ======================================================== sorting

section Sorting

variable {α β : Type} {name : α → String} {name' : β → String}

/-- Sorted items stand in the order of their names. -/
theorem pairwise_sortByName (items : List α) :
    (sortByName name items).Pairwise fun a b => nameLE (name a) (name b) = true :=
  List.pairwise_mergeSort (fun a b c => @nameLE_trans (name a) (name b) (name c))
    (fun a b => nameLE_total (name a) (name b)) items

/-- Items with distinct names stand in strictly ascending order when they are
sorted. -/
theorem pairwise_lt_sortByName {items : List α} (distinct : (items.map name).Nodup) :
    (sortByName name items).Pairwise fun a b => compareNames (name a) (name b) = .lt := by
  have apart : (sortByName name items).Pairwise fun a b => name a ≠ name b := by
    rw [← List.pairwise_map]
    exact ((sortByName_perm name items).map name).nodup_iff.2 distinct
  refine ((pairwise_sortByName items).and apart).imp fun {a b} both => ?_
  obtain ⟨may, differ⟩ := both
  rw [nameLE, Ordering.isLE_iff_eq_lt_or_eq_eq] at may
  rcases may with before | level
  · exact before
  · exact absurd (Std.LawfulEqCmp.eq_of_compare level) differ

/-- The order that items with distinct names come in does not outlive
sorting. -/
theorem sortByName_eq_of_perm {items others : List α} (distinct : (items.map name).Nodup)
    (moved : items.Perm others) : sortByName name items = sortByName name others := by
  have sorted : (sortByName name items).Perm (sortByName name others) :=
    (sortByName_perm name items).trans (moved.trans (sortByName_perm name others).symm)
  refine List.Perm.eq_of_pairwise ?_ (pairwise_sortByName items) (pairwise_sortByName others)
    sorted
  intro a b memA memB ab ba
  have inA : a ∈ items := (sortByName_perm name items).mem_iff.1 memA
  have inB : b ∈ items :=
    moved.mem_iff.2 ((sortByName_perm name others).mem_iff.1 memB)
  exact List.inj_on_of_nodup_map distinct inA inB (nameLE_antisymm ab ba)

/-- Lists that correspond one by one, name for name, correspond one by one
when each of them is sorted. -/
theorem forall₂_sortByName {R : α → β → Prop} (named : ∀ a b, R a b → name a = name' b)
    {items : List α} {others : List β} (related : List.Forall₂ R items others) :
    List.Forall₂ R (sortByName name items) (sortByName name' others) := by
  obtain ⟨length, each⟩ := List.forall₂_iff_zip.1 related
  -- Both lists are read off one list of pairs, which is sorted once.
  let pairs := items.zip others
  let sorted := pairs.mergeSort fun p q => nameLE (name p.1) (name q.1)
  have lefts : pairs.map Prod.fst = items := List.map_fst_zip (by omega)
  have rights : pairs.map Prod.snd = others := List.map_snd_zip (by omega)
  have left : sorted.map Prod.fst = sortByName name items := by
    unfold sortByName
    rw [← lefts]
    exact List.map_mergeSort fun _ _ _ _ => rfl
  have right : sorted.map Prod.snd = sortByName name' others := by
    unfold sortByName
    rw [← rights]
    refine List.map_mergeSort fun p memP q memQ => ?_
    rw [named _ _ (each memP), named _ _ (each memQ)]
  rw [← left, ← right, List.forall₂_map_left_iff, List.forall₂_map_right_iff, List.forall₂_same]
  intro p mem
  exact each (List.mem_mergeSort.1 mem)

/-- Sorting with one item more puts this item into its place among the
others. -/
theorem sortByName_cons (name : α → String) (item : α) (rest : List α) :
    sortByName name (item :: rest)
      = (sortByName name rest).orderedInsert
          (fun a b => nameLE (name a) (name b) = true) item := by
  obtain ⟨less, more, whole, parts, passed⟩ :=
    List.mergeSort_cons (fun a b c => @nameLE_trans (name a) (name b) (name c))
      (fun a b => nameLE_total (name a) (name b)) item rest
  have sorted : (sortByName name (item :: rest)).Pairwise fun a b =>
      nameLE (name a) (name b) = true := pairwise_sortByName _
  unfold sortByName at sorted ⊢
  rw [whole] at sorted
  rw [whole, parts, List.orderedInsert_eq_take_drop]
  have passed : ∀ b ∈ less, (decide ¬nameLE (name item) (name b) = true) = true := by
    simpa using passed
  rw [List.takeWhile_append_of_pos passed, List.dropWhile_append_of_pos passed]
  cases more with
  | nil => simp
  | cons next others =>
    have least : nameLE (name item) (name next) = true :=
      (List.pairwise_cons.1 (List.pairwise_append.1 sorted).2.1).1 next List.mem_cons_self
    simp [least]

/-- Sorting puts the items one by one into their places. In this form it can
be computed. -/
theorem sortByName_eq_insertionSort (name : α → String) (items : List α) :
    sortByName name items
      = items.insertionSort fun a b => nameLE (name a) (name b) = true := by
  induction items with
  | nil => simp [sortByName]
  | cons item rest ih => rw [sortByName_cons, List.insertionSort_cons, ih]

end Sorting

end OpenApiTypes.Text
