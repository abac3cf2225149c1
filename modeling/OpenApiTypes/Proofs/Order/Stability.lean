/-
What sorting by name keeps of the order that items came in: exactly the
order among those of one name. The sorted list is determined by its names
ascending and by what it holds of each name, in order (`eq_of_sorted`), so
two lists sort to the same items exactly when they hold, name by name, the
same items in the same order (`sortByName_eq_iff`).
-/
import OpenApiTypes.Proofs.Order.Names

namespace OpenApiTypes.Text

variable {α : Type} {name : α → String} {items others : List α}

/-- The items of one name, in their order. -/
def namesakes (name : α → String) (key : String) (items : List α) : List α :=
  items.filter fun item => name item = key

theorem mem_namesakes {key : String} {item : α} :
    item ∈ namesakes name key items ↔ item ∈ items ∧ name item = key := by
  simp [namesakes]

theorem namesakes_cons_self (item : α) (rest : List α) :
    namesakes name (name item) (item :: rest) = item :: namesakes name (name item) rest := by
  simp [namesakes]

/-- Sorting keeps the order of the items of one name. -/
theorem namesakes_sortByName (key : String) (items : List α) :
    namesakes name key (sortByName name items) = namesakes name key items := by
  have level : (namesakes name key items).Pairwise fun a b => nameLE (name a) (name b) = true := by
    rw [List.pairwise_iff_forall_sublist]
    intro a b pair
    have sameA := (mem_namesakes.1 (pair.mem (by simp : a ∈ [a, b]))).2
    have sameB := (mem_namesakes.1 (pair.mem (by simp : b ∈ [a, b]))).2
    have reflexive : compareNames key key = .eq := Std.ReflCmp.compare_self
    rw [sameA, sameB, nameLE, reflexive]
    rfl
  have kept : (namesakes name key items).Sublist (sortByName name items) :=
    List.sublist_mergeSort (fun a b c => @nameLE_trans (name a) (name b) (name c))
      (fun a b => nameLE_total (name a) (name b)) level List.filter_sublist
  have within : (namesakes name key items).Sublist
      (namesakes name key (sortByName name items)) := by
    have again := kept.filter fun item => decide (name item = key)
    simpa only [namesakes, List.filter_filter, Bool.and_self] using again
  have count : (namesakes name key (sortByName name items)).length
      = (namesakes name key items).length :=
    ((sortByName_perm name items).filter _).length_eq
  exact (within.eq_of_length count.symm).symm

/-- What holds the same items of each name holds the same items. -/
theorem mem_of_namesakes_eq (same : ∀ key, namesakes name key items = namesakes name key others)
    {item : α} (mem : item ∈ items) : item ∈ others := by
  have listed : item ∈ namesakes name (name item) items := mem_namesakes.2 ⟨mem, rfl⟩
  rw [same] at listed
  exact (mem_namesakes.1 listed).1

/-- Lists in ascending order that hold the same items of each name, in the
same order, are one list. -/
theorem eq_of_sorted
    (sorted : items.Pairwise fun a b => nameLE (name a) (name b) = true)
    (sorted' : others.Pairwise fun a b => nameLE (name a) (name b) = true)
    (same : ∀ key, namesakes name key items = namesakes name key others) : items = others := by
  have backwards : ∀ key, namesakes name key others = namesakes name key items :=
    fun key => (same key).symm
  induction items generalizing others with
  | nil =>
      cases others with
      | nil => rfl
      | cons other others =>
          exact absurd (mem_of_namesakes_eq backwards List.mem_cons_self) List.not_mem_nil
  | cons item items ih =>
      cases others with
      | nil => exact absurd (mem_of_namesakes_eq same List.mem_cons_self) List.not_mem_nil
      | cons other others =>
          obtain ⟨least, later⟩ := List.pairwise_cons.1 sorted
          obtain ⟨least', later'⟩ := List.pairwise_cons.1 sorted'
          -- Each of the two heads stands in the other list too, so neither
          -- comes before the other; the first of their name is then the same.
          have named : name item = name other := by
            rcases List.mem_cons.1 (mem_of_namesakes_eq same List.mem_cons_self) with rfl | mem
            · rfl
            · rcases List.mem_cons.1 (mem_of_namesakes_eq backwards List.mem_cons_self)
                with rfl | mem'
              · rfl
              · exact nameLE_antisymm (least other mem') (least' item mem)
          have first := same (name item)
          rw [namesakes_cons_self, named, namesakes_cons_self] at first
          obtain ⟨rfl, -⟩ := List.cons.inj first
          have rest : ∀ key, namesakes name key items = namesakes name key others := by
            intro key
            have whole := same key
            unfold namesakes at whole ⊢
            rw [List.filter_cons, List.filter_cons] at whole
            split at whole
            · exact (List.cons.inj whole).2
            · exact whole
          rw [ih later later' rest fun key => (rest key).symm]

/-- Two lists sort to the same items exactly when they hold the same items of
each name, in the same order. -/
theorem sortByName_eq_iff :
    sortByName name items = sortByName name others
      ↔ ∀ key, namesakes name key items = namesakes name key others := by
  constructor
  · intro same key
    rw [← namesakes_sortByName, same, namesakes_sortByName]
  · intro same
    refine eq_of_sorted (pairwise_sortByName items) (pairwise_sortByName others) fun key => ?_
    rw [namesakes_sortByName, namesakes_sortByName, same]

end OpenApiTypes.Text
