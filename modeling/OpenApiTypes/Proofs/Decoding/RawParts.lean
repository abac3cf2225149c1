/-
Raw parts: what a field takes as it is, a text, a flag, a list of names or
any value. Nothing in them is a record, so that no key is unknown and null
is a value like others. The order of keys does not show all the same, since
an object is kept sorted, and one that is given where no object may stand is
refused however it is ordered.
-/
import OpenApiTypes.Proofs.Decoding.Records

namespace OpenApiTypes.Decoding

variable {budget : Nat} {place : Place} {part other : Tree}

-- ========================================================= values

theorem value_list (budget : Nat) (items : List Tree) :
    value Tree.refusing (budget + 1) (.list items)
      = Json.array <$> items.mapM (value Tree.refusing budget) := by
  delta value
  rfl

theorem value_object (budget : Nat) (entries : List (String × Tree)) :
    value Tree.refusing (budget + 1) (.object entries)
      = Json.ofEntries <$> entries.mapM fun entry =>
          (entry.1, ·) <$> value Tree.refusing budget entry.2 := by
  have each (entry : String × Tree) :
      (do let key ← text Tree.refusing (.text entry.1)
          let value ← value Tree.refusing budget entry.2
          pure (key, value)) = (entry.1, ·) <$> value Tree.refusing budget entry.2 := by
    cases value Tree.refusing budget entry.2 with
    | none => rfl
    | some value => rfl
  rw [← funext each]
  delta value
  exact congrArg (Option.map Json.ofEntries) (List.mapM_map (m := Option))

/-- Objects that give the same value read alike, since there is nothing else
that an object can give. -/
theorem readsAlike_object {entries others : List (String × Tree)}
    (same : ∀ budget, value Tree.refusing (budget + 1) (.object entries)
      = value Tree.refusing (budget + 1) (.object others)) :
    ReadsAlike (.object entries) (.object others) where
  text := rfl
  flag := rfl
  value
    | 0 => by
        delta Decoding.value
        rfl
    | budget + 1 => same budget
  texts budget := by rw [list_object, list_object]
  values budget inner := by rw [list_object, list_object]
  types budget := by
    rw [tree_eq, tree_eq]
    split <;> split <;> rfl

/-- A list of readings does not change with one that reads the same. -/
theorem mapM_middle {α β : Type} {f : α → Option β} {before after : List α} {item item' : α}
    (same : f item = f item') :
    (before ++ item :: after).mapM f = (before ++ item' :: after).mapM f := by
  rw [List.mapM_append, List.mapM_append, List.mapM_cons, List.mapM_cons, same]

theorem mapM_eq_none {α β : Type} {f : α → Option β} {before after : List α} {item : α}
    (fails : f item = none) : (before ++ item :: after).mapM f = none := by
  rw [List.mapM_append, List.mapM_cons, fails]
  cases before.mapM f <;> rfl

/-- Lists read alike if one item is exchanged for one that reads alike. -/
theorem readsAlike_list {before after : List Tree} (inner : ReadsAlike part other) :
    ReadsAlike (.list (before ++ part :: after)) (.list (before ++ other :: after)) where
  text := rfl
  flag := rfl
  value
    | 0 => by
        delta Decoding.value
        rfl
    | budget + 1 => by rw [value_list, value_list, mapM_middle (inner.value budget)]
  texts
    | 0 => by rw [list_zero, list_zero]
    | budget + 1 => by rw [list_list, list_list, mapM_middle inner.text]
  values
    | 0, _ => by rw [list_zero, list_zero]
    | budget + 1, depth => by rw [list_list, list_list, mapM_middle (inner.value depth)]
  types budget := by
    cases named : Decoding.text Tree.refusing part with
    | some name =>
        have named' := inner.text.symm.trans named
        rw [text_eq_some.1 named, text_eq_some.1 named']
    | none =>
        -- An item that is no text is no type name, whether or not it can be read.
        have refused {item : Tree} (unnamed : Decoding.text Tree.refusing item = none) :
            typeNames Tree.refusing (.list (before ++ item :: after)) = none :=
          Option.map_eq_none_iff.2 (mapM_eq_none unnamed)
        have here := refused named
        have there := refused (inner.text.symm.trans named)
        rw [tree_eq, tree_eq]
        split <;> split <;> simp [here, there]

/-- The object that entries with distinct keys denote does not depend on
their order. -/
theorem ofEntries_eq_of_perm {entries moved : List (String × Json)}
    (distinct : (entries.map Prod.fst).Nodup) (perm : entries.Perm moved) :
    Json.ofEntries entries = Json.ofEntries moved := by
  have distinct' : (moved.map Prod.fst).Nodup := (perm.map Prod.fst).nodup_iff.1 distinct
  unfold Json.ofEntries
  rw [lastEntries_of_nodup distinct, lastEntries_of_nodup distinct']
  exact congrArg Json.object (Text.sortByName_eq_of_perm distinct perm)

/-- An object reads alike in whatever order it lists its entries. -/
theorem readsAlike_of_perm {entries moved : List (String × Tree)}
    (distinct : (entries.map Prod.fst).Nodup) (perm : entries.Perm moved) :
    ReadsAlike (.object entries) (.object moved) := by
  have leads {entries moved : List (String × Tree)} (distinct : (entries.map Prod.fst).Nodup)
      (perm : entries.Perm moved) (budget : Nat) :
      Leads Eq (value Tree.refusing (budget + 1) (.object entries))
        (value Tree.refusing (budget + 1) (.object moved)) := by
    rw [value_object, value_object]
    intro result read
    obtain ⟨values, readValues, rfl⟩ := Option.map_eq_some_iff.1 read
    obtain ⟨values', read', perm'⟩ := leads_mapM_of_perm perm values readValues
    have distinct' : (values.map Prod.fst).Nodup := by
      rw [map_fst_of_mapM readValues]
      exact distinct
    exact ⟨_, Option.map_eq_some_iff.2 ⟨values', read', rfl⟩, ofEntries_eq_of_perm distinct' perm'⟩
  refine readsAlike_object fun budget => eq_of_leads (leads distinct perm budget) ?_
  exact leads ((perm.map Prod.fst).nodup_iff.1 distinct) perm.symm budget

/-- A step in a raw part does not change how it reads. -/
theorem readsAlike_of_step (step : Step place part other) (raw : place = .raw) :
    ReadsAlike part other := by
  induction step with
  | reorder distinct perm => exact readsAlike_of_perm distinct perm
  | unknown decoded =>
      subst raw
      cases decoded
  | absent decoded =>
      subst raw
      cases decoded
  | entry _ ih =>
      subst raw
      refine readsAlike_object fun budget => ?_
      rw [value_object, value_object, mapM_middle]
      rw [(ih rfl).value budget]
  | item _ ih =>
      subst raw
      exact readsAlike_list (ih rfl)

end OpenApiTypes.Decoding
