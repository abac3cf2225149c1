/-
Reading trees. A tree stands for itself and reads as nothing but what it is,
so a reader is known by what it makes of a list, of an object and of a part
that fills a field or leaves it empty.

Two readings are compared by `Leads`: where the first one succeeds so does
the second, with a value related to the first. Every decoder is readings
bound to one another, and `Leads` goes through binding, so two runs of a
decoder are compared along its own text.
-/
import OpenApiTypes.Document.Decoding
import OpenApiTypes.Proofs.Compilation.SameMaps

namespace OpenApiTypes

/-- An object: a map whose keys are texts. -/
def Tree.object (entries : List (String × Tree)) : Tree :=
  .map (entries.map fun entry => (.text entry.1, entry.2))

/-- A map whose keys are texts is an object. -/
theorem Tree.exists_object {entries : List (Tree × Tree)}
    (texts : ∀ entry ∈ entries, ∃ name, entry.1 = .text name) :
    ∃ entries', Tree.map entries = .object entries' := by
  induction entries with
  | nil => exact ⟨[], rfl⟩
  | cons entry rest ih =>
      obtain ⟨key, part⟩ := entry
      obtain ⟨name, rfl⟩ := texts _ List.mem_cons_self
      obtain ⟨rest', same⟩ := ih fun entry mem => texts entry (List.mem_cons_of_mem _ mem)
      obtain rfl := Tree.map.inj same
      exact ⟨(name, part) :: rest', rfl⟩

/-- Whether a tree is null. -/
def Tree.isNull : Tree → Bool
  | .null => true
  | _ => false

-- ====================================================== two readings

/-- Where the first reading succeeds so does the second, and their values
are related. -/
def Leads {α β : Type} (R : α → β → Prop) (reading : Option α) (other : Option β) : Prop :=
  ∀ value, reading = some value → ∃ value', other = some value' ∧ R value value'

section Leads

variable {α β γ δ : Type} {R : α → β → Prop} {S : γ → δ → Prop} {reading : Option α}
  {other : Option β}

theorem Leads.of_none (fails : reading = none) : Leads R reading other := by
  intro value read
  rw [fails] at read
  cases read

theorem Leads.pure {value : α} {value' : β} (related : R value value') :
    Leads R (some value) (some value') := by
  intro given read
  cases read
  exact ⟨value', rfl, related⟩

theorem Leads.of_eq {reading' : Option α} (same : reading = reading') :
    Leads Eq reading reading' := by
  subst same
  exact fun value read => ⟨value, read, rfl⟩

theorem Leads.bind {next : α → Option γ} {next' : β → Option δ} (first : Leads R reading other)
    (rest : ∀ value value', R value value' → Leads S (next value) (next' value')) :
    Leads S (reading >>= next) (other >>= next') := by
  intro result read
  obtain ⟨value, readFirst, readRest⟩ := Option.bind_eq_some_iff.1 read
  obtain ⟨value', readFirst', related⟩ := first value readFirst
  obtain ⟨result', readRest', related'⟩ := rest value value' related result readRest
  exact ⟨result', Option.bind_eq_some_iff.2 ⟨value', readFirst', readRest'⟩, related'⟩

theorem Leads.map {f : α → γ} {g : β → δ} (first : Leads R reading other)
    (related : ∀ value value', R value value' → S (f value) (g value')) :
    Leads S (f <$> reading) (g <$> other) := by
  intro result read
  obtain ⟨value, readFirst, rfl⟩ := Option.map_eq_some_iff.1 read
  obtain ⟨value', readFirst', same⟩ := first value readFirst
  exact ⟨g value', Option.map_eq_some_iff.2 ⟨value', readFirst', rfl⟩, related value value' same⟩

/-- Readings that lead to each other with the same value are one reading. -/
theorem eq_of_leads {left right : Option α} (there : Leads Eq left right)
    (back : Leads Eq right left) : left = right := by
  refine Option.ext fun value => ⟨fun read => ?_, fun read => ?_⟩
  · obtain ⟨_, read', rfl⟩ := there value read
    exact read'
  · obtain ⟨_, read', rfl⟩ := back value read
    exact read'

/-- A list of readings succeeds when each of them does. -/
theorem mapM_eq_some {f : α → Option γ} {items : List α} {results : List γ} :
    items.mapM f = some results ↔ List.Forall₂ (fun a c => f a = some c) items results := by
  induction items generalizing results with
  | nil => simp [eq_comm]
  | cons item rest ih =>
      rw [List.mapM_cons]
      constructor
      · intro read
        obtain ⟨first, readFirst, read⟩ := Option.bind_eq_some_iff.1 read
        obtain ⟨others, readOthers, read⟩ := Option.bind_eq_some_iff.1 read
        cases read
        exact .cons readFirst (ih.1 readOthers)
      · intro read
        cases read with
        | cons readFirst readOthers =>
            exact Option.bind_eq_some_iff.2 ⟨_, readFirst,
              Option.bind_eq_some_iff.2 ⟨_, ih.2 readOthers, rfl⟩⟩

theorem Leads.mapM {f : α → Option γ} {g : β → Option δ} {items : List α} {others : List β}
    (each : List.Forall₂ (fun a b => Leads S (f a) (g b)) items others) :
    Leads (List.Forall₂ S) (items.mapM f) (others.mapM g) := by
  induction each with
  | nil => exact .pure .nil
  | cons first _ ih =>
      rw [List.mapM_cons, List.mapM_cons]
      exact first.bind fun _ _ head => ih.bind fun _ _ tail => .pure (.cons head tail)

/-- Readings in another order give the same values in another order. -/
theorem leads_mapM_of_perm {f : α → Option γ} {items moved : List α} (perm : items.Perm moved) :
    Leads List.Perm (items.mapM f) (moved.mapM f) := by
  intro results read
  obtain ⟨results', read', perm'⟩ := List.perm_comp_forall₂ perm.symm (mapM_eq_some.1 read)
  exact ⟨results', mapM_eq_some.2 read', perm'.symm⟩

end Leads

-- ===================================================== repeated keys

section LastEntries

variable {α : Type} {R : α → α → Prop} {entries others : List (String × α)}

theorem any_key_iff {key : String} :
    entries.any (·.1 == key) = true ↔ key ∈ entries.map Prod.fst := by
  simp only [List.any_eq_true, beq_iff_eq, List.mem_map]

theorem mem_keys_of_lastEntries {key : String}
    (mem : key ∈ (lastEntries entries).map Prod.fst) : key ∈ entries.map Prod.fst := by
  induction entries with
  | nil => exact mem
  | cons entry rest ih =>
      rw [lastEntries] at mem
      split at mem
      · exact List.mem_cons_of_mem _ (ih mem)
      · rcases List.mem_cons.1 mem with same | mem
        · exact same ▸ List.mem_cons_self
        · exact List.mem_cons_of_mem _ (ih mem)

/-- The last entries have distinct keys. -/
theorem nodup_keys_lastEntries (entries : List (String × α)) :
    ((lastEntries entries).map Prod.fst).Nodup := by
  induction entries with
  | nil => exact List.nodup_nil
  | cons entry rest ih =>
      rw [lastEntries]
      split
      · exact ih
      · rename_i fresh
        exact List.nodup_cons.2
          ⟨fun mem => fresh (any_key_iff.2 (mem_keys_of_lastEntries mem)), ih⟩

/-- With distinct keys every entry is the last one. -/
theorem lastEntries_of_nodup (distinct : (entries.map Prod.fst).Nodup) :
    lastEntries entries = entries := by
  induction entries with
  | nil => rfl
  | cons entry rest ih =>
      obtain ⟨fresh, distinct⟩ := List.nodup_cons.1 distinct
      rw [lastEntries, if_neg fun again => fresh (any_key_iff.1 again), ih distinct]

/-- Maps that stand beside each other have the same keys. -/
theorem map_fst_eq_of_forall₂ (beside : List.Forall₂ (SameKey R) entries others) :
    entries.map Prod.fst = others.map Prod.fst := by
  induction beside with
  | nil => rfl
  | cons first _ ih => rw [List.map_cons, List.map_cons, first.key, ih]

/-- The last entries of maps that stand beside each other do so too. -/
theorem forall₂_lastEntries (beside : List.Forall₂ (SameKey R) entries others) :
    List.Forall₂ (SameKey R) (lastEntries entries) (lastEntries others) := by
  induction beside with
  | nil => exact .nil
  | @cons entry other rest rest' first later ih =>
      have again : rest.any (·.1 == entry.1) = rest'.any (·.1 == other.1) := by
        have keys := congrArg (List.any · (· == entry.1)) (map_fst_eq_of_forall₂ later)
        simpa only [List.any_map, Function.comp_def, first.key] using keys
      rw [lastEntries, lastEntries, again]
      split
      · exact ih
      · exact .cons first ih

end LastEntries

-- ==================================================== lists and maps

namespace Decoding

section Containers

variable {budget : Nat} {α : Type} {R : α → α → Prop} {read : Tree → Option α} {part other : Tree}

/-- Only a text reads as text. -/
theorem text_eq_some {name : String} : text Tree.refusing part = some name ↔ part = .text name := by
  constructor
  · intro given
    cases part with
    | text name' =>
        cases given
        rfl
    | number value => cases value <;> cases given
    | _ => cases given
  · intro same
    subst same
    rfl

@[simp] theorem list_zero (read : Tree → Option α) (part : Tree) :
    list Tree.refusing 0 read part = none := by
  cases part with
  | number value => cases value <;> rfl
  | _ => rfl

@[simp] theorem list_list (items : List Tree) :
    list Tree.refusing (budget + 1) read (.list items) = items.mapM read := rfl

@[simp] theorem list_object (entries : List (String × Tree)) :
    list Tree.refusing budget read (.object entries) = none := by
  cases budget <;> rfl

/-- Only a list reads as a list. -/
theorem list_eq_some {results : List α}
    (given : list Tree.refusing (budget + 1) read part = some results) :
    ∃ items, part = .list items ∧ items.mapM read = some results := by
  cases part with
  | list items => exact ⟨items, rfl, given⟩
  | number value => cases value <;> cases given
  | _ => cases given

@[simp] theorem map_zero (read : Tree → Option α) (part : Tree) :
    map Tree.refusing 0 read part = none := by
  cases part with
  | number value => cases value <;> rfl
  | _ => rfl

@[simp] theorem map_list (items : List Tree) :
    map Tree.refusing budget read (.list items) = none := by
  cases budget <;> rfl

/-- The entries of an object are read one by one, each beside its key. -/
theorem map_object (entries : List (String × Tree)) :
    map Tree.refusing (budget + 1) read (.object entries)
      = lastEntries <$> entries.mapM fun entry => (entry.1, ·) <$> read entry.2 := by
  have each (entry : String × Tree) :
      (do let key ← text Tree.refusing (.text entry.1)
          let value ← read entry.2
          pure (key, value)) = (entry.1, ·) <$> read entry.2 := by
    cases read entry.2 with
    | none => rfl
    | some value => rfl
  rw [← funext each]
  exact congrArg (Option.map lastEntries) (List.mapM_map (m := Option))

/-- Only an object reads as a map. -/
theorem exists_object_of_map {results : List (String × α)}
    (given : map Tree.refusing (budget + 1) read part = some results) :
    ∃ entries, part = .object entries := by
  cases part with
  | map entries =>
      obtain ⟨pairs, given, -⟩ := Option.map_eq_some_iff.1 given
      have texts : ∀ entry ∈ entries, ∃ name, entry.1 = .text name := by
        intro entry mem
        obtain ⟨_, -, given⟩ := Lowering.exists_of_mem_left (mapM_eq_some.1 given) mem
        obtain ⟨name, given, -⟩ := Option.bind_eq_some_iff.1 given
        exact ⟨name, text_eq_some.1 given⟩
      exact Tree.exists_object texts
  | number value => cases value <;> cases given
  | _ => cases given

/-- Lists whose items lead to one another lead to lists of related
values. -/
theorem leads_list {items others : List Tree}
    (beside : List.Forall₂ (fun item item' => Leads R (read item) (read item')) items others) :
    Leads (List.Forall₂ R) (list Tree.refusing budget read (.list items))
      (list Tree.refusing budget read (.list others)) := by
  cases budget with
  | zero => exact .of_none (list_zero read _)
  | succ budget =>
      rw [list_list, list_list]
      exact Leads.mapM beside

/-- Objects whose parts lead to one another lead to maps that hold the
same. -/
theorem leads_map {entries others : List (String × Tree)}
    (beside : List.Forall₂ (SameKey fun part part' => Leads R (read part) (read part'))
      entries others) :
    Leads (SameMap R) (map Tree.refusing budget read (.object entries))
      (map Tree.refusing budget read (.object others)) := by
  cases budget with
  | zero => exact .of_none (map_zero read _)
  | succ budget =>
      have values : Leads (List.Forall₂ (SameKey R))
          (entries.mapM fun entry => (entry.1, ·) <$> read entry.2)
          (others.mapM fun entry => (entry.1, ·) <$> read entry.2) := by
        refine Leads.mapM (beside.imp fun entry entry' same => ?_)
        cases same with
        | intro key leads => exact leads.map fun _ _ related => .intro key related
      rw [map_object, map_object]
      refine values.map fun values values' same => ?_
      exact .of_moved (nodup_keys_lastEntries values) (.refl _) (forall₂_lastEntries same)

/-- The keys of a map that is read are those of the object. -/
theorem map_fst_of_mapM {entries : List (String × Tree)} {results : List (String × α)}
    (given : (entries.mapM fun entry => (entry.1, ·) <$> read entry.2) = some results) :
    results.map Prod.fst = entries.map Prod.fst := by
  have beside := mapM_eq_some.1 given
  clear given
  induction beside with
  | nil => rfl
  | cons first _ ih =>
      obtain ⟨value, -, rfl⟩ := Option.map_eq_some_iff.1 first
      rw [List.map_cons, List.map_cons, ih]

/-- An object leads to the same map in whatever order it lists its
entries. -/
theorem leads_map_of_perm {entries moved : List (String × Tree)}
    (distinct : (entries.map Prod.fst).Nodup) (perm : entries.Perm moved)
    (self : ∀ entry ∈ entries, Leads R (read entry.2) (read entry.2)) :
    Leads (SameMap R) (map Tree.refusing budget read (.object entries))
      (map Tree.refusing budget read (.object moved)) := by
  cases budget with
  | zero => exact .of_none (map_zero read _)
  | succ budget =>
      rw [map_object, map_object]
      intro results given
      obtain ⟨values, given', rfl⟩ := Option.map_eq_some_iff.1 given
      obtain ⟨values', moved', perm'⟩ := leads_mapM_of_perm perm values given'
      have distinct' : (values.map Prod.fst).Nodup := by
        rw [map_fst_of_mapM given']
        exact distinct
      have related : ∀ value ∈ values, R value.2 value.2 := by
        intro value mem
        obtain ⟨entry, listed, readEntry⟩ :=
          Lowering.exists_of_mem_right (mapM_eq_some.1 given') mem
        obtain ⟨inner, readInner, rfl⟩ := Option.map_eq_some_iff.1 readEntry
        obtain ⟨inner', again, related⟩ := self entry listed inner readInner
        obtain rfl : inner = inner' := Option.some.inj (readInner.symm.trans again)
        exact related
      refine ⟨lastEntries values', by rw [moved']; rfl, ?_⟩
      rw [lastEntries_of_nodup distinct',
        lastEntries_of_nodup ((perm'.map Prod.fst).nodup_iff.1 distinct')]
      refine .of_moved distinct' perm' (List.forall₂_same.2 fun value mem => ?_)
      exact .intro value.1 (related value (perm'.mem_iff.2 mem))

end Containers

-- =========================================================== records

section Records

variable {budget : Nat} {names : List String} {given : List (String × Tree)}

/-- The entries of an object that stand for fields. -/
def known (names : List String) (entries : List (String × Tree)) : List (String × Tree) :=
  entries.filter fun entry => names.contains entry.1

theorem known_append (entries others : List (String × Tree)) :
    known names (entries ++ others) = known names entries ++ known names others :=
  List.filter_append ..

theorem known_cons_of_mem {entry : String × Tree} {rest : List (String × Tree)}
    (heard : entry.1 ∈ names) : known names (entry :: rest) = entry :: known names rest :=
  List.filter_cons_of_pos (List.contains_iff_mem.2 heard)

theorem known_cons_of_notMem {entry : String × Tree} {rest : List (String × Tree)}
    (unheard : entry.1 ∉ names) : known names (entry :: rest) = known names rest :=
  List.filter_cons_of_neg fun heard => unheard (List.contains_iff_mem.1 heard)

/-- The fields of an object are its entries of known names, each name once;
what else the object holds is not looked at. -/
theorem keyedFields_object (entries : List (String × Tree)) :
    keyedFields Tree.refusing names (entries.map fun entry => (.text entry.1, entry.2))
      = if ((known names entries).map Prod.fst).Nodup then some (known names entries)
        else none := by
  induction entries with
  | nil => rfl
  | cons entry rest ih =>
      have step : keyedFields Tree.refusing names
            ((entry :: rest).map fun entry => (.text entry.1, entry.2))
          = keyedFields Tree.refusing names (rest.map fun entry => (.text entry.1, entry.2))
            >>= fun fields => (if names.contains entry.1 then some entry.1 else none).elim
              (some fields) fun name =>
                if fields.any (·.1 == name) then none else some ((name, entry.2) :: fields) := by
        refine congrArg (Option.bind _) (funext fun fields => ?_)
        change _ = (fieldName names (.named entry.1)).elim _ _
        cases fieldName names (.named entry.1) <;> rfl
      rw [step, ih]
      by_cases heard : entry.1 ∈ names
      · rw [if_pos (List.contains_iff_mem.2 heard), known_cons_of_mem heard]
        simp only [List.map_cons, List.nodup_cons]
        split
        · rename_i distinct
          by_cases again : entry.1 ∈ (known names rest).map Prod.fst
          · rw [if_neg fun both => both.1 again]
            exact if_pos (any_key_iff.2 again)
          · rw [if_pos ⟨again, distinct⟩]
            exact if_neg fun found => again (any_key_iff.1 found)
        · rename_i repeated
          rw [if_neg fun both => repeated both.2]
          rfl
      · rw [if_neg fun given => heard (List.contains_iff_mem.1 given), known_cons_of_notMem heard]
        split <;> rfl

@[simp] theorem fields_zero (part : Tree) : fields Tree.refusing 0 names part = none := by
  cases part with
  | number value => cases value <;> rfl
  | _ => rfl

theorem fields_object_eq_some {entries : List (String × Tree)} :
    fields Tree.refusing (budget + 1) names (.object entries) = some given
      ↔ given = known names entries ∧ ((known names entries).map Prod.fst).Nodup := by
  have read : fields Tree.refusing (budget + 1) names (.object entries)
      = keyedFields Tree.refusing names (entries.map fun entry => (.text entry.1, entry.2)) := rfl
  rw [read, keyedFields_object]
  split
  · rename_i distinct
    simp only [Option.some.injEq, distinct, and_true, eq_comm]
  · rename_i repeated
    simp only [repeated, and_false, reduceCtorEq]

theorem fields_list_eq_some {items : List Tree} :
    fields Tree.refusing (budget + 1) names (.list items) = some given
      ↔ given = names.zip items ∧ items.length = names.length := by
  have read : fields Tree.refusing (budget + 1) names (.list items)
      = if items.length = names.length then some (names.zip items) else none := rfl
  rw [read]
  split
  · rename_i length
    simp only [Option.some.injEq, length, and_true, eq_comm]
  · rename_i length
    simp only [length, and_false, reduceCtorEq]

/-- The part that fills a field. Null does not, and so is like a field that
is not given. -/
def filled (given : List (String × Tree)) (name : String) : Option Tree :=
  (given.lookup name).filter fun part => !part.isNull

section Fields

variable {α : Type} {R : α → α → Prop} {read : Tree → Option α} {name : String}
  {others : List (String × Tree)}

theorem optional_eq (part : Tree) :
    optional Tree.refusing read part = if part.isNull then some none else some <$> read part := by
  cases part with
  | number value => cases value <;> rfl
  | _ => rfl

theorem field_eq (given : List (String × Tree)) (name : String) :
    field Tree.refusing given name read = match filled given name with
      | none => some none
      | some part => some <$> read part := by
  unfold field filled
  cases given.lookup name with
  | none => rfl
  | some part =>
      simp only [optional_eq, Option.filter_some]
      cases part.isNull with
      | true => rfl
      | false => rfl

/-- Fields filled alike lead to one another. -/
theorem leads_field (alike : Option.Rel (fun part part' => Leads R (read part) (read part'))
      (filled given name) (filled others name)) :
    Leads (Option.Rel R) (field Tree.refusing given name read)
      (field Tree.refusing others name read) := by
  rw [field_eq, field_eq]
  generalize filled given name = part, filled others name = part' at alike
  cases alike with
  | none => exact .pure .none
  | some leads => exact leads.map fun _ _ related => .some related

/-- Fields filled with what reads as the same read as the same. -/
theorem field_congr (alike : Option.Rel (fun part part' => read part = read part')
      (filled given name) (filled others name)) :
    field Tree.refusing given name read = field Tree.refusing others name read := by
  rw [field_eq, field_eq]
  generalize filled given name = part, filled others name = part' at alike
  cases alike with
  | none => rfl
  | some same => simp only [same]

end Fields

end Records

end Decoding

end OpenApiTypes
