/-
The members of an enum: one for each value, in order, with names that are
all different. The names are given one after the other, and each depends on
the names before it only. So the invariant of the run is over those names,
and nothing that is appended to the values can reach back.

A name is compared before it is put in quotes, and emitted after. That
quoting keeps different names different (`quoteIfNeeded_injective`) is what
makes the emitted names as distinct as the compared ones.
-/
import Mathlib.Data.List.Nodup
import OpenApiTypes.EnumMember
import OpenApiTypes.Proofs.Identifiers.Quoting
import OpenApiTypes.Proofs.Lowering.Reading

namespace OpenApiTypes

namespace EnumMember

variable {names : Option (List String)} {index : Nat} {taken : List String} {value : Json}
  {values : List Json}

-- ====================================================== free names

/-- A name is the first one for a base that is not taken: the base itself,
or else the base with the least number from 2 on. -/
inductive IsFirstFree (taken : List String) (base : String) : String → Prop where
  | base (free : base ∉ taken) : IsFirstFree taken base base
  | numbered {number : Nat} (given : base ∈ taken) (least : 2 ≤ number)
      (free : numbered base number ∉ taken)
      (before : ∀ other, 2 ≤ other → other < number → numbered base other ∈ taken) :
      IsFirstFree taken base (numbered base number)

theorem IsFirstFree.not_mem {base name : String} (first : IsFirstFree taken base name) :
    name ∉ taken := by
  cases first with
  | base free => exact free
  | numbered given least free before => exact free

/-- Which name is free depends on the taken names, and not on their order. -/
theorem IsFirstFree.congr {taken' : List String} {base name : String}
    (same : ∀ name, name ∈ taken ↔ name ∈ taken') (first : IsFirstFree taken base name) :
    IsFirstFree taken' base name := by
  cases first with
  | base free => exact .base (mt (same base).2 free)
  | @numbered number given least free before =>
      refine .numbered ((same base).1 given) least (mt (same _).2 free) fun other from2 below => ?_
      exact (same _).1 (before other from2 below)

/-- Different numbers after a base make different names. -/
theorem numbered_inj {base : String} {first second : Nat} :
    numbered base first = numbered base second ↔ first = second := by
  constructor
  · intro same
    rw [numbered, numbered, String.append_right_inj, Nat.toString_eq_repr,
      Nat.toString_eq_repr] at same
    have read := congrArg (fun text => Nat.ofDigitChars 10 text.toList 0) same
    simpa using read
  · intro same
    rw [same]

/-- The names that are tried for a taken base: one more than are taken. -/
def candidates (taken : List String) (base : String) : List String :=
  ((List.range (taken.length + 1)).map (· + 2)).map (numbered base)

theorem length_candidates (taken : List String) (base : String) :
    (candidates taken base).length = taken.length + 1 := by
  rw [candidates, List.length_map, List.length_map, List.length_range]

theorem getElem_candidates {base : String} {place : Nat}
    (inside : place < (candidates taken base).length) :
    (candidates taken base)[place] = numbered base (place + 2) := by
  simp only [candidates, List.getElem_map, List.getElem_range]

theorem nodup_candidates (taken : List String) (base : String) :
    (candidates taken base).Nodup := by
  rw [candidates, List.map_map]
  refine List.Nodup.map (fun first second same => ?_) List.nodup_range
  have numbers : first + 2 = second + 2 := numbered_inj.1 same
  omega

/-- They cannot all be taken, for they are more and all different. -/
theorem exists_candidate_not_mem (taken : List String) (base : String) :
    ∃ name ∈ candidates taken base, name ∉ taken := by
  apply Classical.byContradiction
  intro none
  have all : candidates taken base ⊆ taken := by
    intro name mem
    by_cases free : name ∈ taken
    · exact free
    · exact (none ⟨name, mem, free⟩).elim
  have bound := (nodup_candidates taken base).length_le_of_subset all
  rw [length_candidates] at bound
  omega

theorem freeName_of_mem {base : String} (given : base ∈ taken) :
    freeName taken base = ((candidates taken base).find? (! taken.contains ·)).getD base := by
  rw [freeName, if_pos (List.contains_iff_mem.2 given)]
  rfl

theorem freeName_of_not_mem {base : String} (free : base ∉ taken) :
    freeName taken base = base := by
  rw [freeName, if_neg (mt List.contains_iff_mem.1 free)]

/-- The name that is chosen for a base is the first free one. -/
theorem isFirstFree_freeName (taken : List String) (base : String) :
    IsFirstFree taken base (freeName taken base) := by
  by_cases given : base ∈ taken
  · rw [freeName_of_mem given]
    cases found : (candidates taken base).find? (! taken.contains ·) with
    | none =>
        obtain ⟨name, mem, free⟩ := exists_candidate_not_mem taken base
        have kept := List.find?_eq_none.1 found name mem
        simp [free] at kept
    | some name =>
        obtain ⟨free, place, inside, rfl, earlier⟩ := List.find?_eq_some_iff_getElem.1 found
        rw [getElem_candidates] at free
        rw [Option.getD_some, getElem_candidates]
        have least : 2 ≤ place + 2 := by omega
        refine .numbered given least (by simpa using free) fun other from2 below => ?_
        have before : other - 2 < place := by omega
        have number : other - 2 + 2 = other := by omega
        have taken := earlier (other - 2) before
        rw [getElem_candidates, number] at taken
        simpa using taken
  · rw [freeName_of_not_mem given]
    exact .base given

-- ========================================================= one step

/-- One member more: the literal of the value, under a free name, which is
taken from then on. -/
theorem ofValuesFrom_cons (value : Json) (rest : List Json) :
    (ofValuesFrom names index taken (value :: rest)).2 = (do
      let literal ← Lowering.literal index value
      let name := freeName taken (baseName names index value)
      (ofValuesFrom names (index + 1) (name :: taken) rest).2.map
        (⟨Identifier.quoteIfNeeded name, literal⟩ :: ·)) := by
  rw [ofValuesFrom]
  cases Lowering.literal index value with
  | error error => rfl
  | ok literal => rfl

theorem ofValuesFrom_cons_eq_ok {rest : List Json} {members : List EnumMember} :
    (ofValuesFrom names index taken (value :: rest)).2 = .ok members
      ↔ ∃ literal others, value = Literal.json literal
          ∧ (ofValuesFrom names (index + 1)
              (freeName taken (baseName names index value) :: taken) rest).2 = .ok others
          ∧ members = ⟨Identifier.quoteIfNeeded (freeName taken (baseName names index value)),
              literal⟩ :: others := by
  rw [ofValuesFrom_cons, bind_eq_ok]
  constructor
  · intro h
    obtain ⟨literal, given, h⟩ := h
    obtain ⟨others, later, rfl⟩ := map_eq_ok.1 h
    exact ⟨literal, others, Lowering.literal_eq_ok.1 given, later, rfl⟩
  · intro h
    obtain ⟨literal, others, given, later, rfl⟩ := h
    exact ⟨literal, Lowering.literal_eq_ok.2 given, map_eq_ok.2 ⟨others, later, rfl⟩⟩

/-- A run names the values one after the other, each with the first name for
its base that is free besides the names before it. -/
theorem exists_names_of_ofValuesFrom {members : List EnumMember}
    (made : (ofValuesFrom names index taken values).2 = .ok members) :
    ∃ raw : List String,
      members.map (·.value.json) = values
      ∧ members.map (·.name) = raw.map Identifier.quoteIfNeeded
      ∧ ∀ place value, values[place]? = some value →
          ∃ name, raw[place]? = some name
            ∧ IsFirstFree (taken ++ raw.take place) (baseName names (index + place) value) name := by
  induction values generalizing index taken members with
  | nil =>
      cases made
      refine ⟨[], rfl, rfl, fun place value stands => ?_⟩
      cases stands
  | cons value rest ih =>
      obtain ⟨literal, others, rfl, later, rfl⟩ := ofValuesFrom_cons_eq_ok.1 made
      obtain ⟨raw, initializers, emitted, named⟩ := ih later
      refine ⟨freeName taken (baseName names index literal.json) :: raw, ?_, ?_, ?_⟩
      · rw [List.map_cons, initializers]
      · rw [List.map_cons, List.map_cons, emitted]
      · intro place value stands
        cases place with
        | zero =>
            obtain rfl := Option.some.inj stands
            refine ⟨_, rfl, ?_⟩
            rw [List.take_zero, List.append_nil]
            exact isFirstFree_freeName taken _
        | succ place =>
            obtain ⟨name, given, first⟩ := named place value stands
            have next : index + (place + 1) = index + 1 + place := by omega
            refine ⟨name, given, ?_⟩
            rw [next, List.take_succ_cons]
            refine first.congr fun name => ?_
            -- The name just taken stands at the other end of the list.
            simp only [List.cons_append, List.mem_cons, List.mem_append]
            tauto

/-- There is a name for each value, if names are given at all. -/
def Enough (names : Option (List String)) (values : List Json) : Prop :=
  ∀ given, names = some given → values.length ≤ given.length

/-- Members of values, under names that are given before quoting: one for
each value, in order and with the value; no two of one name; and each named
by the first free name for its base, besides those before it. -/
structure Enumerates (names : Option (List String)) (values : List Json) (raw : List String)
    (members : List EnumMember) : Prop where
  initializers : members.map (·.value.json) = values
  emitted : members.map (·.name) = raw.map Identifier.quoteIfNeeded
  distinct : (members.map (·.name)).Nodup
  named : ∀ index value, values[index]? = some value →
    ∃ name, raw[index]? = some name ∧ IsFirstFree (raw.take index) (baseName names index value) name

/-- Names are enough, or they are given and too few. -/
theorem enough_or_fewer (names : Option (List String)) (values : List Json) :
    Enough names values ∨ ∃ given, names = some given ∧ given.length < values.length := by
  cases names with
  | none =>
      refine .inl fun given named => ?_
      cases named
  | some given =>
      by_cases fewer : given.length < values.length
      · exact .inr ⟨given, rfl, fewer⟩
      · refine .inl fun names named => ?_
        obtain rfl := Option.some.inj named
        omega

theorem ofValues_of_enough (enough : Enough names values) :
    ofValues values names = ofValuesFrom names 0 [] values := by
  cases names with
  | none => rfl
  | some given =>
      have inside := enough given rfl
      rw [ofValues, if_neg (by omega)]

theorem ofValues_of_fewer {given : List String} (fewer : given.length < values.length) :
    ofValues values (some given)
      = ([], .error (.enumNamesMismatch given.length values.length)) := by
  rw [ofValues, if_pos fewer]

theorem enough_of_ofValues {members : List EnumMember}
    (made : (ofValues values names).2 = .ok members) : Enough names values := by
  rcases enough_or_fewer names values with enough | ⟨given, rfl, fewer⟩
  · exact enough
  · rw [ofValues_of_fewer fewer] at made
    cases made

/-- Names that each differ from those before them are all different. -/
theorem nodup_of_named {raw : List String}
    (named : ∀ place name, raw[place]? = some name → name ∉ raw.take place) : raw.Nodup := by
  rw [List.nodup_iff_pairwise_ne, List.pairwise_iff_getElem]
  intro first second inside inside' before same
  refine named second raw[second] (List.getElem?_eq_getElem inside') ?_
  rw [← same]
  exact List.mem_take_iff_getElem.2 ⟨first, by omega, rfl⟩

theorem enumerates_of_ofValues {members : List EnumMember}
    (made : (ofValues values names).2 = .ok members) :
    ∃ raw, Enumerates names values raw members := by
  rw [ofValues_of_enough (enough_of_ofValues made)] at made
  obtain ⟨raw, initializers, emitted, named⟩ := exists_names_of_ofValuesFrom made
  simp only [List.nil_append, Nat.zero_add] at named
  have length : raw.length = values.length := by
    have counted := congrArg List.length emitted
    rw [← initializers]
    simpa using counted.symm
  have distinct : raw.Nodup := by
    refine nodup_of_named fun place name stands => ?_
    have inside : place < values.length := by
      rw [← length]
      exact (List.getElem?_eq_some_iff.1 stands).1
    obtain ⟨given, stands', first⟩ := named place _ (List.getElem?_eq_getElem inside)
    rw [stands] at stands'
    obtain rfl := Option.some.inj stands'
    exact first.not_mem
  refine ⟨raw, initializers, emitted, ?_, named⟩
  rw [emitted]
  exact distinct.map fun _ _ => Identifier.quoteIfNeeded_injective

end EnumMember

end OpenApiTypes
