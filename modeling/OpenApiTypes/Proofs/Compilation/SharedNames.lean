/-
Definitions whose type names are taken. Many raw names become one type name,
and a compilation warns of every definition that declares a name once more.
What it should tell of a list of definitions is said from the end of the
list (`Tells`): the last of them is told of exactly when one before it has
its type name, and then the latest such one is named with it.

The loop works from the other end, with the names taken so far beside it,
the latest first. This record is the definitions that have been passed
(`record`), so one step of the loop is one step of `Tells`
(`tells_snoc_sharedNameEvents`), also in the step at which a run is stopped;
the rest is induction (`tells_texts`). Nothing else in a run warns of a
shared name, since a definition by itself tells only of renamed members.
-/
import Mathlib.Data.Finset.Card
import OpenApiTypes.Proofs.Compilation.Declarations

namespace OpenApiTypes

/-- Whether the event warns of a type name that is taken. -/
def Event.isSharedName : Event → Bool
  | .sharedName .. => true
  | _ => false

/-- The name of the declaration that a definition becomes. -/
def Definition.typeName (definition : Definition) : String := Identifier.typeName definition.name

namespace Compilation

-- ================================================ what is to be told

/-- The warnings that definitions call for. A definition whose type name none
before it has calls for none; any other calls for one, with its own name and
that of the nearest before it with its type name. -/
inductive Tells : List Definition → List Event → Prop where
  | nil : Tells [] []
  | fresh {before : List Definition} {told : List Event} {definition : Definition}
      (known : Tells before told)
      (new : ∀ other ∈ before, other.typeName ≠ definition.typeName) :
      Tells (before ++ [definition]) told
  | shared {front back : List Definition} {told : List Event} {previous definition : Definition}
      (known : Tells (front ++ previous :: back) told)
      (same : previous.typeName = definition.typeName)
      (nearest : ∀ other ∈ back, other.typeName ≠ definition.typeName) :
      Tells (front ++ previous :: back ++ [definition])
        (told ++ [.sharedName definition.name previous.name definition.typeName])

/-- The type names of definitions. -/
def typeNames (definitions : List Definition) : Finset String :=
  (definitions.map Definition.typeName).toFinset

theorem mem_typeNames {name : String} {definitions : List Definition} :
    name ∈ typeNames definitions ↔ ∃ definition ∈ definitions, definition.typeName = name := by
  rw [typeNames, List.mem_toFinset, List.mem_map]

theorem typeNames_snoc (before : List Definition) (definition : Definition) :
    typeNames (before ++ [definition]) = insert definition.typeName (typeNames before) := by
  ext name
  rw [Finset.mem_insert, mem_typeNames, mem_typeNames]
  simp [or_comm, eq_comm]

/-- There is one warning for each definition beyond the first of its type
name. -/
theorem Tells.length_add_card {definitions : List Definition} {told : List Event}
    (tells : Tells definitions told) :
    told.length + (typeNames definitions).card = definitions.length := by
  induction tells with
  | nil => rfl
  | @fresh before told definition _ new ih =>
      have unused : definition.typeName ∉ typeNames before := by
        rw [mem_typeNames]
        rintro ⟨other, mem, same⟩
        exact new other mem same
      rw [typeNames_snoc, Finset.card_insert_of_notMem unused, List.length_append,
        List.length_singleton]
      omega
  | @shared front back told previous definition _ same _ ih =>
      have used : definition.typeName ∈ typeNames (front ++ previous :: back) :=
        mem_typeNames.2 ⟨previous, by simp, same⟩
      rw [typeNames_snoc, Finset.insert_eq_of_mem used, List.length_append, List.length_append,
        List.length_singleton, List.length_singleton]
      omega

/-- There is no warning exactly when all type names are different. -/
theorem Tells.eq_nil_iff_nodup {definitions : List Definition} {told : List Event}
    (tells : Tells definitions told) :
    told = [] ↔ (definitions.map Definition.typeName).Nodup := by
  have count := tells.length_add_card
  rw [typeNames, List.card_toFinset] at count
  rw [← List.length_eq_zero_iff]
  constructor
  · intro none
    have whole : (definitions.map Definition.typeName).dedup
        = definitions.map Definition.typeName := by
      refine (List.dedup_sublist _).eq_of_length ?_
      rw [List.length_map]
      omega
    exact List.dedup_eq_self.1 whole
  · intro distinct
    rw [List.dedup_eq_self.2 distinct, List.length_map] at count
    omega

/-- An event tells of one of the definitions: that its type name is taken, by
the nearest before it that has this type name. -/
inductive TellsOf (definitions : List Definition) : Event → Prop where
  | shared {front back after : List Definition} {previous definition : Definition}
      (parts : definitions = front ++ previous :: back ++ definition :: after)
      (same : previous.typeName = definition.typeName)
      (nearest : ∀ other ∈ back, other.typeName ≠ definition.typeName) :
      TellsOf definitions (.sharedName definition.name previous.name definition.typeName)

theorem TellsOf.append {definitions : List Definition} {event : Event}
    (tells : TellsOf definitions event) (others : List Definition) :
    TellsOf (definitions ++ others) event := by
  cases tells with
  | @shared front back after previous definition parts same nearest =>
      have longer : definitions ++ others
          = front ++ previous :: back ++ definition :: (after ++ others) := by
        rw [parts, List.append_assoc, List.cons_append]
      exact .shared longer same nearest

/-- Each warning tells of one of the definitions. -/
theorem Tells.tellsOf {definitions : List Definition} {told : List Event}
    (tells : Tells definitions told) {event : Event} (mem : event ∈ told) :
    TellsOf definitions event := by
  induction tells with
  | nil => cases mem
  | fresh _ _ ih => exact (ih mem).append _
  | shared _ same nearest ih =>
      rcases List.mem_append.1 mem with mem | mem
      · exact (ih mem).append _
      · obtain rfl := List.mem_singleton.1 mem
        exact .shared rfl same nearest

-- ======================================== the record of names taken

/-- What the loop has beside it after some definitions: their type names,
each with its raw name, the latest first. -/
def record (before : List Definition) : List (String × String) :=
  (before.map fun definition => (definition.typeName, definition.name)).reverse

theorem record_snoc (before : List Definition) (definition : Definition) :
    record (before ++ [definition])
      = (definition.typeName, definition.name) :: record before := by
  simp [record]

/-- What is not found in the record is new. -/
theorem ne_of_lookup_record_eq_none {before : List Definition} {name : String}
    (missing : (record before).lookup name = none) :
    ∀ other ∈ before, other.typeName ≠ name := by
  intro other mem same
  have listed : (other.typeName, other.name) ∈ record before := by
    rw [record, List.mem_reverse, List.mem_map]
    exact ⟨other, mem, rfl⟩
  have apart := List.lookup_eq_none_iff.1 missing _ listed
  simp [same] at apart

/-- What is found in the record is the latest of its type name. -/
theorem exists_nearest_of_lookup_record {before : List Definition} {name found : String}
    (given : (record before).lookup name = some found) :
    ∃ front previous back, before = front ++ previous :: back
      ∧ previous.typeName = name ∧ previous.name = found
      ∧ ∀ other ∈ back, other.typeName ≠ name := by
  induction before using List.reverseRecOn with
  | nil => cases given
  | append_singleton before last ih =>
      rw [record_snoc, List.lookup_cons] at given
      split at given
      · next same =>
        refine ⟨before, last, [], rfl, (beq_iff_eq.1 same).symm, Option.some.inj given, ?_⟩
        exact fun other mem => absurd mem List.not_mem_nil
      · next apart =>
        obtain ⟨front, previous, back, rfl, same, named, nearest⟩ := ih given
        refine ⟨front, previous, back ++ [last], by simp, same, named, ?_⟩
        intro other mem
        rcases List.mem_append.1 mem with mem | mem
        · exact nearest other mem
        · obtain rfl := List.mem_singleton.1 mem
          exact fun same => (beq_eq_false_iff_ne.1 apart) same.symm

/-- What one step of the loop tells of a shared name is what the definition
calls for after those before it. -/
theorem tells_snoc_sharedNameEvents {before : List Definition} {told : List Event}
    (known : Tells before told) (definition : Definition) :
    Tells (before ++ [definition])
      (told ++ sharedNameEvents (record before) definition.name) := by
  unfold sharedNameEvents
  split
  · next found given =>
    obtain ⟨front, previous, back, rfl, same, rfl, nearest⟩ :=
      exists_nearest_of_lookup_record given
    exact .shared known same nearest
  · next missing =>
    rw [List.append_nil]
    exact .fresh known (ne_of_lookup_record_eq_none missing)

-- ===================================================== the whole loop

section Loop

variable {options : Options} {definition : Definition} {definitions : List Definition}

theorem filter_sharedNameEvents {earlier : List (String × String)} {name : String} :
    (sharedNameEvents earlier name).filter Event.isSharedName = sharedNameEvents earlier name := by
  unfold sharedNameEvents
  split
  · rfl
  · rfl

/-- Neither making the declaration of a definition nor replacing it warns of
a shared name. -/
theorem filter_definitionText :
    (definitionText options definition).1.filter Event.isSharedName = [] := by
  have quiet : (Declaration.ofDefinition options definition).1.filter Event.isSharedName = [] := by
    rw [List.filter_eq_nil_iff]
    intro event told
    obtain ⟨member, renamed, rfl⟩ := Declaration.renamed_of_mem_ofDefinition told
    exact Bool.false_ne_true
  unfold definitionText
  dsimp only
  split
  · exact quiet
  · split
    · exact quiet
    · rw [List.filter_append, quiet]
      rfl

/-- The definitions that a run comes to: all of them, or those up to the
first that stops it. -/
def attempted (options : Options) : List Definition → List Definition
  | [] => []
  | definition :: rest =>
      match (definitionText options definition).2 with
      | .ok _ => definition :: attempted options rest
      | .error _ => [definition]

/-- After some definitions the loop warns of shared names as the definitions
that it comes to call for. -/
theorem tells_texts {before : List Definition} {told : List Event} (known : Tells before told) :
    Tells (before ++ attempted options definitions)
      (told ++ (texts options (record before) definitions).1.filter Event.isSharedName) := by
  induction definitions generalizing before told with
  | nil =>
      rw [attempted, texts, List.filter_nil, List.append_nil, List.append_nil]
      exact known
  | cons definition rest ih =>
      -- The definition has been told of when its text is made, so a run that
      -- it stops has told of it as well.
      have step := tells_snoc_sharedNameEvents known definition
      rw [attempted, texts]
      dsimp only
      cases (definitionText options definition).2 with
      | error error =>
          rw [List.filter_append, filter_sharedNameEvents, filter_definitionText, List.append_nil]
          exact step
      | ok text =>
          have later := ih step
          rw [record_snoc, List.append_assoc, List.singleton_append, List.append_assoc] at later
          rw [List.filter_append, List.filter_append, filter_sharedNameEvents,
            filter_definitionText, List.append_nil]
          exact later

/-- A run that gets through comes to every definition. -/
theorem attempted_of_texts_ok {earlier : List (String × String)} {result : List String}
    (ok : (texts options earlier definitions).2 = .ok result) :
    attempted options definitions = definitions := by
  have made := texts_ok ok
  clear ok
  induction made with
  | nil => rfl
  | cons given _ ih => rw [attempted, given, ih]

/-- A definition fails the list when it has no declaration, by its own name
and cause. -/
theorem definitionText_error {error : CompilationError}
    (failed : (definitionText options definition).2 = .error error) :
    (Declaration.ofDefinition options definition).2 = .error error.cause
      ∧ error.name = definition.name := by
  unfold definitionText at failed
  generalize Declaration.ofDefinition options definition = outcome at failed ⊢
  obtain ⟨events, result⟩ := outcome
  cases result with
  | ok declaration => cases failed
  | error cause =>
      cases policy : options.failurePolicy with
      | allOrNothing =>
          rw [policy] at failed
          cases failed
          exact ⟨rfl, rfl⟩
      | isolate =>
          rw [policy] at failed
          cases failed

/-- A run that is stopped comes to the definitions up to the one that it
names. -/
theorem attempted_of_texts_error {earlier : List (String × String)} {error : CompilationError}
    (stopped : (texts options earlier definitions).2 = .error error) :
    ∃ before failing after, definitions = before ++ failing :: after
      ∧ (∀ definition ∈ before, ∃ text, (definitionText options definition).2 = .ok text)
      ∧ (definitionText options failing).2 = .error error
      ∧ attempted options definitions = before ++ [failing] := by
  induction definitions generalizing earlier with
  | nil => cases stopped
  | cons definition rest ih =>
      rw [texts] at stopped
      dsimp only at stopped
      cases outcome : (definitionText options definition).2 with
      | error cause =>
          rw [outcome] at stopped
          cases stopped
          exact ⟨[], definition, rest, rfl, by simp, outcome, by rw [attempted, outcome]; rfl⟩
      | ok text =>
          rw [outcome] at stopped
          obtain ⟨before, failing, after, rfl, made, failed, came⟩ := ih (map_eq_error.1 stopped)
          refine ⟨definition :: before, failing, after, rfl, ?_, failed, ?_⟩
          · intro other mem
            rcases List.mem_cons.1 mem with rfl | mem
            · exact ⟨text, outcome⟩
            · exact made other mem
          · rw [attempted, outcome, came]
            rfl

end Loop

-- =================================================== a compilation

/-- The warnings of shared names among events are those that definitions call
for: each tells of one of them, there are as many as there are definitions
beyond the type names they have, and none exactly when their type names are
all different. -/
structure WarnsOfSharedNames (definitions : List Definition) (events : List Event) : Prop where
  tells : Tells definitions (events.filter Event.isSharedName)
  each : ∀ event ∈ events.filter Event.isSharedName, TellsOf definitions event
  count : (events.filter Event.isSharedName).length + (typeNames definitions).card
    = definitions.length
  quiet_iff : events.filter Event.isSharedName = []
    ↔ (definitions.map Definition.typeName).Nodup

/-- A compilation warns of shared names as the definitions that it comes to
call for. -/
theorem warns_attempted (options : Options) (definitions : List Definition) :
    WarnsOfSharedNames (attempted options (Definition.order definitions))
      (tryCompile options definitions).1 := by
  have tells : Tells (attempted options (Definition.order definitions))
      ((tryCompile options definitions).1.filter Event.isSharedName) := by
    have loop : Tells (attempted options (Definition.order definitions))
        ((texts options [] (Definition.order definitions)).1.filter Event.isSharedName) :=
      tells_texts .nil
    unfold tryCompile
    dsimp only
    cases (texts options [] (Definition.order definitions)).2 with
    | error error => exact loop
    | ok result =>
        have last : [Event.compiled result.length].filter Event.isSharedName = [] := rfl
        rw [List.filter_append, last, List.append_nil]
        exact loop
  exact ⟨tells, fun _ mem => tells.tellsOf mem, tells.length_add_card, tells.eq_nil_iff_nodup⟩

theorem map_name_declarations (options : Options) (definitions : List Definition) :
    (declarations options definitions).map Declaration.name
      = (Definition.order definitions).map Definition.typeName := by
  rw [declarations, List.map_map]
  exact List.map_congr_left fun definition _ => name_declaration

/-- Shared names are told of completely and correctly. A compilation that
comes out warns of every definition, in the order of compilation, whose type
name an earlier one has, naming the nearest such one; and the type names are
those of the declarations that come out. One that fails warns in this way of
the definitions up to the first that fails, and that one included. -/
theorem warns_of_shared_names (options : Options) (definitions : List Definition) :
    (∀ code, (tryCompile options definitions).2 = .ok code →
      WarnsOfSharedNames (Definition.order definitions) (tryCompile options definitions).1
      ∧ (declarations options definitions).map Declaration.name
        = (Definition.order definitions).map Definition.typeName)
    ∧ (∀ error, (tryCompile options definitions).2 = .error error →
      ∃ before failing after, Definition.order definitions = before ++ failing :: after
        ∧ (∀ definition ∈ before, ∃ text, (definitionText options definition).2 = .ok text)
        ∧ (definitionText options failing).2 = .error error
        ∧ (Declaration.ofDefinition options failing).2 = .error error.cause
        ∧ error.name = failing.name
        ∧ WarnsOfSharedNames (before ++ [failing]) (tryCompile options definitions).1) := by
  have warns := warns_attempted options definitions
  constructor
  · intro code ok
    obtain ⟨result, through⟩ := exists_texts_of_tryCompile ok
    rw [attempted_of_texts_ok through] at warns
    exact ⟨warns, map_name_declarations options definitions⟩
  · intro error stopped
    obtain ⟨before, failing, after, parts, made, failed, came⟩ :=
      attempted_of_texts_error (texts_of_tryCompile_error stopped)
    obtain ⟨cause, named⟩ := definitionText_error failed
    rw [came] at warns
    exact ⟨before, failing, after, parts, made, failed, cause, named, warns⟩

end Compilation

end OpenApiTypes
