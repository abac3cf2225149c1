/-
The two failure policies side by side. They run the same loop over the same
definitions in the same order, and they part at the first definition that
fails: one stops there with its cause, the other puts a replacement in its
place and goes on. What a definition becomes does not depend on the policy
(`ofDefinition_strict`, `ofDefinition_lenient`), nor on its neighbours, so the
policies agree as long as nothing fails, and after a failure the texts of all
other definitions are what they are alone. The run that stops gives a text
exactly if there is nothing to stop at (`tryCompile_strict_eq_ok`,
`tryCompile_strict_fails_iff`).
-/
import OpenApiTypes.Proofs.Compilation.Correspondence
import OpenApiTypes.Proofs.Compilation.Declarations
import OpenApiTypes.Proofs.Lowering.Reading

namespace OpenApiTypes

/-- The definition and the error in words, if the event tells of a
replacement. -/
def Event.replacement? : Event → Option (String × String)
  | .replaced name error => some (name, error)
  | _ => none

namespace Options

/-- The same choices, except that one failure discards everything. -/
def strict (options : Options) : Options := { options with failurePolicy := .allOrNothing }

/-- The same choices, except that a failure only replaces its definition. -/
def lenient (options : Options) : Options := { options with failurePolicy := .isolate }

end Options

-- ============================================== one definition alone

section Alone

variable {options others : Options}

/-- What a definition becomes depends only on choices that lowering looks
at. -/
theorem Declaration.ofDefinition_agree (agree : options.Agree others) (definition : Definition) :
    ofDefinition options definition = ofDefinition others definition :=
  ofDefinition_congr agree
    ⟨rfl, rfl, .refl (Lowering.lowersAlike_self agree) definition.schema⟩

theorem Declaration.ofDefinition_strict (definition : Definition) :
    ofDefinition options.strict definition = ofDefinition options definition := by
  have agree : options.strict.Agree options := ⟨rfl, rfl⟩
  exact ofDefinition_agree agree definition

theorem Declaration.ofDefinition_lenient (definition : Definition) :
    ofDefinition options.lenient definition = ofDefinition options definition := by
  have agree : options.lenient.Agree options := ⟨rfl, rfl⟩
  exact ofDefinition_agree agree definition

/-- What a definition becomes by itself is told of without a replacement. -/
theorem Declaration.replacement_ofDefinition (options : Options) (definition : Definition) :
    (ofDefinition options definition).1.filterMap Event.replacement? = [] := by
  rw [List.filterMap_eq_nil_iff]
  intro event told
  obtain ⟨member, renamed, rfl⟩ := renamed_of_mem_ofDefinition told
  rfl

end Alone

namespace Compilation

variable {options : Options} {definition : Definition} {definitions : List Definition}

/-- The text that a definition contributes when failures are isolated: that
of its own declaration, or if it fails that of an alias for the unknown type
under its own name, which is documented by its own error. -/
inductive Contributes (options : Options) (definition : Definition) : String → Prop where
  | declared {declaration : Declaration}
      (made : (Declaration.ofDefinition options definition).2 = .ok declaration) :
      Contributes options definition declaration.text
  | replaced {cause : LoweringError}
      (failed : (Declaration.ofDefinition options definition).2 = .error cause) :
      Contributes options definition (Declaration.text {
        name := Identifier.typeName definition.name
        doc := DocBlock.ofDescription (some ("Type generation failed: " ++ cause.message))
        kind := .typeAlias options.unknownType.type })

/-- The name of a definition that fails, with its error in words. -/
def failure? (options : Options) (definition : Definition) : Option (String × String) :=
  match (Declaration.ofDefinition options definition).2 with
  | .ok _ => none
  | .error cause => some (definition.name, cause.message)

/-- What stands for a definition in the output is what it contributes. -/
theorem contributes_declaration :
    Contributes options definition (declaration options definition).text := by
  unfold declaration
  split
  · next made => exact .declared made
  · next failed => exact .replaced failed

-- ============================================== one step of the loop

/-- A definition that becomes a declaration has its text under both
policies, with the same events. -/
theorem definitionText_of_made {declaration : Declaration}
    (made : (Declaration.ofDefinition options definition).2 = .ok declaration) :
    definitionText options.strict definition
        = ((Declaration.ofDefinition options definition).1, .ok declaration.text)
      ∧ definitionText options.lenient definition
        = ((Declaration.ofDefinition options definition).1, .ok declaration.text) := by
  unfold definitionText
  rw [Declaration.ofDefinition_strict, Declaration.ofDefinition_lenient]
  dsimp only
  rw [made]
  exact ⟨rfl, rfl⟩

/-- A definition that fails stops the strict run. -/
theorem strict_definitionText_of_failed {cause : LoweringError}
    (failed : (Declaration.ofDefinition options definition).2 = .error cause) :
    definitionText options.strict definition
      = ((Declaration.ofDefinition options definition).1, .error ⟨definition.name, cause⟩) := by
  unfold definitionText
  rw [Declaration.ofDefinition_strict]
  dsimp only
  rw [failed]
  rfl

/-- A definition that fails is replaced in the lenient run, which tells of
it. -/
theorem lenient_definitionText_of_failed {cause : LoweringError}
    (failed : (Declaration.ofDefinition options definition).2 = .error cause) :
    definitionText options.lenient definition
      = ((Declaration.ofDefinition options definition).1
            ++ [.replaced definition.name cause.message],
          .ok (Declaration.fallback options definition cause).text) := by
  unfold definitionText
  rw [Declaration.ofDefinition_lenient]
  dsimp only
  rw [failed]
  rfl

/-- Whether it fails or not, a definition contributes its text to the lenient
run, and the replacement that is told of is its own. -/
theorem lenient_definitionText (options : Options) (definition : Definition) :
    (definitionText options.lenient definition).2 = .ok (declaration options definition).text
      ∧ (definitionText options.lenient definition).1.filterMap Event.replacement?
        = (failure? options definition).toList := by
  have quiet := Declaration.replacement_ofDefinition options definition
  unfold declaration failure?
  cases outcome : (Declaration.ofDefinition options definition).2 with
  | ok declaration =>
      rw [(definitionText_of_made outcome).2]
      exact ⟨rfl, quiet⟩
  | error cause =>
      rw [lenient_definitionText_of_failed outcome]
      refine ⟨rfl, ?_⟩
      rw [List.filterMap_append, quiet]
      rfl

-- ================================================ the whole loop

/-- A name that is shared is told of without a replacement. -/
theorem replacement_sharedNameEvents {earlier : List (String × String)} {name : String} :
    (sharedNameEvents earlier name).filterMap Event.replacement? = [] := by
  unfold sharedNameEvents
  split
  · rfl
  · rfl

/-- The lenient run never fails. It gives what stands in the output for each
definition, and tells of the replacements in order. -/
theorem lenient_texts (options : Options) (earlier : List (String × String))
    (definitions : List Definition) :
    (texts options.lenient earlier definitions).2
        = .ok (definitions.map fun definition => (declaration options definition).text)
      ∧ (texts options.lenient earlier definitions).1.filterMap Event.replacement?
        = definitions.filterMap (failure? options) := by
  induction definitions generalizing earlier with
  | nil => exact ⟨rfl, rfl⟩
  | cons definition rest ih =>
      obtain ⟨text, told⟩ := lenient_definitionText options definition
      obtain ⟨later, toldLater⟩ :=
        ih ((Identifier.typeName definition.name, definition.name) :: earlier)
      rw [texts]
      dsimp only
      rw [text]
      dsimp only
      rw [later]
      refine ⟨rfl, ?_⟩
      rw [List.filterMap_append, List.filterMap_append, replacement_sharedNameEvents, told,
        toldLater, List.nil_append, List.filterMap_cons]
      cases failure? options definition with
      | none => rfl
      | some failure => rfl

/-- A strict run that gets through is the lenient run, event for event, and
nothing fails in it. -/
theorem texts_of_strict_ok {earlier : List (String × String)} {result : List String}
    (ok : (texts options.strict earlier definitions).2 = .ok result) :
    texts options.lenient earlier definitions = texts options.strict earlier definitions
      ∧ definitions.filterMap (failure? options) = [] := by
  induction definitions generalizing earlier result with
  | nil => exact ⟨rfl, rfl⟩
  | cons definition rest ih =>
      cases outcome : (Declaration.ofDefinition options definition).2 with
      | error cause =>
          rw [texts, strict_definitionText_of_failed outcome] at ok
          cases ok
      | ok declaration =>
          obtain ⟨strict, lenient⟩ := definitionText_of_made outcome
          rw [texts, strict] at ok
          obtain ⟨others, later, -⟩ := map_eq_ok.1 ok
          obtain ⟨same, none⟩ := ih later
          refine ⟨?_, ?_⟩
          · rw [texts, texts, strict, lenient]
            dsimp only
            rw [same]
          · rw [List.filterMap_cons, failure?, outcome]
            exact none

/-- A strict run that stops does so at the first definition that fails. -/
theorem texts_of_strict_error {earlier : List (String × String)} {error : CompilationError}
    (stopped : (texts options.strict earlier definitions).2 = .error error) :
    ∃ before failing after, definitions = before ++ failing :: after
      ∧ (∀ definition ∈ before, ∃ declaration,
          (Declaration.ofDefinition options definition).2 = .ok declaration)
      ∧ (Declaration.ofDefinition options failing).2 = .error error.cause
      ∧ error.name = failing.name := by
  induction definitions generalizing earlier with
  | nil => cases stopped
  | cons definition rest ih =>
      cases outcome : (Declaration.ofDefinition options definition).2 with
      | error cause =>
          rw [texts, strict_definitionText_of_failed outcome] at stopped
          cases stopped
          exact ⟨[], definition, rest, rfl, by simp, outcome, rfl⟩
      | ok declaration =>
          rw [texts, (definitionText_of_made outcome).1] at stopped
          have later := map_eq_error.1 stopped
          obtain ⟨before, failing, after, rfl, made, failed, named⟩ := ih later
          refine ⟨definition :: before, failing, after, rfl, ?_, failed, named⟩
          intro other mem
          rcases List.mem_cons.1 mem with rfl | mem
          · exact ⟨declaration, outcome⟩
          · exact made other mem

/-- A strict run gets through exactly if every definition becomes a
declaration, and gives their texts. -/
theorem strict_texts_eq_ok {earlier : List (String × String)} {result : List String} :
    (texts options.strict earlier definitions).2 = .ok result ↔
      ∃ made, List.Forall₂ (fun definition declaration =>
          (Declaration.ofDefinition options definition).2 = .ok declaration) definitions made
        ∧ result = made.map Declaration.text := by
  induction definitions generalizing earlier result with
  | nil => simp [texts, eq_comm]
  | cons definition rest ih =>
      cases outcome : (Declaration.ofDefinition options definition).2 with
      | error cause =>
          rw [texts, strict_definitionText_of_failed outcome]
          constructor
          · intro ok
            cases ok
          · rintro ⟨made, each, -⟩
            obtain ⟨declaration, others, first, -, -⟩ := List.forall₂_cons_left_iff.1 each
            rw [outcome] at first
            cases first
      | ok declaration =>
          rw [texts, (definitionText_of_made outcome).1]
          dsimp only
          rw [map_eq_ok]
          constructor
          · rintro ⟨others, later, rfl⟩
            obtain ⟨made, each, rfl⟩ := ih.1 later
            exact ⟨declaration :: made, .cons outcome each, rfl⟩
          · rintro ⟨made, each, rfl⟩
            obtain ⟨first, others, is, later, rfl⟩ := List.forall₂_cons_left_iff.1 each
            rw [outcome] at is
            cases is
            exact ⟨others.map Declaration.text, ih.2 ⟨others, later, rfl⟩, rfl⟩

-- =================================================== both policies

/-- Isolating failures gives the texts of what stands in the output, and
tells of the replacements in order. -/
theorem tryCompile_lenient (options : Options) (definitions : List Definition) :
    (tryCompile options.lenient definitions).2
        = .ok ("\n".intercalate
          ((Definition.order definitions).map fun definition =>
            (declaration options definition).text))
      ∧ (tryCompile options.lenient definitions).1.filterMap Event.replacement?
        = (Definition.order definitions).filterMap (failure? options) := by
  obtain ⟨given, told⟩ := lenient_texts options [] (Definition.order definitions)
  unfold tryCompile
  dsimp only
  rw [given]
  refine ⟨rfl, ?_⟩
  rw [List.filterMap_append, told]
  exact List.append_nil _

/-- A strict run gives a text exactly if every definition becomes a
declaration. It is the text of these declarations in the order of
compilation. -/
theorem tryCompile_strict_eq_ok {code : String} :
    (tryCompile options.strict definitions).2 = .ok code ↔
      ∃ made, List.Forall₂ (fun definition declaration =>
          (Declaration.ofDefinition options definition).2 = .ok declaration)
            (Definition.order definitions) made
        ∧ code = "\n".intercalate (made.map Declaration.text) := by
  rw [snd_tryCompile, map_eq_ok]
  constructor
  · rintro ⟨result, given, rfl⟩
    obtain ⟨made, each, rfl⟩ := strict_texts_eq_ok.1 given
    exact ⟨made, each, rfl⟩
  · rintro ⟨made, each, rfl⟩
    exact ⟨_, strict_texts_eq_ok.2 ⟨made, each, rfl⟩, rfl⟩

/-- A strict run fails exactly if some definition of the list does. -/
theorem tryCompile_strict_fails_iff :
    (∃ error, (tryCompile options.strict definitions).2 = .error error) ↔
      ∃ definition ∈ definitions, ∃ cause,
        (Declaration.ofDefinition options definition).2 = .error cause := by
  have members : ∀ definition, definition ∈ Definition.order definitions ↔
      definition ∈ definitions := fun _ => (Text.sortByName_perm _ _).mem_iff
  constructor
  · rintro ⟨error, stopped⟩
    obtain ⟨before, failing, after, parts, -, failed, -⟩ :=
      texts_of_strict_error (texts_of_tryCompile_error stopped)
    exact ⟨failing, (members failing).1 (by simp [parts]), error.cause, failed⟩
  · rintro ⟨definition, mem, cause, failed⟩
    cases outcome : (tryCompile options.strict definitions).2 with
    | error error => exact ⟨error, rfl⟩
    | ok code =>
      -- a text would mean that this definition became a declaration too
      obtain ⟨made, each, -⟩ := tryCompile_strict_eq_ok.1 outcome
      obtain ⟨declaration, -, is⟩ :=
        Lowering.exists_of_mem_left each ((members definition).2 mem)
      rw [failed] at is
      cases is

/-- The two failure policies agree. Isolating failures always gives a text.
As long as nothing fails it is the text that the other policy gives, and no
replacement is told of. When the other policy gives an error, it names the
first definition in the order of compilation that fails, with its cause; and
then isolating gives the contributions of all definitions in this order, each
of which is what the definition contributes alone, and tells of one
replacement for each that fails, in order. -/
theorem policies_agree (options : Options) (definitions : List Definition) :
    (∃ code, (tryCompile options.lenient definitions).2 = .ok code)
    ∧ (∀ code, (tryCompile options.strict definitions).2 = .ok code →
        (tryCompile options.lenient definitions).2 = .ok code
        ∧ (tryCompile options.lenient definitions).1.filterMap Event.replacement? = [])
    ∧ (∀ error, (tryCompile options.strict definitions).2 = .error error →
        (∃ before failing after, Definition.order definitions = before ++ failing :: after
          ∧ (∀ definition ∈ before, ∃ declaration,
              (Declaration.ofDefinition options definition).2 = .ok declaration)
          ∧ (Declaration.ofDefinition options failing).2 = .error error.cause
          ∧ error.name = failing.name)
        ∧ (∃ texts, List.Forall₂ (Contributes options) (Definition.order definitions) texts
          ∧ (tryCompile options.lenient definitions).2 = .ok ("\n".intercalate texts))
        ∧ (tryCompile options.lenient definitions).1.filterMap Event.replacement?
          = (Definition.order definitions).filterMap (failure? options)) := by
  obtain ⟨given, told⟩ := tryCompile_lenient options definitions
  refine ⟨⟨_, given⟩, ?_, ?_⟩
  · intro code ok
    obtain ⟨result, through⟩ := exists_texts_of_tryCompile ok
    obtain ⟨same, nothing⟩ := texts_of_strict_ok through
    have together : tryCompile options.lenient definitions
        = tryCompile options.strict definitions := by
      unfold tryCompile
      rw [same]
    refine ⟨by rw [together, ok], ?_⟩
    rw [told, nothing]
  · intro error stopped
    refine ⟨texts_of_strict_error (texts_of_tryCompile_error stopped), ⟨_, ?_, given⟩, told⟩
    rw [List.forall₂_map_right_iff, List.forall₂_same]
    exact fun definition _ => contributes_declaration

-- ---- a failure between two definitions

/-- Two values, and a name for one of them. -/
def broken : Definition where
  name := "Broken"
  schema := { own := { values := some [.string "A", .string "B"], valueNames := some ["OnlyOne"] } }

/-- Three definitions, of which the middle one in the order of compilation
fails. -/
def interrupted : List Definition :=
  [{ name := "Cat", schema := {} }, broken, { name := "Ant", schema := {} }]

theorem order_interrupted : Definition.order interrupted
    = [{ name := "Ant", schema := {} }, broken, { name := "Cat", schema := {} }] := by
  rw [Definition.order, Text.sortByName_eq_insertionSort]
  rfl

/-- One run stops at the definition in the middle; the other replaces it alone,
tells of that once, and goes on to the last one. -/
theorem policies_agree_interrupted :
    (tryCompile (Options.strict {}) interrupted).2
        = .error ⟨"Broken", .enumNamesMismatch 1 2⟩
      ∧ (tryCompile (Options.lenient {}) interrupted).2
        = .ok ("export type Ant = any;\n\n"
            ++ "/**\n * Type generation failed: x-enumNames has 1 entries but enum has 2 values\n"
            ++ " */\nexport type Broken = any;\n\nexport type Cat = any;\n")
      ∧ (tryCompile (Options.lenient {}) interrupted).1.filterMap Event.replacement?
        = [("Broken", "x-enumNames has 1 entries but enum has 2 values")] := by
  have stopped : (tryCompile (Options.strict {}) interrupted).2
      = .error ⟨"Broken", .enumNamesMismatch 1 2⟩ := by
    rw [snd_tryCompile, order_interrupted]
    decide +kernel
  obtain ⟨-, -, isolated⟩ := policies_agree {} interrupted
  obtain ⟨-, -, told⟩ := isolated _ stopped
  refine ⟨stopped, ?_, ?_⟩
  · rw [snd_tryCompile, order_interrupted]
    decide +kernel
  · rw [told, order_interrupted]
    decide +kernel

end Compilation

end OpenApiTypes
