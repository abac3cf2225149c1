/-
The declarations of a compilation. Compiling works on texts, one definition
after the other, with the events and the names taken so far beside them;
what comes out of it, when it comes out, is no more than the declarations of
the definitions in their order, each written down by itself. The types in
them follow the schemas of the definitions, whatever the shape of the schema
and also where a definition had to be replaced.
-/
import OpenApiTypes.Compilation
import OpenApiTypes.Proofs.References.Origins

namespace OpenApiTypes

-- ============================================ types of declarations

/-- The types that a declaration is made of. -/
def DeclarationKind.types : DeclarationKind → List TypeExpr
  | interface shape => [.object shape]
  | typeAlias type => [type]
  | enumeration _ => []

namespace Shape

/-- What a shape holds stands in a schema. -/
def Holds (schema : Schema) : Shape → Prop
  | allOf parts => schema.allOf = some parts
  | oneOf parts => schema.oneOf = some parts
  | array items => schema.items = some items
  | reference pointer => schema.own.reference = some pointer
  | object _ => True
  | enumeration _ _ => True
  | unknown => True

/-- What the shape of a schema holds stands in the schema. -/
theorem holds_ofSchema (schema : Schema) : (ofSchema schema).Holds schema := by
  unfold ofSchema
  split
  · trivial
  · split
    · trivial
    · split
      · assumption
      · split
        · assumption
        · split
          · assumption
          · split
            · assumption
            · trivial

end Shape

namespace Declaration

open TypeExpr Lowering

variable {options : Options} {schema : Schema}

/-- The types of the declaration of a schema follow it, and their names are
given where they stand. -/
theorem traced_kindOfSchema {kind : DeclarationKind}
    (ok : (kindOfSchema options schema).2 = .ok kind) {type : TypeExpr}
    (mem : type ∈ kind.types) : Traced Schema.Gives schema type := by
  have each : ∀ child ∈ schema.children, Traces options child :=
    fun child _ => traces options child
  have holds := Shape.holds_ofSchema schema
  unfold kindOfSchema at ok
  split at ok
  · obtain ⟨shape, read, rfl⟩ := map_eq_ok.1 ok
    have same : type = .object shape := by
      split at mem
      · exact List.mem_singleton.1 mem
      · exact List.mem_singleton.1 mem
    rw [same]
    exact traced_objectAt each read
  · obtain ⟨members, -, rfl⟩ := map_eq_ok.1 ok
    cases mem
  · next parts given =>
    rw [given] at holds
    obtain ⟨joined, read, rfl⟩ := map_eq_ok.1 ok
    obtain rfl := List.mem_singleton.1 mem
    obtain ⟨types, partsRead, rfl⟩ := joinedAt_eq_ok.1 read
    exact traced_factors each holds partsRead.2
  · cases ok
    obtain rfl := List.mem_singleton.1 mem
    exact traced_unknownType
  · next parts given =>
    rw [given] at holds
    obtain ⟨types, read, rfl⟩ := map_eq_ok.1 ok
    obtain rfl := List.mem_singleton.1 mem
    have lowered := typesAt_eq_ok.1 read
    exact .alternatives (.inr holds) lowered.length_eq
      (traced_of_beside each (fun _ => Schema.mem_children_of_oneOf holds) lowered)
  · next items given =>
    rw [given] at holds
    obtain ⟨item, lowered, rfl⟩ := map_eq_ok.1 ok
    obtain rfl := List.mem_singleton.1 mem
    exact .array holds (traces options items _ _ lowered)
  · next pointer given =>
    rw [given] at holds
    cases ok
    obtain rfl := List.mem_singleton.1 mem
    exact .name (.reference holds)
  · cases ok
    obtain rfl := List.mem_singleton.1 mem
    exact traced_unknownType

end Declaration

-- =========================================== events of declarations

/-- Making the members of an enum tells only of members that are renamed. -/
theorem EnumMember.renamed_of_mem_ofValuesFrom {names : Option (List String)}
    {values : List Json} {index : Nat} {taken : List String} {event : Event}
    (told : event ∈ (ofValuesFrom names index taken values).1) :
    ∃ member renamed, event = .renamedMember member renamed := by
  induction values generalizing index taken with
  | nil => cases told
  | cons value rest ih =>
      rw [ofValuesFrom] at told
      split at told
      · cases told
      · dsimp only at told
        split at told
        · exact ih told
        · rcases List.mem_cons.1 told with rfl | later
          · exact ⟨_, _, rfl⟩
          · exact ih later

/-- By itself a definition tells only of enum members that are renamed. -/
theorem Declaration.renamed_of_mem_ofDefinition {options : Options} {definition : Definition}
    {event : Event} (told : event ∈ (ofDefinition options definition).1) :
    ∃ member renamed, event = .renamedMember member renamed := by
  unfold ofDefinition kindOfSchema at told
  dsimp only at told
  split at told
  case h_2 values names _ =>
    unfold EnumMember.ofValues at told
    split at told
    · split at told
      · cases told
      · exact EnumMember.renamed_of_mem_ofValuesFrom told
    · exact EnumMember.renamed_of_mem_ofValuesFrom told
  all_goals cases told

-- ==================================================== declarations

namespace Compilation

variable {options : Options} {definition : Definition} {definitions : List Definition}

/-- What stands in the output for a definition: its declaration, or the one
that replaces it when it has none. -/
def declaration (options : Options) (definition : Definition) : Declaration :=
  match (Declaration.ofDefinition options definition).2 with
  | .ok declaration => declaration
  | .error cause => Declaration.fallback options definition cause

/-- What stands in the output for definitions, in their order. -/
def declarations (options : Options) (definitions : List Definition) : List Declaration :=
  (Definition.order definitions).map (declaration options)

/-- The declaration of a definition is made from its schema, or is the
replacement. -/
theorem declaration_cases :
    (∃ kind, (Declaration.kindOfSchema options definition.schema).2 = .ok kind
      ∧ declaration options definition = {
          name := Identifier.typeName definition.name
          doc := DocBlock.ofSchema definition.schema.own definition.description
          kind })
    ∨ ∃ cause, declaration options definition = Declaration.fallback options definition cause := by
  unfold declaration
  split
  · next declaration ok =>
    simp only [Declaration.ofDefinition] at ok
    obtain ⟨kind, given, rfl⟩ := map_eq_ok.1 ok
    exact .inl ⟨kind, given, rfl⟩
  · next cause _ => exact .inr ⟨cause, rfl⟩

/-- Whatever becomes of a definition, the type name is made from its name. -/
theorem name_declaration :
    (declaration options definition).name = Identifier.typeName definition.name := by
  obtain ⟨kind, -, made⟩ | ⟨cause, made⟩ := declaration_cases
  · rw [made]
  · rw [made, Declaration.fallback]

/-- The types that stand in the output for a definition follow its schema,
also where it has been replaced. -/
theorem traced_declaration {type : TypeExpr}
    (mem : type ∈ (declaration options definition).kind.types) :
    Lowering.Traced Schema.Gives definition.schema type := by
  obtain ⟨kind, given, made⟩ | ⟨cause, made⟩ := declaration_cases
  · rw [made] at mem
    exact Declaration.traced_kindOfSchema given mem
  · rw [made] at mem
    obtain rfl := List.mem_singleton.1 mem
    exact Lowering.traced_unknownType

/-- The text of a definition, if it has one, is that of its declaration. -/
theorem definitionText_ok {text : String}
    (ok : (definitionText options definition).2 = .ok text) :
    text = (declaration options definition).text := by
  unfold definitionText at ok
  unfold declaration
  generalize Declaration.ofDefinition options definition = outcome at ok ⊢
  obtain ⟨events, result⟩ := outcome
  cases result with
  | ok declaration => exact (Except.ok.inj ok).symm
  | error cause =>
      cases policy : options.failurePolicy with
      | allOrNothing =>
          rw [policy] at ok
          cases ok
      | isolate =>
          rw [policy] at ok
          exact (Except.ok.inj ok).symm

/-- The texts of definitions, if none of them fails the list, are made one
from each. -/
theorem texts_ok {earlier : List (String × String)} {result : List String}
    (ok : (texts options earlier definitions).2 = .ok result) :
    List.Forall₂ (fun definition text => (definitionText options definition).2 = .ok text)
      definitions result := by
  induction definitions generalizing earlier result with
  | nil =>
      obtain rfl := Except.ok.inj ok
      exact .nil
  | cons definition rest ih =>
      simp only [texts] at ok
      split at ok
      · cases ok
      · next text given =>
        obtain ⟨others, later, rfl⟩ := map_eq_ok.1 ok
        exact .cons given (ih later)

/-- The texts of definitions are those of their declarations. -/
theorem eq_map_of_texts {result : List String}
    (made : List.Forall₂ (fun definition text => (definitionText options definition).2 = .ok text)
      definitions result) :
    result = definitions.map fun definition => (declaration options definition).text := by
  induction made with
  | nil => rfl
  | cons given _ ih => rw [List.map_cons, definitionText_ok given, ih]

/-- A compilation gives what its loop gives, each text after a line end but
the first. -/
theorem snd_tryCompile (options : Options) (definitions : List Definition) :
    (tryCompile options definitions).2
      = (texts options [] (Definition.order definitions)).2.map fun texts =>
          "\n".intercalate texts := by
  unfold tryCompile
  dsimp only
  cases (texts options [] (Definition.order definitions)).2 with
  | error error => rfl
  | ok texts => rfl

/-- A compilation that comes out has got through the loop. -/
theorem exists_texts_of_tryCompile {code : String}
    (ok : (tryCompile options definitions).2 = .ok code) :
    ∃ result, (texts options [] (Definition.order definitions)).2 = .ok result := by
  rw [snd_tryCompile] at ok
  obtain ⟨result, given, -⟩ := map_eq_ok.1 ok
  exact ⟨result, given⟩

/-- A compilation that fails has been stopped in the loop. -/
theorem texts_of_tryCompile_error {error : CompilationError}
    (stopped : (tryCompile options definitions).2 = .error error) :
    (texts options [] (Definition.order definitions)).2 = .error error := by
  rw [snd_tryCompile] at stopped
  exact map_eq_error.1 stopped

/-- What a compilation gives is the texts of its definitions in their order,
each after a line end but the first. -/
theorem tryCompile_eq_ok {code : String} (ok : (tryCompile options definitions).2 = .ok code) :
    ∃ result, List.Forall₂ (fun definition text => (definitionText options definition).2 = .ok text)
        (Definition.order definitions) result
      ∧ code = "\n".intercalate result := by
  rw [snd_tryCompile] at ok
  obtain ⟨result, given, rfl⟩ := map_eq_ok.1 ok
  exact ⟨result, texts_ok given, rfl⟩

/-- What a compilation gives is the texts of its declarations. -/
theorem eq_intercalate_of_tryCompile {code : String}
    (ok : (tryCompile options definitions).2 = .ok code) :
    code = "\n".intercalate ((declarations options definitions).map Declaration.text) := by
  obtain ⟨result, made, rfl⟩ := tryCompile_eq_ok ok
  rw [eq_map_of_texts made, declarations, List.map_map]
  rfl

end Compilation

end OpenApiTypes
