/-
Names that are written without a document giving them: the keywords of the
primitive types, and the type of files. A declaration of the same name would
take such a name over wherever it is written. None takes over a keyword, for
these are words that the names of types avoid. But `Blob` is not among these
words, so a definition that is called so, but for separators, becomes the
declaration that every file in the same code then means.
-/
import OpenApiTypes.Proofs.Compilation.SharedNames
import OpenApiTypes.Proofs.Identifiers.TypeNames
import OpenApiTypes.Proofs.Order.Names

namespace OpenApiTypes

/-- The name that a type consists of, if it is no more than a name. -/
def TypeExpr.name? : TypeExpr → Option String
  | primitive type => some type.keyword
  | ref name => some name
  | array _ | union _ | intersection _ | object _ | literal _ => none

-- ==================================================== written names

namespace Lowering

/-- Lowering writes a name by itself when the name stands in the type of some
schema in which nothing is referred to. -/
def Writes (name : String) : Prop :=
  ∃ options depth schema type part,
    (∀ inner, Schema.Within inner schema → inner.own.reference = none)
      ∧ typeAt options depth schema = .ok type
      ∧ TypeExpr.Within part type ∧ part.name? = some name

/-- The names that lowering writes by itself. -/
def writtenNames : List String :=
  ["string", "number", "boolean", "null", "any", "unknown", "Blob"]

/-- A name for the type of a schema that consists of keywords is written. -/
theorem writes_of_typeAt (options : Options) (own : Keywords) {type : TypeExpr} {name : String}
    (noReference : own.reference = none) (lowered : typeAt options 0 { own } = .ok type)
    (named : type.name? = some name) : Writes name := by
  refine ⟨options, 0, { own }, type, type, fun inner within => ?_, lowered, .self, named⟩
  cases within with
  | self => exact noReference
  | child mem within => cases mem

theorem writes_iff {name : String} : Writes name ↔ name ∈ writtenNames := by
  constructor
  · intro h
    obtain ⟨options, depth, schema, type, part, unlinked, lowered, within, named⟩ := h
    cases part with
    | primitive type =>
        obtain rfl := Option.some.inj named
        cases type <;> decide
    | ref given =>
        obtain rfl := Option.some.inj named
        obtain ⟨inner, inside, gives⟩ :=
          (traces options schema depth type lowered).exists_belongs within
        cases gives with
        | reference referred =>
            rw [unlinked inner inside] at referred
            cases referred
        | file holds => decide
    | array item | union members | intersection members | object shape | literal value =>
        cases named
  · intro listed
    have typed (type : String) {result : TypeExpr}
        (lowered : typeAt {} 0 { own := { types := some (.one type) } } = .ok result)
        (named : result.name? = some name) : Writes name :=
      writes_of_typeAt {} _ rfl lowered named
    simp only [writtenNames, List.mem_cons, List.not_mem_nil, or_false] at listed
    rcases listed with rfl | rfl | rfl | rfl | rfl | rfl | rfl
    · exact typed "string" rfl rfl
    · exact typed "number" rfl rfl
    · exact typed "boolean" rfl rfl
    · exact typed "null" rfl rfl
    · exact writes_of_typeAt {} {} rfl rfl rfl
    · exact writes_of_typeAt { unknownType := .unknown } {} rfl rfl rfl
    · exact typed "file" rfl rfl

end Lowering

-- ================================================== declared names

namespace Compilation

open Identifier (joinSegments segments)

variable {options : Options} {definitions : List Definition}

/-- The declarations have the names that the definitions become. -/
theorem exists_name_iff {name : String} :
    (∃ declared ∈ declarations options definitions, declared.name = name)
      ↔ ∃ definition ∈ definitions, Identifier.typeName definition.name = name := by
  have members : name ∈ (declarations options definitions).map Declaration.name
      ↔ name ∈ (Definition.order definitions).map Definition.typeName := by
    rw [map_name_declarations]
  rw [List.mem_map, List.mem_map] at members
  rw [members]
  have kept (definition : Definition) :
      definition ∈ Definition.order definitions ↔ definition ∈ definitions :=
    (Text.sortByName_perm Definition.name definitions).mem_iff
  simp only [kept, Definition.typeName]

/-- Of the names that lowering writes by itself, code declares none but
`Blob`, and this one exactly if a definition is called so once its separators
are taken out. -/
theorem declared_iff_of_writes {code : String}
    (compiled : (tryCompile options definitions).2 = .ok code) :
    code = "\n".intercalate ((declarations options definitions).map Declaration.text)
      ∧ (∀ name, Lowering.Writes name ↔ name ∈ Lowering.writtenNames)
      ∧ ∀ name, Lowering.Writes name →
          ((∃ declared ∈ declarations options definitions, declared.name = name)
            ↔ name = "Blob" ∧ ∃ definition ∈ definitions,
                joinSegments (segments definition.name.toList) = "Blob".toList) := by
  refine ⟨eq_intercalate_of_tryCompile compiled, fun name => Lowering.writes_iff,
    fun name writes => ?_⟩
  rw [exists_name_iff]
  have words : ∀ written ∈ Lowering.writtenNames,
      written = "Blob" ∨ Identifier.isWord written = true := by
    decide
  rcases words name (Lowering.writes_iff.1 writes) with rfl | word
  · have free : Identifier.isTaken "Blob".toList = false := by decide
    have called (raw : String) : Identifier.typeName raw = "Blob"
        ↔ joinSegments (segments raw.toList) = "Blob".toList := by
      rw [Identifier.typeName_eq_iff (c := 'B') rfl (by decide)]
      exact and_iff_left free
    simp only [called, true_and]
  · constructor
    · intro h
      obtain ⟨definition, -, rfl⟩ := h
      rw [Identifier.isWord_typeName] at word
      cases word
    · intro h
      obtain ⟨rfl, -⟩ := h
      exact absurd word (by decide)

-- ---- files alone, and beside a definition called like their type

/-- A list of files. -/
def filesDefinition : Definition :=
  { name := "Files"
    schema := {
      own := { types := some (.one "array") }
      items := some { own := { types := some (.one "file") } } } }

/-- A definition with the name of the type of files: a list of texts. -/
def blobDefinition : Definition :=
  { name := "Blob"
    schema := {
      own := { types := some (.one "array") }
      items := some { own := { types := some (.one "string") } } } }

/-- Both definitions keep their names. -/
theorem names_files_blob : Identifier.typeName "Files" = "Files"
    ∧ Identifier.typeName "Blob" = "Blob"
    ∧ joinSegments (segments "Files".toList) ≠ "Blob".toList := by
  decide +kernel

theorem definitionText_files :
    (definitionText {} filesDefinition).2 = .ok "export type Files = Blob[];\n" := by
  obtain ⟨named, -⟩ := names_files_blob
  show Except.ok (Declaration.text ⟨Identifier.typeName "Files", _, _⟩) = _
  rw [named]
  rfl

theorem definitionText_blob :
    (definitionText {} blobDefinition).2 = .ok "export type Blob = string[];\n" := by
  obtain ⟨-, named, -⟩ := names_files_blob
  show Except.ok (Declaration.text ⟨Identifier.typeName "Blob", _, _⟩) = _
  rw [named]
  rfl

theorem files_uncaptured :
    (tryCompile {} [filesDefinition]).2 = .ok "export type Files = Blob[];\n"
      ∧ Lowering.Writes "Blob"
      ∧ ¬ ∃ declared ∈ declarations {} [filesDefinition], declared.name = "Blob" := by
  have order : Definition.order [filesDefinition] = [filesDefinition] := by
    simp [Definition.order, Text.sortByName]
  have compiled : (tryCompile {} [filesDefinition]).2 = .ok "export type Files = Blob[];\n" := by
    simp only [tryCompile, order, texts, definitionText_files]
    rfl
  have writes : Lowering.Writes "Blob" := Lowering.writes_iff.2 (by decide)
  obtain ⟨-, -, declared⟩ := declared_iff_of_writes compiled
  refine ⟨compiled, writes, fun h => ?_⟩
  obtain ⟨-, definition, mem, called⟩ := (declared "Blob" writes).1 h
  obtain rfl := List.mem_singleton.1 mem
  exact names_files_blob.2.2 called

/-- Beside a definition that is called `Blob` a list of files becomes a list
of what this definition declares. -/
theorem files_captured :
    (tryCompile {} [filesDefinition, blobDefinition]).2
        = .ok "export type Blob = string[];\n\nexport type Files = Blob[];\n"
      ∧ Lowering.Writes "Blob"
      ∧ (declaration {} filesDefinition).kind.types = [.array Lowering.fileType]
      ∧ ∃ declared ∈ declarations {} [filesDefinition, blobDefinition],
          declared.name = "Blob" ∧ declared.kind.types = [.array (.primitive .string)] := by
  have order : Definition.order [filesDefinition, blobDefinition]
      = [blobDefinition, filesDefinition] := by
    rw [Definition.order, Text.sortByName_eq_insertionSort]
    rfl
  refine ⟨?_, Lowering.writes_iff.2 (by decide), rfl, declaration {} blobDefinition, ?_, ?_, rfl⟩
  · simp only [tryCompile, order, texts, definitionText_files, definitionText_blob]
    rfl
  · simp [declarations, order]
  · exact name_declaration.trans names_files_blob.2.1

end Compilation

end OpenApiTypes
