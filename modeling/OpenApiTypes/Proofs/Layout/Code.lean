/-
The code of a compilation. However hostile the strings of a document are,
the definitions that are compiled become blocks: their names are type names,
their types follow their schemas and their comments have fixed tags. So the
code shows one header for every definition and an empty line between two,
and nothing that a document says can add a declaration or break one apart.
-/
import OpenApiTypes.Proofs.Compilation.EnumMembers
import OpenApiTypes.Proofs.Layout.Blocks

namespace OpenApiTypes.Layout

-- ================================================= types and members

/-- What follows a schema is tidy: its names are made by lowering, and its
comments are those of schemas. -/
theorem isTidy_of_traced {schema : Schema} {type : TypeExpr}
    (traced : Lowering.Traced Schema.Gives schema type) : IsTidy type where
  names name within := by
    obtain ⟨inner, -, gives⟩ := traced.exists_belongs within
    cases gives with
    | reference given => exact oneLine_referenceName _
    | file holds => decide
  docs shape same property mem := by
    subst same
    obtain ⟨own, documented⟩ := traced.of_object mem
    rw [documented]
    exact isPlain_ofSchema own none

/-- The members of an enum have names that stay on one line. -/
theorem oneLine_of_mem_ofValues {names : Option (List String)} {values : List Json}
    {members : List EnumMember} (ok : (EnumMember.ofValues values names).2 = .ok members)
    {member : EnumMember} (mem : member ∈ members) : OneLine member.name := by
  obtain ⟨raw, enumerates⟩ := EnumMember.enumerates_of_ofValues ok
  have listed : member.name ∈ raw.map Identifier.quoteIfNeeded := by
    rw [← enumerates.emitted]
    exact List.mem_map_of_mem mem
  obtain ⟨name, -, quoted⟩ := List.mem_map.1 listed
  rw [← quoted]
  exact oneLine_quoteIfNeeded name

-- ==================================================== declarations

section Definitions

variable {options : Options} {definition : Definition}

/-- Only the values of an `enum` become members. -/
theorem oneLine_of_mem_enumeration {schema : Schema} {members : List EnumMember}
    (ok : (Declaration.kindOfSchema options schema).2 = .ok (.enumeration members))
    {member : EnumMember} (mem : member ∈ members) : OneLine member.name := by
  unfold Declaration.kindOfSchema at ok
  split at ok
  · obtain ⟨shape, -, same⟩ := map_eq_ok.1 ok
    split at same
    · cases same
    · cases same
  · obtain ⟨made, given, same⟩ := map_eq_ok.1 ok
    cases same
    exact oneLine_of_mem_ofValues given mem
  · obtain ⟨type, -, same⟩ := map_eq_ok.1 ok
    cases same
  · cases ok
  · obtain ⟨types, -, same⟩ := map_eq_ok.1 ok
    cases same
  · obtain ⟨item, -, same⟩ := map_eq_ok.1 ok
    cases same
  · cases ok
  · cases ok

/-- What stands for a definition keeps to its lines, also where it has been
replaced. -/
theorem isTidyKind_declaration :
    IsTidyKind (Compilation.declaration options definition).kind where
  types type mem := isTidy_of_traced (Compilation.traced_declaration mem)
  members members same member mem := by
    obtain ⟨kind, given, made⟩ | ⟨cause, made⟩ := Compilation.declaration_cases
    · rw [made] at same
      subst same
      exact oneLine_of_mem_enumeration given mem
    · rw [made] at same
      cases same

/-- The comment on a definition has plain tags. An error goes into it as
text, whatever strings it quotes. -/
theorem isPlain_declaration : IsPlain (Compilation.declaration options definition).doc := by
  obtain ⟨kind, -, made⟩ | ⟨cause, made⟩ := Compilation.declaration_cases
  · rw [made]
    exact isPlain_ofSchema _ _
  · rw [made]
    exact isPlain_ofDescription _

/-- The text of a definition is a block that declares its type name. -/
theorem isBlock_definitionText {text : String}
    (ok : (Compilation.definitionText options definition).2 = .ok text) :
    ∃ block, IsBlock (Identifier.typeName definition.name) block ∧ text.toList = unlines block := by
  rw [Compilation.definitionText_ok ok, ← Compilation.name_declaration]
  refine isBlock_declaration ?_ isPlain_declaration isTidyKind_declaration
  rw [Compilation.name_declaration]
  exact oneLine_typeName _

end Definitions

-- =========================================================== code

/-- Texts that are made from definitions are blocks, and joining them joins
the blocks. -/
theorem exists_blocks {options : Options} {definitions : List Definition} {texts : List String}
    (made : List.Forall₂
      (fun definition text => (Compilation.definitionText options definition).2 = .ok text)
      definitions texts) :
    ∃ blocks, List.Forall₂ IsBlock (definitions.map (Identifier.typeName ·.name)) blocks
      ∧ texts.map String.toList = blocks.map unlines := by
  induction made with
  | nil => exact ⟨[], .nil, rfl⟩
  | cons ok _ ih =>
      obtain ⟨block, laid, chars⟩ := isBlock_definitionText ok
      obtain ⟨blocks, others, same⟩ := ih
      refine ⟨block :: blocks, .cons laid others, ?_⟩
      rw [List.map_cons, List.map_cons, chars, same]

/-- The code that comes out of compiling any definitions shows exactly what
they declare. As many lines as there are definitions start with `export `,
and in the order of the definitions they are the headers of their type names.
There is an empty line only between two definitions, and it is these that
cut the code into the texts of the definitions. -/
theorem reads_of_tryCompile {options : Options} {definitions : List Definition} {code : String}
    (ok : (Compilation.tryCompile options definitions).2 = .ok code) :
    (exportLines code.toList).length = definitions.length
    ∧ List.Forall₂ (fun definition line => IsHeader (Identifier.typeName definition.name) line)
        (Definition.order definitions) (exportLines code.toList)
    ∧ occurrences emptyLine code.toList = definitions.length - 1
    ∧ List.Forall₂
        (fun definition piece =>
          (Compilation.definitionText options definition).2 = .ok (String.ofList piece))
        (Definition.order definitions) (pieces code.toList) := by
  obtain ⟨texts, made, rfl⟩ := Compilation.tryCompile_eq_ok ok
  obtain ⟨blocks, laid, same⟩ := exists_blocks made
  have chars : ("\n".intercalate texts).toList = joinBlocks blocks := by
    rw [String.toList_intercalate, same]
    rfl
  have length : (Definition.order definitions).length = definitions.length :=
    (Text.sortByName_perm Definition.name definitions).length_eq
  obtain ⟨headers, empty, cut⟩ := reads_joinBlocks laid
  rw [List.forall₂_map_left_iff] at headers
  rw [List.length_map, length] at empty
  rw [chars]
  refine ⟨?_, headers, empty, ?_⟩
  · rw [← headers.length_eq, length]
  · rw [cut, ← same, List.forall₂_map_right_iff]
    simpa only [String.ofList_toList] using made

-- ---- a definition whose strings pretend to be declarations

/-- A definition that tries to declare more than itself, in its name, its
comment and its only value. -/
def forgingDefinition : Definition where
  name := "a\nb"
  schema := { own := { values := some [.string "\n\nexport type c = 1;"] } }
  description := some "*/\n\nexport type d = 2;"

/-- A definition that says nothing. -/
def silentDefinition : Definition where
  name := "e"
  schema := {}

/-- The code of both. -/
def forgedCode : String :=
  "/**\n * *\\/\n *\n * export type d = 2;\n */\nexport enum aB \x7b\n"
    ++ "  \"\\n\\nexport type c = 1;\" = \"\\n\\nexport type c = 1;\",\n\x7d\n"
    ++ "\nexport type e = any;\n"

theorem tryCompile_forging :
    (Compilation.tryCompile {} [forgingDefinition, silentDefinition]).2 = .ok forgedCode := by
  have order : Definition.order [forgingDefinition, silentDefinition]
      = [forgingDefinition, silentDefinition] :=
    List.mergeSort_of_pairwise (by decide +kernel)
  rw [Compilation.tryCompile, order]
  decide +kernel

theorem reads_forging :
    (Compilation.tryCompile {} [forgingDefinition, silentDefinition]).2 = .ok forgedCode
      ∧ (exportLines forgedCode.toList).length = 2
      ∧ occurrences emptyLine forgedCode.toList = 1 := by
  obtain ⟨lines, -, empty, -⟩ := reads_of_tryCompile tryCompile_forging
  exact ⟨tryCompile_forging, lines, empty⟩

end OpenApiTypes.Layout
