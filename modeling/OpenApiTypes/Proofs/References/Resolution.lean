/-
References line up with declarations. A document whose references all name
collected definitions compiles to code in which every type name, however
deep it stands, is `Blob` where a file was meant, or the name of a
declaration in the same code: the one of the definition that the reference
points to.
-/
import OpenApiTypes.Proofs.Compilation.Declarations
import OpenApiTypes.Proofs.References.Pointers

namespace OpenApiTypes

-- ======================================================= documents

/-- The schemas of a payload, in whatever media type. -/
def Payload.schemas (payload : Payload) : List Schema :=
  (payload.content.getD []).filterMap (·.2.schema)

namespace Document

/-- The schemas that stand in a document: of its components, of its
definitions, and of the payloads that it names. -/
def schemas (document : Document) : List Schema :=
  let components := document.components.getD {}
  (components.schemas.getD []).map Prod.snd ++ (document.definitions.getD []).map Prod.snd
    ++ (components.responses.getD []).flatMap (·.2.schemas)
    ++ (components.requestBodies.getD []).flatMap (·.2.schemas)

/-- A pointer is the reference of a schema in a document, at any depth. -/
def Refers (document : Document) (pointer : String) : Prop :=
  ∃ schema ∈ document.schemas, ∃ inner, Schema.Within inner schema
    ∧ inner.own.reference = some pointer

/-- Every reference of a document ends in the name of a collected
definition. -/
def Linked (document : Document) : Prop :=
  ∀ pointer, document.Refers pointer → ∃ before, ∃ target ∈ Definition.collect document,
    pointer = before ++ "/" ++ Identifier.pointerSegment target.name

end Document

namespace Definition

/-- The schema that counts for a payload is one of its schemas. -/
theorem mem_schemas_of_payloadSchema {payload : Payload} {schema : Schema}
    (given : payloadSchema payload = some schema) : schema ∈ payload.schemas := by
  simp only [payloadSchema] at given
  rw [Payload.schemas, List.mem_filterMap]
  split at given
  · next found =>
    obtain rfl := Option.some.inj given
    obtain ⟨media, listed, holds⟩ := Option.bind_eq_some_iff.1 found
    obtain ⟨before, after, content, -⟩ := List.lookup_eq_some_iff.1 listed
    exact ⟨(preferredMediaType, media), by simp [content], holds⟩
  · obtain ⟨entry, sorted, holds⟩ := List.exists_of_findSome?_eq_some given
    exact ⟨entry, Lowering.mem_sortEntries.1 sorted, holds⟩

/-- The definitions of a map of schemas have its schemas. -/
theorem schema_mem_of_mem_ofSchemas {schemas : Option (List (String × Schema))}
    {definition : Definition} (mem : definition ∈ ofSchemas schemas) :
    definition.schema ∈ (schemas.getD []).map Prod.snd := by
  obtain ⟨entry, sorted, rfl⟩ := List.mem_map.1 mem
  exact List.mem_map_of_mem (Lowering.mem_sortEntries.1 sorted)

/-- The definitions of a map of payloads have schemas of its payloads. -/
theorem schema_mem_of_mem_ofPayloads {payloads : Option (List (String × Payload))}
    {definition : Definition} (mem : definition ∈ ofPayloads payloads) :
    definition.schema ∈ (payloads.getD []).flatMap (·.2.schemas) := by
  obtain ⟨entry, sorted, made⟩ := List.mem_filterMap.1 mem
  obtain ⟨schema, given, rfl⟩ := Option.map_eq_some_iff.1 made
  exact List.mem_flatMap.2
    ⟨entry, Lowering.mem_sortEntries.1 sorted, mem_schemas_of_payloadSchema given⟩

/-- The schema of a collected definition stands in the document. -/
theorem schema_mem_of_mem_collect {document : Document} {definition : Definition}
    (mem : definition ∈ collect document) : definition.schema ∈ document.schemas := by
  simp only [collect, List.mem_append] at mem
  simp only [Document.schemas, List.mem_append]
  rcases mem with ((mem | mem) | mem) | mem
  · exact .inl (.inl (.inl (schema_mem_of_mem_ofSchemas mem)))
  · exact .inl (.inl (.inr (schema_mem_of_mem_ofSchemas mem)))
  · exact .inl (.inr (schema_mem_of_mem_ofPayloads mem))
  · exact .inr (schema_mem_of_mem_ofPayloads mem)

end Definition

-- ==================================================== compilations

namespace Compilation

variable {options : Options} {document : Document}

/-- What the name that a schema is lowered to may be: `Blob`, if the schema
holds a file, or the name of a declaration, the one of the definition that
the reference of the schema points to. -/
inductive Resolved (options : Options) (document : Document) (schema : Schema) : String → Prop where
  | file (holds : schema.HoldsFile) : Resolved options document schema "Blob"
  | declared {before : String} {target : Definition}
      (given : schema.own.reference
        = some (before ++ "/" ++ Identifier.pointerSegment target.name))
      (collected : target ∈ Definition.collect document)
      (present : ∃ declared ∈ declarations options (Definition.collect document),
        declared.name = Identifier.typeName target.name) :
      Resolved options document schema (Identifier.typeName target.name)

/-- Each definition of a list has a declaration. -/
theorem exists_declaration {definitions : List Definition} {definition : Definition}
    (mem : definition ∈ definitions) :
    ∃ declared ∈ declarations options definitions,
      declared.name = Identifier.typeName definition.name := by
  refine ⟨declaration options definition, List.mem_map_of_mem ?_, name_declaration⟩
  exact (Text.sortByName_perm Definition.name definitions).mem_iff.2 mem

/-- What a schema of a linked document gives is resolved. -/
theorem resolved_of_gives (linked : document.Linked) {schema inner : Schema}
    (mem : schema ∈ document.schemas) (within : Schema.Within inner schema) {name : String}
    (gives : inner.Gives name) : Resolved options document inner name := by
  cases gives with
  | file holds => exact .file holds
  | @reference pointer given =>
      obtain ⟨before, target, collected, rfl⟩ := linked pointer ⟨schema, mem, inner, within, given⟩
      rw [Identifier.referenceName_pointer]
      exact .declared given collected (exists_declaration collected)

/-- In the code of a linked document every type name, at any depth of any
declaration, is resolved by the schema that it stands for: it is `Blob` for a
file or else the name of a declaration, the one that the reference of that
schema points to. For a reference whose last segment is the name of a
definition always means the type of that definition. -/
theorem names_resolved {code : String} (linked : document.Linked)
    (compiled : (tryCompile options (Definition.collect document)).2 = .ok code) :
    (∀ before name : String,
      Identifier.referenceName (before ++ "/" ++ Identifier.pointerSegment name)
        = Identifier.typeName name)
    ∧ code = "\n".intercalate
        ((declarations options (Definition.collect document)).map Declaration.text)
    ∧ ∀ definition ∈ Definition.collect document,
        ∀ type ∈ (declaration options definition).kind.types,
          Lowering.Traced (Resolved options document) definition.schema type
          ∧ ∀ name, TypeExpr.Within (.ref name) type →
              ∃ inner, Schema.Within inner definition.schema
                ∧ Resolved options document inner name := by
  refine ⟨Identifier.referenceName_pointer, eq_intercalate_of_tryCompile compiled, ?_⟩
  intro definition collected type mem
  have stands := Definition.schema_mem_of_mem_collect collected
  have traced : Lowering.Traced (Resolved options document) definition.schema type :=
    (traced_declaration mem).imp fun _ _ within => resolved_of_gives linked stands within
  exact ⟨traced, fun name => traced.exists_belongs⟩

-- ---- a tree, whose name holds both characters that pointers escape

/-- The schema of a tree: a list of trees. -/
def treeSchema : Schema where
  own := { types := some (.one "array") }
  items := some { own := { reference := some "#/components/schemas/~1~0node" } }

/-- The definition of a tree. -/
def treeDefinition : Definition := { name := "/~node", schema := treeSchema }

/-- A document that defines a tree. -/
def treeDocument : Document where
  components := some { schemas := some [("/~node", treeSchema)] }

theorem typeName_tree : Identifier.typeName "/~node" = "node" := by decide +kernel

theorem collect_treeDocument : Definition.collect treeDocument = [treeDefinition] := by
  simp [Definition.collect, Definition.ofSchemas, Definition.ofPayloads, Text.sortEntries,
    Text.sortByName, treeDocument, treeDefinition]

theorem kindOfSchema_tree :
    (Declaration.kindOfSchema {} treeSchema).2 = .ok (.typeAlias (.array (.ref "node"))) := by
  have reference : Identifier.referenceName "#/components/schemas/~1~0node" = "node" :=
    (Identifier.referenceName_pointer "#/components/schemas" "/~node").trans typeName_tree
  rw [← reference]
  rfl

theorem tryCompile_tree :
    (tryCompile {} (Definition.collect treeDocument)).2 = .ok "export type node = node[];\n" := by
  have order : Definition.order [treeDefinition] = [treeDefinition] := by
    simp [Definition.order, Text.sortByName]
  have text : (definitionText {} treeDefinition).2 = .ok "export type node = node[];\n" := by
    simp only [definitionText, Declaration.ofDefinition, treeDefinition, kindOfSchema_tree,
      typeName_tree]
    rfl
  simp only [tryCompile, collect_treeDocument, order, texts, text]
  rfl

theorem linked_treeDocument : treeDocument.Linked := by
  intro pointer refers
  obtain ⟨schema, mem, inner, within, given⟩ := refers
  obtain rfl : schema = treeSchema := by simpa [Document.schemas, treeDocument] using mem
  obtain rfl : pointer = "#/components/schemas/~1~0node" := by
    cases within with
    | self => cases given
    | child mem within =>
        obtain rfl := by simpa [Schema.children, treeSchema] using mem
        cases within with
        | self => exact (Option.some.inj given).symm
        | child mem within => simp [Schema.children] at mem
  exact ⟨"#/components/schemas", treeDefinition, by simp [collect_treeDocument], by decide⟩

theorem resolved_tree :
    treeDocument.Linked
      ∧ (tryCompile {} (Definition.collect treeDocument)).2 = .ok "export type node = node[];\n"
      ∧ Lowering.Traced (Resolved {} treeDocument) treeSchema (.array (.ref "node")) := by
  have mem : TypeExpr.array (.ref "node") ∈ (declaration {} treeDefinition).kind.types := by
    simp [declaration, Declaration.ofDefinition, treeDefinition, kindOfSchema_tree, Except.map,
      DeclarationKind.types]
  refine ⟨linked_treeDocument, tryCompile_tree, ?_⟩
  exact ((names_resolved linked_treeDocument tryCompile_tree).2.2 treeDefinition
    (by simp [collect_treeDocument]) (.array (.ref "node")) mem).1

end Compilation

end OpenApiTypes
