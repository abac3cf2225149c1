/-
Compilation: a list of definitions becomes the text of their declarations,
one after the other in the order of the names, with an empty line between
two of them. A definition that cannot become a type either fails the whole
list or is replaced by an alias that says why.
-/
import OpenApiTypes.Definition
import OpenApiTypes.EnumMember
import OpenApiTypes.Shape

namespace OpenApiTypes

/-- Why a list of definitions could not be compiled: the first definition
that failed, and its cause. -/
structure CompilationError where
  name : String
  cause : LoweringError
  deriving DecidableEq, Repr

/-- The cause in words. -/
def CompilationError.message (error : CompilationError) : String :=
  "Failed to generate type '" ++ error.name ++ "': " ++ error.cause.message

namespace Declaration

/-- The kind of declaration that a schema becomes. -/
def kindOfSchema (options : Options) (schema : Schema) :
    List Event × Except LoweringError DeclarationKind :=
  match Shape.ofSchema schema with
  | .object isOpen =>
      ([], (Lowering.objectAt options 0 schema).map fun shape =>
        if isOpen then .interface shape else .typeAlias (.object shape))
  | .enumeration values names =>
      let (events, members) := EnumMember.ofValues values names
      (events, members.map .enumeration)
  | .allOf parts => ([], (Lowering.allOfAt options 0 parts).map .typeAlias)
  | .oneOf [] => ([], .ok (.typeAlias options.unknownType.type))
  | .oneOf parts => ([], (Lowering.typesAt options 0 parts).map (.typeAlias ∘ .union))
  | .array items => ([], (Lowering.typeAt options 0 items).map (.typeAlias ∘ .array))
  | .reference pointer => ([], .ok (.typeAlias (.ref (Identifier.referenceName pointer))))
  | .unknown => ([], .ok (.typeAlias options.unknownType.type))

/-- The declaration that a definition becomes. -/
def ofDefinition (options : Options) (definition : Definition) :
    List Event × Except LoweringError Declaration :=
  let (events, kind) := kindOfSchema options definition.schema
  (events, kind.map fun kind => {
    name := Identifier.typeName definition.name
    doc := DocBlock.ofSchema definition.schema.own definition.description
    kind })

/-- The declaration that replaces a definition which failed. -/
def fallback (options : Options) (definition : Definition) (cause : LoweringError) :
    Declaration where
  name := Identifier.typeName definition.name
  doc := DocBlock.ofDescription (some ("Type generation failed: " ++ cause.message))
  kind := .typeAlias options.unknownType.type

end Declaration

namespace Compilation

/-- The event of a definition whose type name an earlier one has. The
earlier ones are listed with their type names, the latest first. -/
def sharedNameEvents (earlier : List (String × String)) (name : String) : List Event :=
  match earlier.lookup (Identifier.typeName name) with
  | some previous => [.sharedName name previous (Identifier.typeName name)]
  | none => []

/-- The text of one definition, or the error that fails the list. -/
def definitionText (options : Options) (definition : Definition) :
    List Event × Except CompilationError String :=
  let (events, declaration) := Declaration.ofDefinition options definition
  match declaration with
  | .ok declaration => (events, .ok declaration.text)
  | .error cause =>
      match options.failurePolicy with
      | .allOrNothing => (events, .error ⟨definition.name, cause⟩)
      | .isolate =>
          (events ++ [.replaced definition.name cause.message],
            .ok (Declaration.fallback options definition cause).text)

/-- The texts of definitions in the given order, up to the first that
fails. -/
def texts (options : Options) (earlier : List (String × String)) :
    List Definition → List Event × Except CompilationError (List String)
  | [] => ([], .ok [])
  | definition :: rest =>
      let shared := sharedNameEvents earlier definition.name
      let (events, text) := definitionText options definition
      match text with
      | .error error => (shared ++ events, .error error)
      | .ok text =>
          let earlier := (Identifier.typeName definition.name, definition.name) :: earlier
          let (later, texts) := texts options earlier rest
          (shared ++ events ++ later, texts.map (text :: ·))

/-- The text of definitions, or the first failure. -/
def tryCompile (options : Options) (definitions : List Definition) :
    List Event × Except CompilationError String :=
  let (events, texts) := texts options [] (Definition.order definitions)
  match texts with
  | .error error => (events, .error error)
  | .ok texts => (events ++ [.compiled texts.length], .ok ("\n".intercalate texts))

/-- The text of definitions, which is empty when one of them fails the
list. -/
def compile (options : Options) (definitions : List Definition) : List Event × String :=
  let (events, text) := tryCompile options definitions
  match text with
  | .ok text => (events, text)
  | .error error => (events ++ [.discarded error.message definitions.length], "")

end Compilation

end OpenApiTypes
