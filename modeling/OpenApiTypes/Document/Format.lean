/-
The notations of documents, how a file name tells them, and reading a
document from its text.
-/
import OpenApiTypes.Document.Decoding
import OpenApiTypes.Json.Reading
import OpenApiTypes.Yaml.Node.OfTokens
import OpenApiTypes.Yaml.Source
import OpenApiTypes.Yaml.Token.Scan

namespace OpenApiTypes

/-- The notations. -/
inductive DocumentFormat where
  | json
  | yaml
  deriving DecidableEq, Repr

/-- Why a document could not be loaded. -/
inductive DocumentError where
  | malformed (format : DocumentFormat)
  | unknownFormat (ext : String)
  deriving DecidableEq, Repr

/-- The cause in words. -/
def DocumentError.message : DocumentError → String
  | malformed .json => "Failed to parse OpenAPI document as JSON"
  | malformed .yaml => "Failed to parse OpenAPI document as YAML"
  | unknownFormat ext =>
      "Unsupported document format '" ++ ext ++ "', expected json, yaml or yml"

namespace DocumentFormat

/-- The notation that a file extension tells, in upper or lower case. -/
def ofExtension (ext : String) : Except DocumentError DocumentFormat :=
  match ext.map Char.toLower with
  | "json" => .ok .json
  | "yaml" => .ok .yaml
  | "yml" => .ok .yaml
  | ext => .error (.unknownFormat ext)

end DocumentFormat

/-- How deep JSON values that are read may lie in one another. -/
def Json.maxNesting : Nat := 127

/-- A value of any kind read from JSON text. -/
def Json.ofText? (text : String) : Option Json := do
  Decoding.value Tree.refusing Json.maxNesting (← Json.readTree? text)

/-- A list of values of any kind read from JSON text. -/
def Json.listOfText? (text : String) : Option (List Json) := do
  Decoding.list Tree.refusing Json.maxNesting
    (Decoding.value Tree.refusing (Json.maxNesting - 1)) (← Json.readTree? text)

/-- A schema read from JSON text. -/
def Schema.ofJson? (text : String) : Option Schema := do
  Decoding.schema Json.maxNesting Tree.refusing (← Json.readTree? text)

namespace Document

/-- The document that a tree decodes to. -/
def ofTree? (tree : Tree) : Option Document :=
  Decoding.document Tree.refusing Json.maxNesting tree

/-- A document read from JSON text. -/
def ofJson? (text : String) : Option Document := do
  ofTree? (← Json.readTree? text)

/-- How deep YAML nodes that are read may lie in one another. -/
def maxYamlNesting : Nat := 128

/-- The document that YAML nodes decode to. Without any node it is empty. -/
def ofYamlDoc? (doc : Yaml.Doc) : Option Document :=
  match doc.root with
  | none => some {}
  | some root =>
      let aliases := 100 * root.eventCount
      (Decoding.document doc.source maxYamlNesting root).run' aliases

/-- A document read from YAML text. -/
def ofYaml? (text : String) : Option Document := do
  ofYamlDoc? (← Yaml.Doc.ofTokens? (← Yaml.Token.ofText? text))

/-- A document read from text in a notation. -/
def parse (text : String) (format : DocumentFormat) : Except DocumentError Document :=
  let document :=
    match format with
    | .json => ofJson? text
    | .yaml => ofYaml? text
  match document with
  | some document => .ok document
  | none => .error (.malformed format)

end Document

end OpenApiTypes
