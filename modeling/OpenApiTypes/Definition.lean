/-
Definitions: the named schemas of a document, each of which becomes one
declaration. They are collected source by source, sorted by name within each
source, and a whole list of them has one order in which it is compiled.
-/
import OpenApiTypes.Document
import OpenApiTypes.Event

namespace OpenApiTypes

/-- A named schema. Its description comes before the one in the schema. -/
structure Definition where
  name : String
  schema : Schema
  description : Option String := none

namespace Definition

/-- The media type whose schema counts if a payload has several. -/
def preferredMediaType : String := "application/json"

/-- The schema of a payload: the one of the preferred media type, or else of
the first media type in the order of their names that has one. -/
def payloadSchema (payload : Payload) : Option Schema :=
  let content := payload.content.getD []
  match (content.lookup preferredMediaType).bind (·.schema) with
  | some schema => some schema
  | none => (Text.sortEntries content).findSome? (·.2.schema)

/-- The definitions of a map of schemas. -/
def ofSchemas (schemas : Option (List (String × Schema))) : List Definition :=
  (Text.sortEntries (schemas.getD [])).map fun (name, schema) => { name, schema }

/-- The definition of a payload, if it has a schema. -/
def ofPayload? (name : String) (payload : Payload) : Option Definition :=
  (payloadSchema payload).map fun schema => { name, schema, description := payload.description }

/-- The definitions of a map of payloads. -/
def ofPayloads (payloads : Option (List (String × Payload))) : List Definition :=
  (Text.sortEntries (payloads.getD [])).filterMap fun (name, payload) => ofPayload? name payload

/-- The payloads of a map that have no schema, each as an event. -/
def skipped (payloads : Option (List (String × Payload))) : List Event :=
  (Text.sortEntries (payloads.getD [])).filterMap fun (name, payload) =>
    if (payloadSchema payload).isNone then some (.skippedComponent name) else none

/-- The definitions of a document: its schemas, its Swagger 2 definitions,
its responses and its request bodies. -/
def collect (document : Document) : List Definition :=
  let components := document.components.getD {}
  ofSchemas components.schemas ++ ofSchemas document.definitions
    ++ ofPayloads components.responses ++ ofPayloads components.requestBodies

/-- The events of collecting the definitions of a document. -/
def collectEvents (document : Document) : List Event :=
  let components := document.components.getD {}
  skipped components.responses ++ skipped components.requestBodies
    ++ [.collected (collect document).length]

/-- The definitions in ascending order of their names. Those of one name
keep their order. -/
def order (definitions : List Definition) : List Definition :=
  Text.sortByName Definition.name definitions

end Definition

end OpenApiTypes
