/-
OpenAPI documents, as far as they name schemas: the components of an
OpenAPI 3 document and the definitions of a Swagger 2 one. The entries of
every map have distinct keys and stand in no particular order.
-/
import OpenApiTypes.Schema

namespace OpenApiTypes

/-- What is known about a payload in one media type. -/
structure MediaType where
  schema : Option Schema := none

/-- A response or a request body: a payload in several media types. -/
structure Payload where
  description : Option String := none
  content : Option (List (String × MediaType)) := none

/-- The reusable parts of a document. -/
structure Components where
  schemas : Option (List (String × Schema)) := none
  responses : Option (List (String × Payload)) := none
  requestBodies : Option (List (String × Payload)) := none

/-- A document. -/
structure Document where
  components : Option Components := none
  definitions : Option (List (String × Schema)) := none

end OpenApiTypes
