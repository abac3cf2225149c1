/-
What happens on the way and is worth telling, apart from the result. Every
step returns its events in order as part of its value; which of them are
shown is decided at the very end.
-/

namespace OpenApiTypes

/-- How much an event matters, from the most. -/
inductive Level where
  | error
  | warn
  | info
  | debug
  | trace
  deriving DecidableEq, Repr

/-- The value of a field of an event: bare text, text in quotes, or a
count. -/
inductive FieldValue where
  | bare (text : String)
  | quoted (text : String)
  | count (value : Nat)

/-- The events. -/
inductive Event where
  | skippedComponent (name : String)
  | collected (count : Nat)
  | sharedName (name previous emitted : String)
  | replaced (name error : String)
  | compiled (count : Nat)
  | discarded (error : String) (definitions : Nat)
  | renamedMember (member renamed : String)
  | noConfig (path : String)
  | loadedTemplates (dir : String) (count : Nat)
  | readDocument (input : String) (length : Nat)
  | options (unknownType : String) (maxDepth : Nat)
  | isolating
  | failed (error : String) (definitions : Nat)
  | unchanged (path : String)
  | wrote (path : String) (bytes : Nat)

namespace Event

/-- How much the event matters. -/
def level : Event → Level
  | discarded .. | failed .. => .error
  | sharedName .. | replaced .. | renamedMember .. => .warn
  | wrote .. => .info
  | _ => .debug

/-- The part of the program that the event comes from. -/
def target : Event → String
  | skippedComponent .. | collected .. => "swagger_ts_core::definition"
  | sharedName .. | replaced .. | compiled .. | discarded .. => "swagger_ts_core::compiler"
  | renamedMember .. => "swagger_ts_core::render::structural"
  | noConfig .. => "swagger_ts::config"
  | loadedTemplates .. => "swagger_ts::templates"
  | readDocument .. | options .. | isolating | failed .. | unchanged .. | wrote .. =>
      "swagger_ts::generate"

/-- What the event says. -/
def message : Event → String
  | skippedComponent .. => "Skipping component without a schema."
  | collected .. => "Collected type definitions."
  | sharedName .. => "Definitions share an emitted type name."
  | replaced .. => "Replacing definition with a fallback type."
  | compiled .. => "Compiled type declarations."
  | discarded .. => "Type generation failed; discarding the whole batch."
  | renamedMember .. => "Renamed duplicate enum member."
  | noConfig .. => "No config file found, using defaults."
  | loadedTemplates .. => "Loaded templates."
  | readDocument .. => "Read OpenAPI document."
  | options .. => "Compiler options."
  | isolating => "Failing definitions will be replaced with fallback types."
  | failed .. => "Type generation failed; leaving existing files untouched."
  | unchanged .. => "Unchanged."
  | wrote .. => "Wrote file."

/-- What the event is about, by name. -/
def fields : Event → List (String × FieldValue)
  | skippedComponent name => [("name", .bare name)]
  | collected count => [("count", .count count)]
  | sharedName name previous emitted =>
      [("name", .bare name), ("previous", .bare previous), ("emitted", .bare emitted)]
  | replaced name error => [("name", .bare name), ("error", .bare error)]
  | compiled count => [("count", .count count)]
  | discarded error definitions => [("error", .bare error), ("definitions", .count definitions)]
  | renamedMember member renamed => [("member", .bare member), ("renamed", .bare renamed)]
  | noConfig path => [("path", .bare path)]
  | loadedTemplates dir count => [("dir", .bare dir), ("count", .count count)]
  | readDocument input length => [("input", .bare input), ("len", .count length)]
  | options unknownType maxDepth =>
      [("unknown_type", .quoted unknownType), ("max_depth", .count maxDepth)]
  | isolating => []
  | failed error definitions => [("error", .bare error), ("definitions", .count definitions)]
  | unchanged path => [("path", .bare path)]
  | wrote path bytes => [("path", .bare path), ("bytes", .count bytes)]

end Event

end OpenApiTypes
