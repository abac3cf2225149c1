/-
Decoding a document from any notation. A record takes the fields it knows
and skips every other key unread; a known key given twice is refused, while
in a map the last of two equal keys counts. A record may also be given as a
list of all its fields in order. Every field is optional, and a part that
says so leaves it empty; nothing is converted from one kind into another.

`type` and `additionalProperties` may be of two kinds. Such a part is first
read whole into a tree, with every key and value in it, and then decoded
from there.

A budget bounds how many lists and maps may lie in one another. It is what
the recursion descends on, so a notation in which a part can contain itself
is no danger.
-/
import OpenApiTypes.Document
import OpenApiTypes.Document.Source

namespace OpenApiTypes.Decoding

variable {m : Type → Type} [Monad m] {ν : Type}

/-- A reading that has to be there. -/
def required {α : Type} (src : Source m ν) : Option α → m α
  | some value => pure value
  | none => src.refuse

-- ====================================================== simple parts

/-- A part as text. -/
def text (src : Source m ν) (part : ν) : m String := do
  required src (src.view (← src.resolve part)).text

/-- A part as a flag. -/
def flag (src : Source m ν) (part : ν) : m Bool := do
  required src (src.view (← src.resolve part)).flag

/-- A part in an optional place. -/
def optional {α : Type} (src : Source m ν) (read : ν → m α) (part : ν) : m (Option α) := do
  let part ← src.resolve part
  match (src.view part).absent with
  | none => src.refuse
  | some true => pure none
  | some false => some <$> read part

/-- A part as a list, whose items are read by `read`. It takes one level of
the budget. -/
def list {α : Type} (src : Source m ν) (budget : Nat) (read : ν → m α) (part : ν) :
    m (List α) := do
  let view := src.view (← src.resolve part)
  if view.void then pure []
  else
    match budget, view.list with
    | _ + 1, some items => items.mapM read
    | _, _ => src.refuse

/-- A part as a map, whose values are read by `read`. It takes one level of
the budget. Of equal keys the last one counts, but all values are read. -/
def map {α : Type} (src : Source m ν) (budget : Nat) (read : ν → m α) (part : ν) :
    m (List (String × α)) := do
  let view := src.view (← src.resolve part)
  if view.void then pure []
  else
    match budget, view.map with
    | _ + 1, some entries =>
        lastEntries <$> entries.mapM fun (key, value) => do
          let key ← text src key
          let value ← read value
          pure (key, value)
    | _, _ => src.refuse

-- =========================================================== records

/-- The name of the field that a key stands for: some other field, none of
the fields, or nothing that a key of a record may be. -/
def fieldName (names : List String) : FieldKey → Option String
  | .named name => if names.contains name then some name else none
  | .place index => names[index]?

/-- The fields of a record given as a map, by their names. -/
def keyedFields (src : Source m ν) (names : List String) :
    List (ν × ν) → m (List (String × ν))
  | [] => pure []
  | (key, value) :: rest => do
      let key ← required src (src.view (← src.resolve key)).key
      let fields ← keyedFields src names rest
      match fieldName names key with
      | none => pure fields
      | some name =>
          if fields.any (·.1 == name) then src.refuse else pure ((name, value) :: fields)

/-- The fields of a record, by their names. A record takes one level of the
budget. -/
def fields (src : Source m ν) (budget : Nat) (names : List String) (part : ν) :
    m (List (String × ν)) := do
  let view := src.view (← src.resolve part)
  if view.void then pure []
  else
    match budget, view.map, view.list with
    | 0, _, _ => src.refuse
    | _ + 1, some entries, _ => keyedFields src names entries
    | _ + 1, none, some items =>
        if items.length = names.length then pure (names.zip items) else src.refuse
    | _ + 1, none, none => src.refuse

/-- A field of a record, if it is given. -/
def field {α : Type} (src : Source m ν) (fields : List (String × ν)) (name : String)
    (read : ν → m α) : m (Option α) :=
  match fields.lookup name with
  | none => pure none
  | some part => optional src read part

-- ========================================================= any value

/-- The JSON value of a tree without parts. A number that is not finite has
none of its own and is null. -/
def leafValue (src : Source m ν) : Tree → m Json
  | .null => pure .null
  | .flag value => pure (.bool value)
  | .number value => pure (.number value)
  | .nonFinite => pure .null
  | .text value => pure (.string value)
  | _ => src.refuse

/-- A part as a JSON value. -/
def value (src : Source m ν) (budget : Nat) (part : ν) : m Json := do
  let part ← src.resolve part
  match budget, (src.view part).whole with
  | _, .leaf tree => leafValue src tree
  | budget + 1, .list items => Json.array <$> items.mapM (value src budget)
  | budget + 1, .map entries =>
      Json.ofEntries <$> entries.mapM fun (key, part) => do
        let key ← text src key
        let value ← value src budget part
        pure (key, value)
  | _, _ => src.refuse

/-- A part as a tree, with everything in it. -/
def tree (src : Source m ν) (budget : Nat) (part : ν) : m Tree := do
  let part ← src.resolve part
  match budget, (src.view part).whole with
  | _, .leaf tree => pure tree
  | budget + 1, .list items => Tree.list <$> items.mapM (tree src budget)
  | budget + 1, .map entries =>
      Tree.map <$> entries.mapM fun (key, part) => do
        let key ← tree src budget key
        let part ← tree src budget part
        pure (key, part)
  | _, _ => src.refuse

-- =========================================================== schemas

/-- The type names that a tree gives. -/
def typeNames (src : Source m ν) : Tree → m TypeNames
  | .text name => pure (.one name)
  | .list items => .several <$> items.mapM (text (Tree.source src.refuse))
  | _ => src.refuse

/-- The keywords of a schema, in order. -/
def schemaKeywords : List String :=
  ["type", "$ref", "properties", "required", "items", "enum", "x-enumNames", "anyOf",
    "oneOf", "allOf", "additionalProperties", "format", "const", "nullable", "title",
    "description", "deprecated", "x-deprecatedMessage", "example"]

/-- What a schema says by itself, from its fields. The budget is what is
left inside the schema. -/
def keywords (src : Source m ν) (budget : Nat) (fields : List (String × ν)) : m Keywords := do
  let types ← field src fields "type" fun part => do typeNames src (← tree src budget part)
  let reference ← field src fields "$ref" (text src)
  let required ← field src fields "required" (list src budget (text src))
  let values ← field src fields "enum" (list src budget (value src (budget - 1)))
  let valueNames ← field src fields "x-enumNames" (list src budget (text src))
  let format ← field src fields "format" (text src)
  let constant ← field src fields "const" (value src budget)
  let nullable ← field src fields "nullable" (flag src)
  let title ← field src fields "title" (text src)
  let description ← field src fields "description" (text src)
  let deprecated ← field src fields "deprecated" (flag src)
  let deprecatedMessage ← field src fields "x-deprecatedMessage" (text src)
  let sample ← field src fields "example" (value src budget)
  pure { types, reference, required, values, valueNames, format, constant, nullable, title,
         description, deprecated, deprecatedMessage, sample }

/-- A part as a schema. Schemas in its lists and maps lie two levels deeper
than the schema, and its own items one. -/
def schema (budget : Nat) {ν : Type} (src : Source m ν) (part : ν) : m Schema := do
  let given ← fields src budget schemaKeywords part
  match budget with
  | 0 => pure {}
  | budget + 1 =>
      let inner : ν → m Schema :=
        match budget with
        | 0 => fun _ => src.refuse
        | budget + 1 => schema budget src
      let own ← keywords src budget given
      let properties ← field src given "properties" (map src budget inner)
      let items ← field src given "items" (schema budget src)
      let anyOf ← field src given "anyOf" (list src budget inner)
      let oneOf ← field src given "oneOf" (list src budget inner)
      let allOf ← field src given "allOf" (list src budget inner)
      let additional ← field src given "additionalProperties" fun part => do
        match ← tree src budget part with
        | .flag value => pure (.allowed value)
        | part => .each <$> schema budget (Tree.source src.refuse) part
      pure { own, properties, items, anyOf, oneOf, allOf, additional }

-- ========================================================= documents

/-- A part as a media type. -/
def mediaType (src : Source m ν) (budget : Nat) (part : ν) : m MediaType := do
  let given ← fields src budget ["schema"] part
  let schema ← field src given "schema" (schema (budget - 1) src)
  pure { schema }

/-- A part as a response or request body. -/
def payload (src : Source m ν) (budget : Nat) (part : ν) : m Payload := do
  let given ← fields src budget ["description", "content"] part
  let description ← field src given "description" (text src)
  let content ← field src given "content" (map src (budget - 1) (mediaType src (budget - 2)))
  pure { description, content }

/-- A part as the reusable components. -/
def components (src : Source m ν) (budget : Nat) (part : ν) : m Components := do
  let given ← fields src budget ["schemas", "responses", "requestBodies"] part
  let schemas ← field src given "schemas" (map src (budget - 1) (schema (budget - 2) src))
  let responses ← field src given "responses" (map src (budget - 1) (payload src (budget - 2)))
  let requestBodies ←
    field src given "requestBodies" (map src (budget - 1) (payload src (budget - 2)))
  pure { schemas, responses, requestBodies }

/-- A part as a document. -/
def document (src : Source m ν) (budget : Nat) (part : ν) : m Document := do
  let given ← fields src budget ["components", "definitions"] part
  let components ← field src given "components" (components src (budget - 1))
  let definitions ← field src given "definitions" (map src (budget - 1) (schema (budget - 2) src))
  pure { components, definitions }

end OpenApiTypes.Decoding
