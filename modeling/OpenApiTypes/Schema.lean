/-
Schemas: the part of an OpenAPI document that types are made from. A schema
says some things by itself, gathered in `Keywords`, and some through other
schemas. The two are kept apart so that a recursion over schemas meets only
the parts it can descend into.
-/
import OpenApiTypes.Json

namespace OpenApiTypes

/-- The value of the keyword `type`: one type name, or a list of them. -/
inductive TypeNames where
  | one (name : String)
  | several (names : List String)

/-- What a schema says without another schema. An absent keyword is `none`. -/
structure Keywords where
  types : Option TypeNames := none
  reference : Option String := none
  required : Option (List String) := none
  values : Option (List Json) := none
  valueNames : Option (List String) := none
  format : Option String := none
  constant : Option Json := none
  nullable : Option Bool := none
  title : Option String := none
  description : Option String := none
  deprecated : Option Bool := none
  deprecatedMessage : Option String := none
  sample : Option Json := none

/-- What an object may hold besides its declared properties: anything or
nothing, or values of one schema. -/
inductive Additional (σ : Type) where
  | allowed (value : Bool)
  | each (schema : σ)

/-- A schema. The entries of `properties` have distinct keys and stand in no
particular order. -/
structure Schema where
  own : Keywords := {}
  properties : Option (List (String × Schema)) := none
  items : Option Schema := none
  anyOf : Option (List Schema) := none
  oneOf : Option (List Schema) := none
  allOf : Option (List Schema) := none
  additional : Option (Additional Schema) := none

namespace Keywords

/-- Whether `type` is the one given name. -/
def isType (own : Keywords) (name : String) : Bool :=
  match own.types with
  | some (.one given) => given == name
  | _ => false

end Keywords

namespace Schema

/-- Whether `type` is the one given name. -/
def isType (schema : Schema) (name : String) : Bool := schema.own.isType name

/-- Whether keys besides the declared ones are declared in some way, which
forbidding them is not. -/
def declaresAdditional (schema : Schema) : Bool :=
  match schema.additional with
  | none => false
  | some (.allowed value) => value
  | some (.each _) => true

end Schema

end OpenApiTypes
