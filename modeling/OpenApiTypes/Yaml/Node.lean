/-
The nodes of a YAML document. An alias is kept as such, with the number of
its anchor, since the anchor may stand around it.
-/
import OpenApiTypes.Yaml.Token

namespace OpenApiTypes.Yaml

/-- A scalar with its tag. -/
structure Scalar where
  tag : Option String
  style : Style
  text : String

/-- A node. -/
inductive Node where
  | scalar (value : Scalar)
  | sequence (tag : Option String) (items : List Node)
  | mapping (tag : Option String) (entries : List (Node × Node))
  | aliasOf (number : Nat)

namespace Node

mutual

/-- How many events a node is made of: one for a scalar or an alias, and for
a collection one at either end besides those of its parts. -/
def eventCount : Node → Nat
  | scalar _ => 1
  | aliasOf _ => 1
  | sequence _ items => 2 + itemCount items
  | mapping _ entries => 2 + entryCount entries

/-- The events of the items of a sequence. -/
def itemCount : List Node → Nat
  | [] => 0
  | item :: rest => item.eventCount + itemCount rest

/-- The events of the entries of a mapping. -/
def entryCount : List (Node × Node) → Nat
  | [] => 0
  | (key, value) :: rest => key.eventCount + value.eventCount + entryCount rest

end

end Node

/-- A document: its node, if there is one, and what its anchors stand for. -/
structure Doc where
  root : Option Node
  anchored : Nat → Option Node

end OpenApiTypes.Yaml
