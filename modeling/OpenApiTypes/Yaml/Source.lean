/-
YAML documents as a notation. A scalar in a text place is its text, whatever
its style or tag; where any value may stand, a plain scalar is resolved, and
a tag of the standard vocabulary forces its type. A tag of one's own is
accepted only where the kind of the node is known without it.

Aliases are followed where a node is read, and each time counts: a document
may follow at most a hundred for each event it is made of, so that a short
text cannot stand for an enormous document.
-/
import OpenApiTypes.Document.Source
import OpenApiTypes.Yaml.Node
import OpenApiTypes.Yaml.Plain

namespace OpenApiTypes.Yaml

/-- The tag of a type in the standard vocabulary. -/
def standardTag (name : String) : Option String := some ("tag:yaml.org,2002:" ++ name)

/-- Whether a tag is of one's own: an exclamation mark and a name. -/
def isOwnTag (tag : Option String) : Bool :=
  match tag with
  | some tag => tag.startsWith "!" && tag ≠ "!"
  | none => false

/-- The value of a scalar where any value may stand. -/
def Scalar.tree (scalar : Scalar) : Tree :=
  let { tag, style, text } := scalar
  if isOwnTag tag then .defect
  else if tag = standardTag "bool" then ((flag? text).map Tree.flag).getD .defect
  else if tag = standardTag "int" then (integerTree? text.toList).getD .defect
  else if tag = standardTag "float" then (realTree? text).getD .defect
  else if tag = standardTag "null" then if isNull text then .null else .defect
  else if style = .plain ∧ (tag = none ∨ tag = some "!") then plainTree text
  else .text text

/-- Whether a scalar leaves an optional place empty. -/
def Scalar.absent (scalar : Scalar) : Option Bool :=
  if scalar.style ≠ .plain then some false
  else if scalar.tag = standardTag "null" then
    if isNull scalar.text then some true else none
  else if scalar.tag.isSome then some false
  else some (scalar.text == "" || isNull scalar.text)

/-- A scalar where a flag is expected. -/
def Scalar.flag? (scalar : Scalar) : Option Bool :=
  if scalar.style = .plain ∨ scalar.style = .literal ∧ scalar.tag = standardTag "bool" then
    Yaml.flag? scalar.text
  else none

/-- The readings of a scalar. -/
def Scalar.view (scalar : Scalar) : View Node where
  absent := scalar.absent
  void := scalar.style == .plain && scalar.text == ""
  text := some scalar.text
  flag := scalar.flag?
  key := some (.named scalar.text)
  whole :=
    match scalar.tree with
    | .defect => .refused
    | tree => .leaf tree

/-- The readings of a node. An alias has to be followed first. -/
def Node.view : Node → View Node
  | scalar value => value.view
  | sequence tag items =>
      { list := some items, whole := if isOwnTag tag then .refused else .list items }
  | mapping tag entries =>
      { map := some entries, whole := if isOwnTag tag then .refused else .map entries }
  | aliasOf _ => {}

/-- What a node stands for. Each alias that is followed takes one from the
count of those that may be. -/
def Doc.resolve (doc : Doc) : Node → StateT Nat Option Node
  | .aliasOf number => do
      match ← get with
      | 0 => failure
      | count + 1 =>
          set count
          match doc.anchored number with
          | some node => pure node
          | none => failure
  | node => pure node

/-- The nodes of a document as a notation. -/
def Doc.source (doc : Doc) : Source (StateT Nat Option) Node :=
  ⟨doc.resolve, Node.view, failure⟩

end OpenApiTypes.Yaml
