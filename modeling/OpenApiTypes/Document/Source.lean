/-
What a notation has to tell about the parts of a document before they can be
decoded. A part may read differently depending on what is wanted at its
place: `123` in a notation with plain scalars is a number where any value
may stand and a text where a title is expected. A `View` lists those
readings. Parts may also stand for other parts, which `resolve` follows, in
whatever monad the notation needs for that.
-/
import OpenApiTypes.Tree

namespace OpenApiTypes

/-- What a key says about the field of a record: its name, or its place in
the order of the fields. -/
inductive FieldKey where
  | named (name : String)
  | place (index : Nat)

/-- The reading of a part where any value may stand. -/
inductive Whole (ν : Type) where
  | leaf (tree : Tree)
  | list (items : List ν)
  | map (entries : List (ν × ν))
  | refused

/-- The readings of a part. -/
structure View (ν : Type) where
  /-- Whether the part leaves an optional place empty; `none` when it can
  neither fill such a place nor leave it empty. -/
  absent : Option Bool := some false
  /-- As a list or a map, the part is one with nothing in it. -/
  void : Bool := false
  text : Option String := none
  flag : Option Bool := none
  list : Option (List ν) := none
  map : Option (List (ν × ν)) := none
  key : Option FieldKey := none
  whole : Whole ν := .refused

/-- A notation: how its parts are reached, how they read, and what becomes
of a part that cannot be read as is wanted. -/
structure Source (m : Type → Type) (ν : Type) where
  resolve : ν → m ν
  view : ν → View ν
  refuse : {α : Type} → m α

namespace Tree

/-- How the parts of a tree read. A text is read as nothing else. -/
def view : Tree → View Tree
  | .null => { absent := some true, whole := .leaf .null }
  | .flag value => { flag := some value, whole := .leaf (.flag value) }
  | .number (.integer value) =>
      { key := if 0 ≤ value then some (.place value.toNat) else none
        whole := .leaf (.number (.integer value)) }
  | .number value => { whole := .leaf (.number value) }
  | .nonFinite => { whole := .leaf .nonFinite }
  | .text value =>
      { text := some value, key := some (.named value), whole := .leaf (.text value) }
  | .list items => { list := some items, whole := .list items }
  | .map entries => { map := some entries, whole := .map entries }
  | .defect => {}

/-- Trees as a notation of their own: every part stands for itself. -/
def source {m : Type → Type} [Monad m] (refuse : {α : Type} → m α) : Source m Tree :=
  ⟨pure, view, refuse⟩

/-- Trees as a notation in which a part is either read or not. -/
def refusing : Source Option Tree := source none

end Tree

end OpenApiTypes
