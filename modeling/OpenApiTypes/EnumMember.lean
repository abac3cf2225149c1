/-
The members of an enum. Each value gets one member, named by the display
name at its place if there are display names, and by the value itself
otherwise. A name that an earlier member has taken is followed by an
underscore and the least number from 2 on that makes it new, so that a
member never depends on those after it.
-/
import OpenApiTypes.Declaration
import OpenApiTypes.Event
import OpenApiTypes.Lowering

namespace OpenApiTypes.EnumMember

/-- The name that a value has by itself: a string is its own name, and any
other value is named by its text. -/
def valueName : Json → String
  | .string value => value
  | value => value.text

/-- The name of a member before those already taken are looked at. -/
def baseName (names : Option (List String)) (index : Nat) (value : Json) : String :=
  match names.bind (·[index]?) with
  | some name => name
  | none => valueName value

/-- A name with a number after it. -/
def numbered (base : String) (number : Nat) : String := base ++ "_" ++ toString number

/-- A name that is not taken: the base, or the base with the least number
from 2 on. Among one more number than there are taken names one is free. -/
def freeName (taken : List String) (base : String) : String :=
  if taken.contains base then
    let numbers := (List.range (taken.length + 1)).map (· + 2)
    ((numbers.map (numbered base)).find? (! taken.contains ·)).getD base
  else base

/-- The members of values, the first of which has the given index, besides
the names already taken. -/
def ofValuesFrom (names : Option (List String)) (index : Nat) (taken : List String) :
    List Json → List Event × Except LoweringError (List EnumMember)
  | [] => ([], .ok [])
  | value :: rest =>
      match Lowering.literal index value with
      | .error error => ([], .error error)
      | .ok literal =>
          let base := baseName names index value
          let name := freeName taken base
          let (events, members) := ofValuesFrom names (index + 1) (name :: taken) rest
          (if name = base then events else .renamedMember base name :: events,
            members.map (⟨Identifier.quoteIfNeeded name, literal⟩ :: ·))

/-- The members of the values of an `enum`. Display names may be more than
the values, but not fewer. -/
def ofValues (values : List Json) (names : Option (List String)) :
    List Event × Except LoweringError (List EnumMember) :=
  match names with
  | some given =>
      if given.length < values.length then
        ([], .error (.enumNamesMismatch given.length values.length))
      else ofValuesFrom names 0 [] values
  | none => ofValuesFrom none 0 [] values

end OpenApiTypes.EnumMember
