/-
Which events are shown. A filter is a list of directives: each gives the
least level for the parts of the program whose name starts with its target,
and the directive with the longest such target decides. One without a target
stands for everything else.
-/
import OpenApiTypes.Event
import OpenApiTypes.Text.Blank

namespace OpenApiTypes

namespace Level

/-- The name of a level. -/
def name : Level → String
  | error => "ERROR"
  | warn => "WARN"
  | info => "INFO"
  | debug => "DEBUG"
  | trace => "TRACE"

/-- How far down a level lies. -/
def depth : Level → Nat
  | error => 1
  | warn => 2
  | info => 3
  | debug => 4
  | trace => 5

/-- The level of a name in upper or lower case. -/
def ofName? (name : String) : Option Level :=
  match name.map Char.toLower with
  | "error" => some error
  | "warn" => some warn
  | "info" => some info
  | "debug" => some debug
  | "trace" => some trace
  | _ => none

end Level

/-- The least level that is shown of what starts with a target, or that
nothing of it is shown. -/
structure Directive where
  target : Option String
  least : Option Level
  deriving DecidableEq, Repr

namespace Directive

/-- How much is to be shown, in words or as a number from 0 to 5. -/
def leastOfText? (text : String) : Option (Option Level) :=
  match text with
  | "0" => some none
  | "1" => some (some .error)
  | "2" => some (some .warn)
  | "3" => some (some .info)
  | "4" => some (some .debug)
  | "5" => some (some .trace)
  | text =>
      if text.map Char.toLower = "off" then some none
      else (Level.ofName? text).map some

/-- A directive from its text: a target and a level with an equals sign
between them, a level alone, or a target of which everything is shown. -/
def ofText? (text : String) : Option Directive :=
  let cs := (Text.trim text).toList
  let target := String.ofList (cs.takeWhile (· ≠ '='))
  match cs.dropWhile (· ≠ '=') with
  | [] =>
      match leastOfText? target with
      | some least => some ⟨none, least⟩
      | none => if target = "" then none else some ⟨some target, some .trace⟩
  | [_] => some ⟨some target, some .trace⟩
  | _ :: least => do some ⟨some target, ← leastOfText? (String.ofList least)⟩

/-- Whether a directive is about a part of the program. -/
def covers (directive : Directive) (part : String) : Bool :=
  match directive.target with
  | none => true
  | some target => target.toList.isPrefixOf part.toList

/-- How closely a directive is about something: not at all, or by the length
of its target. -/
def closeness (directive : Directive) : Nat :=
  match directive.target with
  | none => 0
  | some target => target.utf8ByteSize + 1

end Directive

/-- A list of directives. -/
abbrev LogFilter := List Directive

namespace LogFilter

/-- The parts of the program that have a level when none is given. -/
def parts : List String := ["swagger_ts", "swagger_ts_core"]

/-- The filter that shows both parts from one level on. -/
def uniform (least : Level) : LogFilter := parts.map fun part => ⟨some part, some least⟩

/-- The texts between commas. -/
def pieces : List Char → List (List Char)
  | [] => [[]]
  | c :: rest =>
      if c = ',' then [] :: pieces rest
      else
        match pieces rest with
        | [] => [[c]]
        | piece :: others => (c :: piece) :: others

/-- The filter of a list of directives. One that cannot be read is left out,
and where none is left only errors are shown. -/
def ofText (text : String) : LogFilter :=
  match (pieces text.toList).filterMap fun piece => Directive.ofText? (String.ofList piece) with
  | [] => [⟨none, some .error⟩]
  | directives => directives

/-- The filter that a setting asks for: one level for the whole program, or
directives. Information and what matters more is shown if it asks for
nothing. -/
def ofSetting (setting : Option String) : LogFilter :=
  match setting with
  | none => uniform .info
  | some text =>
      match Level.ofName? text with
      | some least => uniform least
      | none => if Text.isBlankText text then uniform .info else ofText text

/-- The directive that decides about a part of the program: the closest, and
of two about the same target the last. -/
def deciding? (filter : LogFilter) (part : String) : Option Directive :=
  (filter.filter (·.covers part)).foldl
    (fun best next =>
      match best with
      | none => some next
      | some best => some (if best.closeness ≤ next.closeness then next else best))
    none

/-- Whether an event is shown. -/
def shows (filter : LogFilter) (event : Event) : Bool :=
  match filter.deciding? event.target with
  | some ⟨_, some least⟩ => event.level.depth ≤ least.depth
  | _ => false

end LogFilter

/-- The value of a field in a line. -/
def FieldValue.text : FieldValue → String
  | bare text => text
  | quoted text => "\"" ++ text ++ "\""
  | count value => toString value

/-- The line that tells an event. -/
def Event.line (event : Event) : String :=
  " ".intercalate
    ([event.level.name, event.target ++ ":", event.message]
      ++ event.fields.map fun (name, value) => name ++ "=" ++ value.text)

end OpenApiTypes
