/-
The parts of a script that are shown. Between kept lines all dropped lines
come first and all added ones after them; such a part is a segment. The
segments are shown in groups with a few kept lines around the changes, and
kept lines further away from any change are left out.
-/
import OpenApiTypes.Diff.Compaction
import OpenApiTypes.Diff.Search

namespace OpenApiTypes.Diff

variable {α : Type}

/-- Lines that stay, or lines that others take the place of. -/
inductive Segment (α : Type) where
  | same (lines : List α)
  | change (dropped added : List α)
  deriving DecidableEq, Repr

namespace Segment

/-- Puts a run before segments, joined with the first of them where it is of
the same kind. -/
def cons (run : Run α) (segments : List (Segment α)) : List (Segment α) :=
  match run.action, segments with
  | .keep, same lines :: rest => same (run.lines ++ lines) :: rest
  | .keep, rest => same run.lines :: rest
  | .drop, change dropped added :: rest => change (run.lines ++ dropped) added :: rest
  | .drop, rest => change run.lines [] :: rest
  | .add, change dropped added :: rest => change dropped (run.lines ++ added) :: rest
  | .add, rest => change [] run.lines :: rest

/-- The segments of a script. -/
def ofScript (script : Script α) : List (Segment α) := script.foldr cons []

end Segment

/-- Leaves out the kept lines at the start that are further than some lines
from the first change. -/
def trimFirst (context : Nat) : List (Segment α) → List (Segment α)
  | .same lines :: rest => .same (lines.drop (lines.length - context)) :: rest
  | segments => segments

/-- Leaves out the kept lines at the end that are further than some lines
from the last change. -/
def trimLast (context : Nat) : List (Segment α) → List (Segment α)
  | [] => []
  | [.same lines] => [.same (lines.take context)]
  | segment :: rest => segment :: trimLast context rest

/-- Whether a group shows a change. -/
def showsChange : List (Segment α) → Bool
  | [] => false
  | [.same _] => false
  | _ => true

/-- Cuts segments into groups where more kept lines lie between two changes
than both show. `group` is the start of the first group. -/
def cut (context : Nat) (group : List (Segment α)) :
    List (Segment α) → List (List (Segment α))
  | [] => if showsChange group then [group] else []
  | .same lines :: rest =>
      if 2 * context < lines.length then
        (group ++ [.same (lines.take context)])
          :: cut context [.same (lines.drop (lines.length - context))] rest
      else cut context (group ++ [.same lines]) rest
  | segment :: rest => cut context (group ++ [segment]) rest

/-- The groups in which the changes between two lists of lines are shown. -/
def groups [DecidableEq α] (context : Nat) (old new : List α) : List (List (Segment α)) :=
  let segments := Segment.ofScript (compact (script old new))
  cut context [] (trimLast context (trimFirst context segments))

end OpenApiTypes.Diff
