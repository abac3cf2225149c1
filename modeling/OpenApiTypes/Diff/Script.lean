/-
Edit scripts: how one list of lines becomes another one. A script is a list
of runs, and each run carries its lines, so that both lists can be read off
it: the old one from the runs that are kept or dropped, the new one from
those that are kept or added.
-/

namespace OpenApiTypes.Diff

/-- What happens to the lines of a run. -/
inductive Action where
  | keep
  | drop
  | add
  deriving DecidableEq, Repr

/-- Lines with one fate. -/
structure Run (α : Type) where
  action : Action
  lines : List α
  deriving DecidableEq, Repr

/-- An edit script. -/
abbrev Script (α : Type) := List (Run α)

namespace Script

variable {α : Type}

/-- The lines that a script starts from. -/
def old (script : Script α) : List α :=
  script.flatMap fun run => if run.action = .add then [] else run.lines

/-- The lines that a script ends with. -/
def new (script : Script α) : List α :=
  script.flatMap fun run => if run.action = .drop then [] else run.lines

/-- A run, unless it has no lines. -/
def ofRun (action : Action) (lines : List α) : Script α :=
  if lines.isEmpty then [] else [⟨action, lines⟩]

theorem old_append (first second : Script α) : old (first ++ second) = old first ++ old second := by
  simp [old]

theorem new_append (first second : Script α) : new (first ++ second) = new first ++ new second := by
  simp [new]

end Script

-- ==================================================== common parts

variable {α : Type} [DecidableEq α]

/-- The longest start that two lists share. -/
def commonStart : List α → List α → List α
  | a :: as, b :: bs => if a = b then a :: commonStart as bs else []
  | _, _ => []

/-- The longest end that two lists share. -/
def commonEnd (as bs : List α) : List α := (commonStart as.reverse bs.reverse).reverse

end OpenApiTypes.Diff
