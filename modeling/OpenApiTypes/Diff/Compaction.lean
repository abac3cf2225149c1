/-
Compaction: moving the edits of a script without changing what it does. An
edit trades places with one of the other kind and joins one of its own, so
that all edits between two kept runs come together. A run of added lines can
go further: up over kept lines as far as its end repeats what it passes, and
down as far as its start does. Dropped lines stay between the kept lines
where they are.

Every edit is moved up first and then down, which is where it stays. Dropped
lines are moved first, added lines after them.
-/
import OpenApiTypes.Diff.Script

namespace OpenApiTypes.Diff

variable {α : Type} [DecidableEq α]

/-- A script with one edit in focus: the runs before it, the nearest first,
and those after it. -/
structure Focus (α : Type) where
  before : List (Run α)
  edit : Run α
  after : List (Run α)

/-- Puts kept lines before a list of runs, as part of its first run if that
is kept too. -/
def keepBefore (lines : List α) : List (Run α) → List (Run α)
  | ⟨.keep, more⟩ :: rest => ⟨.keep, lines ++ more⟩ :: rest
  | rest => ⟨.keep, lines⟩ :: rest

/-- Puts kept lines after a list of runs whose last one is first in the
list. -/
def keepAfter (lines : List α) : List (Run α) → List (Run α)
  | ⟨.keep, more⟩ :: rest => ⟨.keep, more ++ lines⟩ :: rest
  | rest => ⟨.keep, lines⟩ :: rest

/-- A kept run before a list of runs, unless it has no lines. -/
def keepUnlessEmpty (lines : List α) (rest : List (Run α)) : List (Run α) :=
  if lines.isEmpty then rest else ⟨.keep, lines⟩ :: rest

/-- The kept lines that the edit in focus passes on its way up. -/
def passedUp (kept : List α) (edit : Run α) : List α :=
  if edit.action = .add then commonEnd kept edit.lines else []

/-- The kept lines that the edit in focus passes on its way down. -/
def passedDown (kept : List α) (edit : Run α) : List α :=
  if edit.action = .add then commonStart kept edit.lines else []

/-- Moves the edit in focus up as far as it goes. -/
def moveUp (focus : Focus α) : Nat → Focus α
  | 0 => focus
  | bound + 1 =>
      let ⟨before, edit, after⟩ := focus
      match before with
      | [] => focus
      | ⟨.keep, kept⟩ :: before =>
          let ending := passedUp kept edit
          if ending.isEmpty then
            if kept.isEmpty then moveUp ⟨before, edit, after⟩ bound else focus
          else
            let left := kept.take (kept.length - ending.length)
            let lines := ending ++ edit.lines.take (edit.lines.length - ending.length)
            moveUp ⟨keepUnlessEmpty left before, ⟨edit.action, lines⟩, keepBefore ending after⟩
              bound
      | other :: before =>
          if other.action = edit.action then
            moveUp ⟨before, ⟨edit.action, other.lines ++ edit.lines⟩, after⟩ bound
          else moveUp ⟨before, edit, other :: after⟩ bound

/-- Moves the edit in focus down as far as it goes. -/
def moveDown (focus : Focus α) : Nat → Focus α
  | 0 => focus
  | bound + 1 =>
      let ⟨before, edit, after⟩ := focus
      match after with
      | [] => focus
      | ⟨.keep, kept⟩ :: after =>
          let start := passedDown kept edit
          if start.isEmpty then
            if kept.isEmpty then moveDown ⟨before, edit, after⟩ bound else focus
          else
            let left := kept.drop start.length
            let lines := edit.lines.drop start.length ++ start
            moveDown ⟨keepAfter start before, ⟨edit.action, lines⟩, keepUnlessEmpty left after⟩
              bound
      | other :: after =>
          if other.action = edit.action then
            moveDown ⟨before, ⟨edit.action, edit.lines ++ other.lines⟩, after⟩ bound
          else moveDown ⟨other :: before, edit, after⟩ bound

/-- The number of runs and lines of a script, which bounds every walk over
it. -/
def extent (script : Script α) : Nat :=
  script.length + (script.flatMap Run.lines).length

/-- Moves all edits of a kind, from the first run after those before. -/
def moveAll (action : Action) (room : Nat) (before after : List (Run α)) : Nat → Script α
  | 0 => before.reverse ++ after
  | bound + 1 =>
      match after with
      | [] => before.reverse
      | run :: after =>
          if run.action = action then
            let ⟨before, edit, after⟩ := moveDown (moveUp ⟨before, run, after⟩ room) room
            moveAll action room (edit :: before) after bound
          else moveAll action room (run :: before) after bound

/-- The compact form of a script. -/
def compact (script : Script α) : Script α :=
  let room := 2 * extent script + 2
  let dropped := moveAll .drop room [] script room
  moveAll .add room [] dropped room

end OpenApiTypes.Diff
