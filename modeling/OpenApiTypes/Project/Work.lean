/-
Work that tells events on its way and may fail. What was told before a
failure is kept, and so is whatever was done to the surroundings.
-/
import OpenApiTypes.Project.Failure

namespace OpenApiTypes

/-- Work with the events told so far. -/
abbrev Work (m : Type → Type) := ExceptT Failure (StateT (List Event) m)

namespace Work

variable {m : Type → Type} [Monad m] {α : Type}

/-- Tells events. -/
def tell (events : List Event) : Work m Unit := modify (· ++ events)

/-- An outcome that was reached together with events. -/
def ofOutcome (outcome : List Event × Except Failure α) : Work m α := do
  tell outcome.1
  outcome.2

/-- Asks the surroundings, with the failure that a refusal means. -/
def ask (question : m (Except FileError α)) (refused : FileError → Failure) : Work m α := do
  match ← (liftM question : StateT (List Event) m _) with
  | .ok answer => pure answer
  | .error cause => throw (refused cause)

/-- Asks the surroundings what is never refused. -/
def look (question : m α) : Work m α := (liftM question : StateT (List Event) m α)

/-- The events of some work and what it came to. -/
def outcome (work : Work m α) : m (List Event × Except Failure α) := do
  let (result, events) ← StateT.run (ExceptT.run work) []
  pure (events, result)

end Work

end OpenApiTypes
