/-
Steps that may fail, read back from their success: a sequence succeeded
because each of its steps did. Every function that can fail is taken apart
with these.
-/
import Mathlib.Data.List.Forall2

namespace OpenApiTypes

/-- A sequence of two steps succeeds when both do. -/
theorem bind_eq_ok {ε α β : Type} {x : Except ε α} {f : α → Except ε β} {b : β} :
    (x >>= f) = .ok b ↔ ∃ a, x = .ok a ∧ f a = .ok b := by
  cases x with
  | error e => simp [bind, Except.bind]
  | ok a => simp [bind, Except.bind]

/-- A step whose value is changed succeeds when it does. -/
theorem map_eq_ok {ε α β : Type} {x : Except ε α} {f : α → β} {b : β} :
    x.map f = .ok b ↔ ∃ a, x = .ok a ∧ f a = b := by
  cases x with
  | error e => simp [Except.map]
  | ok a => simp [Except.map]

/-- A step whose value is changed fails when it does. -/
theorem map_eq_error {ε α β : Type} {x : Except ε α} {f : α → β} {error : ε} :
    x.map f = .error error ↔ x = .error error := by
  cases x with
  | error _ => simp [Except.map]
  | ok _ => simp [Except.map]

/-- A value that is changed after two steps is changed after the second. -/
theorem map_bind {ε α β γ : Type} {x : Except ε α} {f : α → Except ε β} {g : β → γ} :
    (x >>= f).map g = x >>= fun a => (f a).map g := by
  cases x with
  | error e => rfl
  | ok a => rfl

/-- A second step that cannot fail only changes the value of the first. -/
theorem bind_ok {ε α β : Type} {x : Except ε α} {f : α → β} :
    (x >>= fun a => .ok (f a)) = x.map f := by
  cases x with
  | error e => rfl
  | ok a => rfl

/-- A list of steps succeeds when each of them does. -/
theorem mapM_eq_ok {ε α β : Type} {f : α → Except ε β} {items : List α} {results : List β} :
    items.mapM f = .ok results ↔ List.Forall₂ (fun a b => f a = .ok b) items results := by
  induction items generalizing results with
  | nil => simp [pure, Except.pure, eq_comm]
  | cons item rest ih =>
      rw [List.mapM_cons, bind_eq_ok]
      constructor
      · intro h
        obtain ⟨first, hfirst, h⟩ := h
        obtain ⟨others, hothers, h⟩ := bind_eq_ok.1 h
        cases h
        exact .cons hfirst (ih.1 hothers)
      · intro h
        rcases h with _ | ⟨hfirst, hothers⟩
        exact ⟨_, hfirst, bind_eq_ok.2 ⟨_, ih.2 hothers, rfl⟩⟩

end OpenApiTypes
