/-!
# Computations that can fail

What a computation gives, or its error, told by those of the computation before it.
-/

namespace LogFollow
set_option autoImplicit false

variable {ε δ α β : Type} {x : Except ε α} {a : α} {b : β} {e : ε} {d : δ}

theorem bind_eq_ok {f : α → Except ε β} (h : (x >>= f) = .ok b) : ∃ a, x = .ok a ∧ f a = .ok b := by
  cases x with
  | error e => cases h
  | ok a => exact ⟨a, rfl, h⟩

theorem map_eq_ok_iff {f : α → β} : x.map f = .ok b ↔ ∃ a, x = .ok a ∧ f a = b := by
  cases x <;> simp [Except.map]

theorem map_eq_error_iff {f : α → β} : x.map f = .error e ↔ x = .error e := by
  cases x <;> simp [Except.map]

theorem mapError_eq_ok_iff {f : ε → δ} : x.mapError f = .ok a ↔ x = .ok a := by
  cases x with
  | error e =>
    change Except.error (f e) = Except.ok a ↔ _
    simp
  | ok a' =>
    change Except.ok a' = Except.ok a ↔ _
    simp

theorem mapError_eq_error_iff {f : ε → δ} :
    x.mapError f = .error d ↔ ∃ e, x = .error e ∧ f e = d := by
  cases x with
  | error e =>
    change Except.error (f e) = Except.error d ↔ _
    simp
  | ok a =>
    change Except.ok a = Except.error d ↔ _
    simp

end LogFollow
