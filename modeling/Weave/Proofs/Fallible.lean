/-!
Results that may be errors: what a sequence of steps succeeds with, what becomes of a result whose
error is told in other words, and which result has a given value.
-/

namespace Weave

variable {ε ε' α β : Type}

theorem bind_eq_ok {x : Except ε α} {f : α → Except ε β} {b : β} :
    (x >>= f) = .ok b ↔ ∃ a, x = .ok a ∧ f a = .ok b := by
  cases x with
  | error e => exact ⟨nofun, by rintro ⟨_, ⟨⟩, -⟩⟩
  | ok a => exact ⟨fun later => ⟨a, rfl, later⟩, by rintro ⟨_, ⟨⟩, later⟩; exact later⟩

theorem mapError_eq_ok {x : Except ε α} {f : ε → ε'} {a : α} :
    x.mapError f = .ok a ↔ x = .ok a := by
  cases x with
  | error e => exact ⟨nofun, nofun⟩
  | ok b => exact ⟨by rintro ⟨⟩; rfl, by rintro ⟨⟩; rfl⟩

theorem mapError_eq_error {x : Except ε α} {f : ε → ε'} {e : ε'} :
    x.mapError f = .error e ↔ ∃ cause, x = .error cause ∧ f cause = e := by
  cases x with
  | error cause => exact ⟨by rintro ⟨⟩; exact ⟨cause, rfl, rfl⟩, by rintro ⟨_, ⟨⟩, rfl⟩; rfl⟩
  | ok b => exact ⟨nofun, by rintro ⟨_, ⟨⟩, -⟩⟩

/-- A result that has a value is that value. -/
theorem eq_ok_of_toOption {result : Except ε α} {value : α}
    (given : result.toOption = some value) : result = .ok value := by
  cases result with
  | error e => cases given
  | ok found =>
    cases given
    rfl

end Weave
