/-! Steps that may fail: a run of them succeeds exactly if each of them does. -/

namespace TokenGuard

variable {ε ε' α β : Type}

/-- Two steps succeed exactly if the first one does and the second one does with its result. -/
theorem bind_eq_ok_iff {step : Except ε α} {next : α → Except ε β} {result : β} :
    step >>= next = .ok result ↔ ∃ value, step = .ok value ∧ next value = .ok result := by
  cases step with
  | error fault => simp [Bind.bind, Except.bind]
  | ok value => simp [Bind.bind, Except.bind]

/-- A result is changed exactly if there is one. -/
theorem map_eq_ok_iff {step : Except ε α} {f : α → β} {result : β} :
    step.map f = .ok result ↔ ∃ value, step = .ok value ∧ f value = result := by
  cases step with
  | error fault => simp [Except.map]
  | ok value => simp [Except.map]

/-- Rewording faults leaves a result as it is. -/
theorem mapError_eq_ok_iff {step : Except ε α} {f : ε → ε'} {result : α} :
    step.mapError f = .ok result ↔ step = .ok result := by
  -- A fault stays a fault, whatever becomes of it.
  cases step with
  | error fault => exact ⟨nofun, nofun⟩
  | ok value =>
    constructor
    · rintro ⟨⟩
      rfl
    · rintro ⟨⟩
      rfl

/-- A run of steps goes on from what the first one leaves. -/
theorem foldlM_cons_of_ok {step : β → α → Except ε β} {first : α} {rest : List α} {start next : β}
    (stepped : step start first = .ok next) :
    (first :: rest).foldlM step start = rest.foldlM step next := by
  rw [List.foldlM_cons, stepped]
  rfl

end TokenGuard
