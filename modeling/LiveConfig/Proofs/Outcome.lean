/-! Computations that may fail, told from what they result in. -/

namespace LiveConfig

variable {ε α γ : Type} {x : Except ε α} {y : γ}

theorem of_bind_eq_ok {f : α → Except ε γ} (h : (x >>= f) = .ok y) :
    ∃ z, x = .ok z ∧ f z = .ok y := by
  cases x with
  | error e => contradiction
  | ok z => exact ⟨z, rfl, h⟩

theorem bind_eq_ok_iff {f : α → Except ε γ} :
    (x >>= f) = .ok y ↔ ∃ z, x = .ok z ∧ f z = .ok y := by
  refine ⟨of_bind_eq_ok, ?_⟩
  rintro ⟨z, rfl, h⟩
  exact h

theorem map_eq_ok_iff {f : α → γ} : x.map f = .ok y ↔ ∃ z, x = .ok z ∧ f z = y := by
  cases x <;> simp [Except.map]

end LiveConfig
