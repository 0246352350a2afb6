/-!
# Computations that may fail
-/

namespace Outreach

/-- A computation of two parts succeeds when both parts do. -/
theorem bind_eq_ok_iff {ε α β : Type} {first : Except ε α} {next : α → Except ε β} {result : β} :
    (first >>= next) = .ok result ↔ ∃ middle, first = .ok middle ∧ next middle = .ok result := by
  cases first <;> simp [bind, Except.bind]

/-- A computation of two parts fails when one of them does, and the second comes after the first. -/
theorem bind_eq_error_iff {ε α β : Type} {first : Except ε α} {next : α → Except ε β} {why : ε} :
    (first >>= next) = .error why ↔
      first = .error why ∨ ∃ middle, first = .ok middle ∧ next middle = .error why := by
  cases first <;> simp [bind, Except.bind]

theorem eq_ok_of_isOk {ε α σ : Type} {outcome : Except ε α × σ} (fallback : α)
    (ok : outcome.1.isOk = true) :
    outcome = (.ok (outcome.1.toOption.getD fallback), outcome.2) := by
  rcases outcome with ⟨_ | value, state⟩
  · cases ok
  · rfl

end Outreach
