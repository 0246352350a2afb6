import Outreach.Text.Search
import Mathlib.Data.List.Basic

/-!
# What patterns read

Each part of a pattern reads a piece of the text, and the parts behind it read the rest. A run may
stop at many places, and it is read exactly if one of them lets the rest be read. A pattern that
begins at the start of the text occurs nowhere else.
-/

namespace Outreach.Text.Pattern

variable {allows : CodePoint → Bool} {parts : Pattern} {atStart : Bool} {text : List CodePoint}

theorem readsRun_iff {next : List CodePoint → Bool} : readsRun allows next text = true ↔
    ∃ taken left, text = taken ++ left ∧ taken ≠ [] ∧ (∀ c ∈ taken, allows c = true) ∧
    next left = true := by
  induction text with
  | nil => simp [readsRun]
  | cons c rest ih =>
      rw [readsRun, Bool.and_eq_true, Bool.or_eq_true, ih]
      constructor
      · rintro ⟨allowed, stops | ⟨taken, left, rfl, -, allAllowed, goesOn⟩⟩
        · exact ⟨[c], rest, rfl, by simp, by simpa using allowed, stops⟩
        · exact ⟨c :: taken, left, rfl, by simp,
            List.forall_mem_cons.mpr ⟨allowed, allAllowed⟩, goesOn⟩
      · rintro ⟨taken, left, split, taken_ne_nil, allAllowed, goesOn⟩
        cases taken with
        | nil => exact absurd rfl taken_ne_nil
        | cons first others =>
            obtain ⟨rfl, rfl⟩ := List.cons.inj split
            obtain ⟨allowed, othersAllowed⟩ := List.forall_mem_cons.mp allAllowed
            refine ⟨allowed, ?_⟩
            cases others with
            | nil => exact .inl goesOn
            | cons second more => exact .inr ⟨_, left, rfl, by simp, othersAllowed, goesOn⟩

section Parts

attribute [local simp] readsAt

@[simp]
theorem readsAt_nil : readsAt [] atStart text = true := rfl

@[simp]
theorem readsAt_start : readsAt (.start :: parts) atStart text = true ↔
    atStart = true ∧ readsAt parts atStart text = true := by
  simp

@[simp]
theorem readsAt_finish : readsAt (.finish :: parts) atStart text = true ↔
    text = [] ∧ readsAt parts atStart text = true := by
  simp

@[simp]
theorem readsAt_one : readsAt (.one allows :: parts) atStart text = true ↔
    ∃ c rest, text = c :: rest ∧ allows c = true ∧ readsAt parts false rest = true := by
  cases text <;> simp

@[simp]
theorem readsAt_run : readsAt (.run allows :: parts) atStart text = true ↔ ∃ taken left,
    text = taken ++ left ∧ taken ≠ [] ∧ (∀ c ∈ taken, allows c = true) ∧
    readsAt parts false left = true := by
  simp [readsRun_iff]

end Parts

theorem readsLater_start : readsLater (.start :: parts) text = false := by
  induction text with
  | nil => rfl
  | cons c rest ih => simp [readsLater, ih, readsAt]

/-- The start of a text is at its first code point only. -/
theorem occursIn_start : occursIn (.start :: parts) text = true ↔
    readsAt parts true text = true := by
  rw [occursIn, readsLater_start, Bool.or_false, readsAt_start, eq_self_iff_true, true_and]

end Outreach.Text.Pattern
