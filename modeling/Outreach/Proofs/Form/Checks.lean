import Outreach.Form.View
import Outreach.Office.Task

/-!
# Checks that go well

A check of an object goes well when the checks of its entries do, each with its own value.
-/

namespace Outreach.Form

theorem textBetween_eq_valid {least : Nat} {most : Option Nat} {place : Place} {value : Value}
    {s : String} (checked : textBetween least most place value = .valid s) :
    value = .text s ∧ (0 < least → Text.hasLoneSurrogate s = false) := by
  unfold textBetween at checked
  split at checked
  · split at checked
    · cases checked
    · rename_i plain
      split at checked
      · cases checked
      · split at checked
        · cases checked
        · cases checked
          exact ⟨rfl, fun bounded => by simpa [bounded] using plain⟩
  · cases checked

theorem Checked.seq_eq_valid {α β : Type} {f : Checked (α → β)} {x : Checked α} {result : β}
    (valid : (f <*> x) = .valid result) :
    ∃ g value, f = .valid g ∧ x = .valid value ∧ result = g value := by
  change Checked.seq f (fun _ => x) = .valid result at valid
  cases f with
  | invalid problems => cases x <;> simp [Checked.seq] at valid
  | valid g =>
      cases x with
      | invalid problems => simp [Checked.seq] at valid
      | valid value => exact ⟨g, value, rfl, rfl, (Checked.valid.inj valid).symm⟩

theorem Checked.map_eq_valid {α β : Type} {g : α → β} {x : Checked α} {result : β}
    (valid : (g <$> x) = .valid result) : ∃ value, x = .valid value ∧ result = g value := by
  change Checked.map g x = .valid result at valid
  cases x with
  | invalid problems => cases valid
  | valid value => exact ⟨value, rfl, (Checked.valid.inj valid).symm⟩

/-- An entry that was asked for has passed its check. -/
theorem required_eq_valid {α : Type} {entries : Entries} {name : String} {check : Check α}
    {result : α} (valid : entries.required name check = .valid result) : ∃ place value,
      Keyed.get? name entries.fields = some value ∧ check place value = .valid result := by
  unfold Entries.required at valid
  split at valid
  · rename_i value found
    exact ⟨_, value, found, valid⟩
  · cases valid

theorem object_eq_valid {α : Type} {body : Entries → Checked α} {place : Place} {value : Value}
    {result : α} (valid : object body place value = .valid result) :
    ∃ entries, body entries = .valid result := by
  unfold object at valid
  split at valid
  · exact ⟨_, valid⟩
  · cases valid

/-- A view that starts with the identifier shows it. -/
theorem shows_id {view : View} {place : Place} {fields : Fields} {seen : Value}
    (valid : View.check (needed "id" textForm :: view) place (.map fields) = .valid seen) :
    ∃ more, seen = .map (("id", .text (textField "id" fields)) :: more) := by
  obtain ⟨entries, entriesValid, rfl⟩ := Checked.map_eq_valid valid
  obtain ⟨_, more, started, -, rfl⟩ := Checked.seq_eq_valid entriesValid
  obtain ⟨value, idValid, rfl⟩ := Checked.map_eq_valid started
  refine ⟨more, ?_⟩
  obtain ⟨_, found, foundEq, textValid⟩ := required_eq_valid idValid
  obtain ⟨s, textEq, rfl⟩ := Checked.map_eq_valid textValid
  obtain ⟨rfl, -⟩ := textBetween_eq_valid textEq
  have foundEq : Keyed.get? "id" fields = some (.text s) := foundEq
  rw [textField, fieldOf, foundEq]
  rfl

end Outreach.Form
