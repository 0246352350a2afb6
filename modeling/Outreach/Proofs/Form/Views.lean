import Mathlib.Data.List.Forall2
import Outreach.Proofs.Form.Checks

/-!
# What views show

A view shows an object entry by entry. An entry shows what its form reads, or what stands for it
when it is missing, and the answer names the entries in the order of the view.
-/

namespace Outreach.Form

/-- What an entry of a view shows of an object. -/
inductive ViewEntry.Shows (entry : ViewEntry) (fields : Fields) (value : Value) : Prop
  | read {found : Value} (there : Keyed.get? entry.name fields = some found)
      (valid : ∀ place, entry.form place found = .valid value) : Shows entry fields value
  | missing (absent : Keyed.get? entry.name fields = none)
      (fallback : entry.fallback = some value) :
      Shows entry fields value

theorem viewEntries_of_shows (entries : Entries) {view : View} {values : List Value}
    (shows : List.Forall₂ (fun entry value => entry.Shows entries.fields value) view values) :
    viewEntries entries view = .valid ((view.map ViewEntry.name).zip values) := by
  induction shows with
  | nil => rfl
  | @cons entry value view values first _ ih =>
      rw [viewEntries, ih]
      cases first with
      | read there valid =>
          cases fallback : entry.fallback with
          | none =>
              simp only [Entries.required, there, valid]
              rfl
          | some other =>
              simp only [Entries.withDefault, there, valid]
              rfl
      | missing absent fallback =>
          simp only [fallback, Entries.withDefault, absent]
          rfl

/-- A view of which every entry shows something shows all of it. -/
theorem check_of_shows {view : View} {fields : Fields} {values : List Value}
    (shows : List.Forall₂ (fun entry value => entry.Shows fields value) view values)
    (place : Place) :
    view.check place (.map fields) = .valid (.map ((view.map ViewEntry.name).zip values)) := by
  have valid := viewEntries_of_shows ⟨place, .map fields, fields⟩ shows
  rw [View.check, object, valid]
  rfl

/-- A view that goes well has read every entry that is there. -/
theorem exists_form_of_check {view : View} {place : Place} {fields : Fields} {seen : Value}
    (valid : view.check place (.map fields) = .valid seen) {entry : ViewEntry}
    (entryMem : entry ∈ view) {found : Value} (there : Keyed.get? entry.name fields = some found) :
    ∃ place value, entry.form place found = .valid value := by
  have ofEntries (entries : Entries) (entriesEq : entries.fields = fields) (view : View)
      {shown : Fields} (shownValid : viewEntries entries view = .valid shown) (mem : entry ∈ view) :
      ∃ place value, entry.form place found = .valid value := by
    induction view generalizing shown with
    | nil => cases mem
    | cons first rest ih =>
        rw [viewEntries] at shownValid
        obtain ⟨_, others, started, later, -⟩ := Checked.seq_eq_valid shownValid
        rcases List.mem_cons.mp mem with rfl | inRest
        · obtain ⟨value, formed, -⟩ := Checked.map_eq_valid started
          refine ⟨entries.place.step entry.name, value, ?_⟩
          cases fallback : entry.fallback with
          | none =>
              simp only [fallback, Entries.required, entriesEq, there] at formed
              exact formed
          | some other =>
              simp only [fallback, Entries.withDefault, entriesEq, there] at formed
              exact formed
        · exact ih later inRest
  obtain ⟨entries, entriesValid, -⟩ := Checked.map_eq_valid valid
  exact ofEntries _ rfl view entriesValid entryMem

/-! ## Forms -/

section Forms

variable (place : Place)

@[simp]
theorem textForm_text (s : String) : textForm place (.text s) = .valid (.text s) := by
  simp only [textForm, asValue, text, textBetween]
  rfl

@[simp]
theorem wholeForm_int (i : Int) : wholeForm place (.int i) = .valid (.int i) := rfl

@[simp]
theorem mapForm_map (fields : Fields) :
    mapForm place (.map fields) = .valid (shown (.map fields)) := rfl

@[simp]
theorem timeOrNull_time (time : DateTime) :
    timeOrNull place (.time time) = .valid (shownTime (some time)) := rfl

@[simp]
theorem timeOrNull_null : timeOrNull place .null = .valid .null := rfl

@[simp]
theorem textOrNull_null : textOrNull place .null = .valid .null := rfl

@[simp]
theorem textOrNull_text (s : String) : textOrNull place (.text s) = .valid (.text s) := by
  simp only [textOrNull, asValue, orNull, text, textBetween]
  rfl

theorem choiceForm_text {members : List (String × String)} {s : String}
    (known : s ∈ members.map Prod.snd) :
    choiceForm members place (.text s) = .valid (.text s) := by
  simp only [choiceForm, asValue, oneOf, List.contains_iff_mem.mpr known, if_true]
  rfl

theorem items_texts (index : Nat) (texts : List String) :
    items textForm place index (texts.map .text) = .valid (texts.map .text) := by
  induction texts generalizing index with
  | nil => rfl
  | cons s rest ih =>
      rw [List.map_cons, items, ih, textForm_text]
      rfl

@[simp]
theorem listForm_texts (texts : List String) :
    listForm textForm place (.list (texts.map .text)) = .valid (.list (texts.map .text)) := by
  have valid := items_texts place 0 texts
  simp only [listForm, asValue, list, valid]
  rfl

end Forms

end Outreach.Form
