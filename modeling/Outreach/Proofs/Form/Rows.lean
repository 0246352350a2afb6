import Outreach.Proofs.Form.Views
import Outreach.Proofs.Store.Choices

/-!
# Rows seen through views

What a view shows of a row that was read from a committed table: texts, times and choices can always
be shown, and so can a number that is whole. Of what is no column nothing is read.
-/

namespace Outreach.Store

open Form

/-- A cell holds something that is read as a whole number. -/
def ReadsAsWhole (cell : Cell) : Prop := ∃ value i, cell = some value ∧ whole .top value = .valid i

/-- Where a whole number stands makes no difference. -/
theorem whole_at {place : Place} {value : Value} {i : Int} (valid : whole place value = .valid i)
    (other : Place) :
    whole other value = .valid i := by
  cases value with
  | int j => exact valid
  | bool b => exact valid
  | float x =>
      simp only [whole, wholeOfFloat] at valid ⊢
      split at valid
      · split at valid
        · cases valid
        · split at valid
          · simp_all
          · cases valid
      · cases valid
  | text s =>
      simp only [whole] at valid ⊢
      split at valid
      · cases valid
      · split at valid
        · simp_all
        · cases valid
  | null => cases valid
  | time t => cases valid
  | date d => cases valid
  | list items => cases valid
  | map fields => cases valid

/-- A cell that goes through a view as a number is one. -/
theorem readsAsWhole_of_wholeForm {cell : Cell} {place : Place} {shown : Value}
    (formed : wholeForm place (cell.getD .null) = .valid shown) : ReadsAsWhole cell := by
  obtain ⟨i, valid, -⟩ := Checked.map_eq_valid formed
  cases cell with
  | none => cases valid
  | some value => exact ⟨value, i, rfl, whole_at valid .top⟩

theorem ReadsAsWhole.shows {cell : Cell} (reads : ReadsAsWhole cell) {name : String}
    {fields : Fields} (there : Keyed.get? name fields = some (cell.getD .null)) :
    ∃ value, (count name).Shows fields value := by
  obtain ⟨value, i, rfl, valid⟩ := reads
  refine ⟨.int i, .read there fun place => ?_⟩
  rw [Option.getD_some]
  change asValue .int whole place value = _
  rw [asValue, whole_at valid place]
  rfl

namespace Table.Committed

variable {t : Table} {schema : TableSchema} {row : Row} {fields : Fields} {column : Column}
  (committed : t.Committed schema) (sound : schema.Sound) (read : t.readRow row = .ok fields)
include committed read

theorem get?_of_noColumn {name : String}
    (noColumn : name ∉ "id" :: schema.columns.map Column.name) :
    Keyed.get? name fields = none := by
  rw [Keyed.get?_eq_none_iff, names_of_readRow read, committed.schema_eq]
  exact noColumn

include sound

variable (rowMem : row ∈ t.rows) (columnMem : column ∈ schema.columns)
include rowMem columnMem

theorem shows_text (kind : column.kind = .text) (required : column.nullable = false) :
    ∃ value, (needed column.name textForm).Shows fields value := by
  obtain ⟨s, cellEq, -⟩ := (committed.fits row rowMem).exists_text columnMem kind required
  have there := committed.get?_of_noChoice sound read columnMem (by simp [kind])
  rw [cellEq] at there
  exact ⟨.text s, .read there fun place => textForm_text place s⟩

theorem shows_optionalText (kind : column.kind = .text) :
    ∃ value, (orMissing column.name textOrNull).Shows fields value := by
  have there := committed.get?_of_noChoice sound read columnMem (by simp [kind])
  cases cellEq : row.cell column.name with
  | none =>
      rw [cellEq] at there
      exact ⟨.null, .read there textOrNull_null⟩
  | some value =>
      have holds := (committed.fits row rowMem).holds column columnMem value cellEq
      rw [kind] at holds
      cases holds with
      | @text s _ =>
          rw [cellEq] at there
          exact ⟨.text s, .read there fun place => textOrNull_text place s⟩

theorem shows_time (kind : column.kind = .time) :
    ∃ value, (orMissing column.name timeOrNull).Shows fields value := by
  have there := committed.get?_of_noChoice sound read columnMem (by simp [kind])
  cases cellEq : row.cell column.name with
  | none =>
      rw [cellEq] at there
      exact ⟨.null, .read there timeOrNull_null⟩
  | some value =>
      have holds := (committed.fits row rowMem).holds column columnMem value cellEq
      rw [kind] at holds
      cases holds with
      | time t =>
          rw [cellEq] at there
          exact ⟨_, .read there fun place => timeOrNull_time place t⟩

theorem shows_choice {choice : String} {members : List (String × String)}
    (kind : column.kind = .choice choice members) (required : column.nullable = false) :
    ∃ value, (needed column.name (choiceForm members)).Shows fields value := by
  obtain ⟨s, cellEq⟩ := (committed.fits row rowMem).exists_choice columnMem kind required
  obtain ⟨member, memberMem, there⟩ := committed.exists_member sound read columnMem kind cellEq
  exact ⟨.text member, .read there fun place =>
    choiceForm_text place (List.mem_map_of_mem memberMem)⟩

end Table.Committed

end Outreach.Store
