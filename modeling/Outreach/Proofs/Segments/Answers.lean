import Outreach.Proofs.Form.Views
import Outreach.Proofs.Office.Population
import Outreach.Proofs.Store.Committed
import Outreach.Segments

/-!
# Answers about segments

Whatever is stored of a segment can be shown, if its rules are a map and its size is a
whole number. Each service finds an audience once and answers with the size and the first
names of what it has found.
-/

namespace Outreach.Segments

open Store Form

/-! ## What is read of a segment -/

/-- The fields are those of the row of a segment with the given rules. -/
structure Reads (row : Row) (rules fields : Fields) : Prop where
  id : (needed "id" textForm).Shows fields (.text row.id)
  name : ∃ s, (needed "name" textForm).Shows fields (.text s)
  rules : Keyed.get? "rules" fields = some (.map rules)
  creator : ∃ s, (needed "creator" textForm).Shows fields (.text s)
  size : Keyed.get? "audience_size" fields = some ((row.cell "audience_size").getD .null)
  created : ∃ value, (orMissing "created_at" timeOrNull).Shows fields value
  updated : ∃ value, (orMissing "updated_at" timeOrNull).Shows fields value
  noNames : Keyed.get? "audience_names" fields = none

theorem reads_of_readRow {t : Table} (committed : t.Committed segmentSchema) {row : Row}
    (rowMem : row ∈ t.rows) {rules fields : Fields} (rulesEq : row.cell "rules" = some (.map rules))
    (read : t.readRow row = .ok fields) : Reads row rules fields := by
  have fits := committed.fits row rowMem
  have cell (column : Column) (columnMem : column ∈ segmentSchema.columns) :
      Keyed.get? column.name fields = some ((row.cell column.name).getD .null) :=
    committed.get?_of_readRow segmentSchema_plain segmentSchema_sound read columnMem
  have text (name : String) (columnMem : textColumn name ∈ segmentSchema.columns) :
      ∃ s, (needed name textForm).Shows fields (.text s) := by
    rcases fits.exists_text columnMem rfl rfl with ⟨s, cellEq, -⟩
    have there := cell _ columnMem
    rw [cellEq] at there
    exact ⟨s, .read there fun place => textForm_text place s⟩
  have time (name : String)
      (columnMem : ⟨name, .time, false, .storeClock⟩ ∈ segmentSchema.columns) :
      ∃ value, (orMissing name timeOrNull).Shows fields value := by
    rcases fits.exists_time columnMem rfl rfl with ⟨time, cellEq⟩
    have there := cell _ columnMem
    simp only [cellEq] at there
    exact ⟨_, .read there fun place => timeOrNull_time place time⟩
  constructor
  · rcases bind_eq_ok_iff.mp read with ⟨cells, -, fieldsEq⟩
    cases fieldsEq
    exact .read rfl fun place => textForm_text place row.id
  · exact text "name" (by simp [segmentSchema])
  · have there := cell ⟨"rules", .structured, false, .nothing⟩ (by simp [segmentSchema])
    simp only [rulesEq] at there
    exact there
  · exact text "creator" (by simp [segmentSchema])
  · exact cell (countColumn "audience_size") (by simp [segmentSchema])
  · exact time "created_at" (by simp [segmentSchema, stampColumns])
  · exact time "updated_at" (by simp [segmentSchema, stampColumns, stampColumn])
  · rw [Keyed.get?_eq_none_iff, names_of_readRow read, committed.schema_eq]
    decide

namespace Reads

variable {row : Row} {rules fields : Fields} (reads : Reads row rules fields)

include reads

theorem rules_shown : (needed "rules" mapForm).Shows fields (shown (.map rules)) :=
  .read reads.rules fun place => mapForm_map place rules

theorem size_shown {size : Int} (sizeEq : row.cell "audience_size" = some (.int size)) :
    (count "audience_size").Shows fields (.int size) := by
  have there := reads.size
  rw [sizeEq] at there
  exact .read there fun place => wholeForm_int place size

/-- The segment as it is shown to a customer. -/
theorem check_customerSegment (place : Place) : ∃ seen,
    View.customerSegment.check place (.map fields) = .valid seen ∧
    seen.field "id" = .text row.id := by
  rcases reads.name with ⟨name, named⟩
  rcases reads.created with ⟨created, createdShown⟩
  rcases reads.updated with ⟨updated, updatedShown⟩
  have shows := check_of_shows (.cons reads.id (.cons named (.cons reads.rules_shown
    (.cons createdShown (.cons updatedShown .nil))))) place
  exact ⟨_, shows, rfl⟩

/-- The segment as it is shown when it was created. -/
theorem check_segment {size : Int} (sizeEq : row.cell "audience_size" = some (.int size))
    (place : Place) :
    ∃ seen, View.segment.check place (.map fields) = .valid seen ∧
    seen.field "audience_size" = .int size := by
  rcases reads.name with ⟨name, named⟩
  rcases reads.creator with ⟨creator, creatorShown⟩
  rcases reads.created with ⟨created, createdShown⟩
  rcases reads.updated with ⟨updated, updatedShown⟩
  have shows :=
    check_of_shows (.cons reads.id (.cons named (.cons reads.rules_shown (.cons creatorShown
    (.cons (reads.size_shown sizeEq) (.cons createdShown (.cons updatedShown .nil))))))) place
  exact ⟨_, shows, rfl⟩

/-- The segment as it is shown together with its audience. -/
theorem check_segmentDetail {size : Int} (sizeEq : row.cell "audience_size" = some (.int size))
    (place : Place) :
    ∃ seen, View.segmentDetail.check place (.map fields) = .valid seen := by
  rcases reads.name with ⟨name, named⟩
  rcases reads.creator with ⟨creator, creatorShown⟩
  rcases reads.created with ⟨created, createdShown⟩
  rcases reads.updated with ⟨updated, updatedShown⟩
  have noNames : (names "audience_names").Shows fields (.list []) := .missing reads.noNames rfl
  have shows :=
    check_of_shows (.cons reads.id (.cons named (.cons reads.rules_shown (.cons creatorShown
      (.cons (reads.size_shown sizeEq) (.cons createdShown (.cons updatedShown
      (.cons noNames .nil)))))))) place
  exact ⟨_, shows⟩

end Reads

/-! ## What is said of an audience -/

variable {o after : Office} {audience : List Value}

/-- The answer gives the size of an audience and its first names. -/
structure Summarizes (sampleSize : Nat) (audience : List Value) (answer : Value) : Prop where
  size : answer.field "audience_size" = sizeOf audience
  names : answer.field "audience_names" = .list (namesOf (audience.take sampleSize))

theorem perform_sampleOf (audience : List Value) (o : Office) :
    Task.perform (sampleOf audience) o = (.ok (.list (namesOf (audience.take o.sampleSize))), o) :=
    rfl

theorem namesOf_eq (records : List Value) :
    namesOf records = (records.map fun record => (record.field "name").display).map .text :=
  List.map_map.symm

/-- A stored segment with rules that are a map, and with a size that is a whole number. -/
structure Stored (s : Row) (rules : Fields) (o : Office) : Prop where
  mem : s ∈ (o.table .segments).rows
  rules : s.cell "rules" = some (.map rules)
  size : ∃ size : Int, s.cell "audience_size" = some (.int size)

variable {s : Row} {rules : Fields}

/-- A stored segment is shown with the audience that its rules have at the moment. -/
theorem look_summarizes (committed : (o.table .segments).Committed segmentSchema)
    (stored : Stored s rules o)
    (ran : Task.perform (Task.audience (.map rules)) o = (.ok audience, o)) :
    ∃ answer, Task.perform (look s.id) o = (.ok answer, o) ∧
    Summarizes o.sampleSize audience answer := by
  rcases stored with ⟨mem, rulesEq, size, sizeEq⟩
  rcases committed.exists_readRow segmentSchema_plain s with ⟨fields, read⟩
  have reads := reads_of_readRow committed mem rulesEq read
  have rulesField : fieldOf "rules" fields = .map rules := by
    rw [fieldOf, reads.rules]
    rfl
  rcases reads.check_segmentDetail sizeEq .top with ⟨seen, valid⟩
  let summary : Fields := [("audience_size", sizeOf audience),
    ("audience_names", .list (namesOf (audience.take o.sampleSize)))]
  have distinct : (summary.map Prod.fst).Nodup := by
    change ["audience_size", "audience_names"].Nodup
    decide
  refine ⟨.map (Keyed.putAll seen.fields summary), ?_, ?_⟩
  · unfold look find
    refine Task.perform_bind_eq_ok_iff.mpr
      ⟨fields, o, Task.perform_demand_eq_ok_iff.mpr ⟨s, committed.row?_eq mem, read, rfl⟩, ?_⟩
    rw [rulesField]
    refine Task.perform_bind_eq_ok_iff.mpr ⟨audience, o, ran, ?_⟩
    refine Task.perform_bind_eq_ok_iff.mpr
      ⟨seen, o, Task.perform_present_eq_ok_iff.mpr ⟨valid, rfl⟩, ?_⟩
    exact Task.perform_bind_eq_ok_iff.mpr ⟨_, o, perform_sampleOf audience o, rfl⟩
  · constructor
    · rw [Value.field, Keyed.get?_putAll distinct]
      rfl
    · rw [Value.field, Keyed.get?_putAll distinct]
      rfl

/-- A preview shows the audience of its rules. -/
theorem preview_summarizes {rule : SegmentRule}
    (ran : Task.perform (Task.audience rule.toValue) o = (.ok audience, o)) :
    ∃ answer, Task.perform (preview ⟨rule⟩ >>= Task.present .preview) o = (.ok answer, o) ∧
      Summarizes o.sampleSize audience answer := by
  let texts : List String :=
    (audience.take o.sampleSize).map fun record => (record.field "name").display
  have namesEq : namesOf (audience.take o.sampleSize) = texts.map .text := namesOf_eq _
  let found : Fields :=
    [("audience_size", sizeOf audience), ("audience_names", .list (texts.map .text))]
  have sizeShown : (needed "audience_size" wholeForm).Shows found (sizeOf audience) :=
    .read rfl fun place => wholeForm_int place _
  have namesShown : (names "audience_names").Shows found (.list (texts.map .text)) :=
    .read rfl fun place => listForm_texts place texts
  have valid := check_of_shows (.cons sizeShown (.cons namesShown .nil)) .top
  refine ⟨_, Task.perform_bind_eq_ok_iff.mpr ⟨found, o, ?_,
    Task.perform_present_eq_ok_iff.mpr ⟨valid, rfl⟩⟩, ?_⟩
  · unfold preview
    refine Task.perform_bind_eq_ok_iff.mpr ⟨audience, o, ran, ?_⟩
    refine Task.perform_bind_eq_ok_iff.mpr ⟨_, o, perform_sampleOf audience o, ?_⟩
    rw [namesEq]
    rfl
  · constructor
    · rfl
    · rw [namesEq]
      rfl

end Outreach.Segments
