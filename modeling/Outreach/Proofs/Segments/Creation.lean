import Outreach.Proofs.Audience.Acceptance
import Outreach.Proofs.Segments.Answers

/-!
# Storing a segment

A new segment is stored with the size of the audience that its rules have at the moment. It can be
stored unless its creator has a segment of that name, and the answer shows the size that was found.
-/

namespace Outreach

namespace Form

open Store

theorem SegmentRule.exists_toValue (rule : SegmentRule) : ∃ fields, rule.toValue = .map fields := by
  cases rule with
  | group c rules => exact ⟨_, by rw [SegmentRule.toValue]⟩
  | condition name c operand => exact ⟨_, by rw [SegmentRule.toValue]⟩

theorem SegmentRule.isWritable_group {c : Audience.Connective} {rules : List SegmentRule} :
    (SegmentRule.group c rules).toValue.isWritable =
    Value.areWritable (SegmentRule.toValues rules) := by
  simp [SegmentRule.toValue, Value.isWritable, Value.areFieldsWritable]

theorem SegmentRule.isWritable_condition {name : String} {c : Comparison} {operand : Operand} :
    (SegmentRule.condition name c operand).toValue.isWritable = operand.toValue.isWritable := by
  simp [SegmentRule.toValue, Value.isWritable, Value.areFieldsWritable]

mutual

/-- A rule has a JSON form if none of its numbers is too long to be written out. -/
theorem exists_write_toValue : (rule : SegmentRule) → rule.toValue.isWritable = true →
    ∃ s, Json.write? rule.toValue = .ok s
  | .group c rules, writable => by
      rw [SegmentRule.isWritable_group] at writable
      rcases exists_writeItems_toValues rules writable with ⟨parts, partsEq⟩
      simp [SegmentRule.toValue, Json.write?, Json.writeEntries?, partsEq, bind, Except.bind]
  | .condition name c operand, writable => by
      rw [SegmentRule.isWritable_condition] at writable
      cases operand with
      | whole i =>
          rw [Operand.toValue, Value.isWritable] at writable
          simp [SegmentRule.toValue, Operand.toValue, Json.write?, Json.writeEntries?,
            writable, bind, Except.bind]
      | real x =>
          simp [SegmentRule.toValue, Operand.toValue, Json.write?, Json.writeEntries?, bind,
            Except.bind]
      | word s =>
          simp [SegmentRule.toValue, Operand.toValue, Json.write?, Json.writeEntries?, bind,
            Except.bind]

theorem exists_writeItems_toValues : (rules : List SegmentRule) →
    Value.areWritable (SegmentRule.toValues rules) = true →
    ∃ parts, Json.writeItems? (SegmentRule.toValues rules) = .ok parts
  | [], _ => ⟨[], rfl⟩
  | rule :: rest, writable => by
      rw [SegmentRule.toValues, Value.areWritable, Bool.and_eq_true] at writable
      rcases exists_write_toValue rule writable.1 with ⟨s, sEq⟩
      rcases exists_writeItems_toValues rest writable.2 with ⟨parts, partsEq⟩
      simp [SegmentRule.toValues, Json.writeItems?, sEq, partsEq, bind, Except.bind]

end

mutual

/-- So has it an outline. -/
theorem exists_outline_toValue (depth : Int) : (rule : SegmentRule) →
    rule.toValue.isWritable = true →
    ∃ text, (Audience.Rule.ofValue rule.toValue).outline depth = .ok text
  | .group c rules, writable => by
      rw [SegmentRule.isWritable_group] at writable
      rcases exists_outlines_toValues (depth + 1) rules writable with ⟨texts, textsEq⟩
      rw [(isGroup_toValue c rules).ofValue_eq, ← Audience.Rule.ofValues_eq_map,
        Audience.Rule.outline, textsEq]
      exact ⟨_, rfl⟩
  | .condition name c operand, writable => by
      rw [SegmentRule.isWritable_condition] at writable
      rw [(isCondition_toValue name c operand).ofValue_eq, Audience.Rule.outline, writable]
      exact ⟨_, rfl⟩

theorem exists_outlines_toValues (depth : Int) : (rules : List SegmentRule) →
    Value.areWritable (SegmentRule.toValues rules) = true → ∃ texts,
      Audience.Rule.outlines depth (Audience.Rule.ofValues (SegmentRule.toValues rules)) = .ok texts
  | [], _ => ⟨[], rfl⟩
  | rule :: rest, writable => by
      rw [SegmentRule.toValues, Value.areWritable, Bool.and_eq_true] at writable
      rcases exists_outline_toValue depth rule writable.1 with ⟨text, textEq⟩
      rcases exists_outlines_toValues depth rest writable.2 with ⟨texts, textsEq⟩
      rw [SegmentRule.toValues, Audience.Rule.ofValues, Audience.Rule.outlines, textEq, textsEq]
      exact ⟨_, rfl⟩

end

end Form

namespace Store

theorem eq_text_of_agrees {s : String} {value : Value}
    (agrees : (Value.text s).agrees value = true) :
    value = .text s := by
  cases value <;> simp [Value.agrees, Value.sameNumber, Value.quantity?] at agrees
  rw [agrees]

/-- Only a cell with the same text is the same as a cell with a text. -/
theorem eq_of_sameCell {s : String} {cell : Cell} (same : sameCell (some (.text s)) cell = true) :
    cell = some (.text s) := by
  cases cell with
  | none => cases same
  | some value => rw [eq_text_of_agrees same]

theorem Column.Keeps.of_map {column : Column} {kept : Cell} (kind : column.kind = .structured)
    {fields : Fields} (keeps : column.Keeps (.map fields) kept) : kept = some (.map fields) := by
  rcases keeps with ⟨cell, place, prepared, bound⟩
  simp only [Column.prepare, kind] at prepared
  split at prepared
  · cases prepared
    simp only [bindCell, kind, Except.ok.injEq] at bound
    rw [← bound, keepStructured]
    · intro x isFloat
      cases isFloat
    · intro i isInt
      cases isInt
  · cases prepared

end Store

namespace Segments

open Store Form

/-! ## The row of a new segment -/

section Rows

variable {t after : Table} {name creator : String} {rules : Fields} {size : Nat}

/-- What is given of a new segment. -/
def given (name creator : String) (rules : Fields) (size : Nat) : Fields :=
  [("name", .text name), ("rules", .map rules), ("creator", .text creator),
    ("audience_size", .int size)]

/-- A segment is not in the way of another when its name or its creator differs. -/
def Free (name creator : String) (t : Table) : Prop :=
  ∀ row ∈ t.rows, row.textCell? "name" = some name → row.textCell? "creator" ≠ some creator

theorem firstClash?_eq_none (schema : t.schema = segmentSchema) (free : Free name creator t)
    {row : Row} (nameEq : row.cell "name" = some (.text name))
    (creatorEq : row.cell "creator" = some (.text creator)) :
    firstClash? t row = none := by
  rw [firstClash?, schema]
  apply List.find?_eq_none.mpr
  intro columns columnsMem
  rw [List.mem_singleton.mp columnsMem, List.any_eq_true]
  rintro ⟨other, otherMem, clashing⟩
  simp only [clashes, List.all_cons, List.all_nil, Bool.and_true, Bool.and_eq_true] at clashing
  rcases clashing with ⟨-, sameName, sameCreator⟩
  rw [show (Keyed.get? "name" row.cells).getD none = some (.text name) from nameEq] at sameName
  rw [show (Keyed.get? "creator" row.cells).getD none =
    some (.text creator) from creatorEq] at sameCreator
  have otherName : other.cell "name" = some (.text name) := eq_of_sameCell sameName
  have otherCreator : other.cell "creator" = some (.text creator) := eq_of_sameCell sameCreator
  exact free other otherMem (by rw [Row.textCell?, otherName]) (by rw [Row.textCell?, otherCreator])

/-- A segment is stored when its name is free and everything given has a form in the store. -/
theorem exists_insert (clock : Clock) (id : String) (schema : t.schema = segmentSchema)
    (free : Free name creator t) (namePlain : Text.hasLoneSurrogate name = false)
    (creatorPlain : Text.hasLoneSurrogate creator = false)
    (written : ∃ s, Json.write? (.map rules) = .ok s) (fits : fitsWord size = true) :
    ∃ after, t.insert clock id (given name creator rules size) = .ok after := by
  rcases written with ⟨s, written⟩
  have named : t.namedValues clock (given name creator rules size) =
      [(textColumn "name", .text name), (⟨"rules", .structured, false, .nothing⟩, .map rules),
        (textColumn "creator", .text creator), (countColumn "audience_size", .int size)] := by
    rw [Table.namedValues, schema]
    rfl
  have prepares : prepareAll (t.namedValues clock (given name creator rules size)) =
      .ok [(textColumn "name", some (.text name)),
        (⟨"rules", .structured, false, .nothing⟩, some (.map rules)),
        (textColumn "creator", some (.text creator)),
        (countColumn "audience_size", some (.int size))] := by
    rw [named]
    simp [prepareAll, Column.prepare, textColumn, countColumn, written, keepStructured, bind,
      Except.bind]
  let cells : List (String × Cell) := [("name", some (.text name)), ("rules", some (.map rules)),
    ("creator", some (.text creator)), ("audience_size", some (.int size))]
  have binds : bindAll 2 [(textColumn "name", some (.text name)),
      (⟨"rules", .structured, false, .nothing⟩, some (.map rules)),
      (textColumn "creator", some (.text creator)),
      (countColumn "audience_size", some (.int size))] =
      .ok cells := by
    simp [bindAll, textColumn, countColumn, namePlain, creatorPlain, fits, keepPlain, bind,
      Except.bind, cells]
  have noneEmpty : firstEmpty? t.schema.columns (t.newRow clock id cells).cells = none := by
    rw [Table.newRow, schema]
    rfl
  have noClash : firstClash? t (t.newRow clock id cells) = none := by
    apply firstClash?_eq_none schema free
    · rw [Row.cell, Table.newRow, schema]
      rfl
    · rw [Row.cell, Table.newRow, schema]
      rfl
  have checked : checkRow t (t.newRow clock id cells) = .ok () := by
    rw [checkRow, noneEmpty]
    simp only
    rw [noClash]
  exact ⟨_, Table.insert_eq_ok_iff.mpr ⟨_, cells, prepares, binds, checked, rfl⟩⟩

/-- A segment that was stored is found and can be shown with the size that was given. -/
theorem shown_of_insert (committed : t.Committed segmentSchema) {clock : Clock} {id : String}
    (fresh : t.row? id = none)
    (inserted : t.insert clock id (given name creator rules size) = .ok after) :
    ∃ row fields shown, after.row? id = some row ∧ after.readRow row = .ok fields ∧
      View.segment.check .top (.map fields) = .valid shown ∧
      shown.field "audience_size" = .int size := by
  have kept := committed.insert segmentSchema_sound fresh inserted
  have distinct : (t.schema.columns.map Column.name).Nodup := by
    rw [committed.schema_eq]
    exact segmentSchema_sound.distinct
  rcases Table.inserts_of_insert distinct inserted with ⟨row, inserts, rfl⟩
  have found : Table.row? id { t with rows := t.rows ++ [row] } = some row := by
    rw [Table.row?_append, fresh, if_pos inserts.id_eq]
    rfl
  have rulesMem : ⟨"rules", .structured, false, .nothing⟩ ∈ t.schema.columns := by
    simp [committed.schema_eq, segmentSchema]
  have sizeMem : countColumn "audience_size" ∈ t.schema.columns := by
    simp [committed.schema_eq, segmentSchema]
  have rulesEq : row.cell "rules" = some (.map rules) :=
    (inserts.written _ rulesMem (.map rules) rfl).of_map rfl
  have sizeEq : row.cell "audience_size" = some (.int size) :=
    (inserts.written _ sizeMem (.int size) rfl).of_int rfl
  rcases kept.exists_readRow segmentSchema_plain row with ⟨fields, read⟩
  have rowMem : row ∈ t.rows ++ [row] := by simp
  have reads := reads_of_readRow kept rowMem rulesEq read
  rcases reads.check_segment sizeEq .top with ⟨shown, valid, shownSize⟩
  exact ⟨row, fields, shown, found, read, valid, shownSize⟩

end Rows

/-! ## The service -/

variable {o after : Office} {segment : NewSegment} {audience : List Value} {rules : Fields}

theorem insertion_of_create {fields : Fields}
    (ran : Task.perform (create segment) o = (.ok fields, after)) : ∃ audience middle,
      Task.perform (Task.audience segment.rules.toValue) o = (.ok audience, middle) ∧
      Task.perform (Task.insert .segments [("name", .text segment.name),
        ("rules", segment.rules.toValue),
        ("creator", .text segment.creator), ("audience_size", sizeOf audience)]) middle =
        (.ok fields, after) := by
  unfold create Task.selectFirst at ran
  simp only [Task.perform_bind_eq_ok_iff, Task.perform_select_eq_ok_iff,
    Task.perform_pure_eq_ok_iff] at ran
  rcases ran with ⟨first?, _, ⟨rows, _, ⟨-, rfl⟩, -, rfl⟩, ran⟩
  cases first? with
  | some row => cases ran
  | none =>
      rcases Task.perform_bind_eq_ok_iff.mp ran with ⟨text, middle, outlined, inserted⟩
      rcases Task.perform_outline_eq_ok_iff.mp outlined with ⟨-, rfl⟩
      exact Task.perform_bind_eq_ok_iff.mp inserted

/-- The answer to a new segment shows the size of the audience that its rules have. -/
theorem create_shows_size (committed : (o.table .segments).Committed segmentSchema)
    (fresh : (o.table .segments).row? (Office.identifier (o.drawn + 1)) = none)
    (found : Task.perform (Task.audience segment.rules.toValue) o = (.ok audience, o))
    {answer : Value}
    (ran : Task.perform (create segment >>= Task.present .segment) o = (.ok answer, after)) :
    answer.field "audience_size" = sizeOf audience := by
  rcases Task.perform_bind_eq_ok_iff.mp ran with ⟨fields, created, createRan, presented⟩
  rcases Task.perform_present_eq_ok_iff.mp presented with ⟨valid, -⟩
  rcases insertion_of_create createRan with ⟨again, middle, audienceRan, insertRan⟩
  rw [found] at audienceRan
  cases audienceRan
  rcases Task.perform_insert_eq_ok_iff.mp insertRan with ⟨t, row, inserted, rowEq, read, -⟩
  rcases segment.rules.exists_toValue with ⟨rules, rulesEq⟩
  rw [rulesEq] at inserted
  rcases shown_of_insert committed fresh inserted with ⟨other, otherFields, shown, otherEq,
    otherRead, otherValid, size⟩
  rw [rowEq] at otherEq
  cases otherEq
  rw [read] at otherRead
  cases otherRead
  rw [valid] at otherValid
  cases otherValid
  exact size

/-- Nothing keeps a new segment with an audience of a given size from being stored. -/
structure Storable (segment : NewSegment) (size : Nat) (o : Office) : Prop where
  name : Text.hasLoneSurrogate segment.name = false
  creator : Text.hasLoneSurrogate segment.creator = false
  numbers : segment.rules.toValue.isWritable = true
  free : Free segment.name segment.creator (o.table .segments)
  fits : fitsWord size = true

theorem exists_create (committed : (o.table .segments).Committed segmentSchema)
    (fresh : (o.table .segments).row? (Office.identifier (o.drawn + 1)) = none)
    (found : Task.perform (Task.audience segment.rules.toValue) o = (.ok audience, o))
    (storable : Storable segment audience.length o) :
    ∃ answer after, Task.perform (create segment >>= Task.present .segment) o =
    (.ok answer, after) := by
  rcases segment.rules.exists_toValue with ⟨rules, rulesEq⟩
  have written := exists_write_toValue segment.rules storable.numbers
  rcases exists_outline_toValue 0 segment.rules storable.numbers with ⟨text, outlined⟩
  rw [rulesEq] at written outlined found
  rcases exists_insert o.clock (Office.identifier (o.drawn + 1)) committed.schema_eq storable.free
    storable.name
    storable.creator written storable.fits with ⟨t, inserted⟩
  rcases shown_of_insert committed fresh inserted with ⟨row, fields, shown, rowEq, read, valid, -⟩
  have noneTaken : ((o.table .segments).rowsWith "name" segment.name).filter
      (fun row => row.textCell? "creator" = some segment.creator) = [] := by
    apply List.filter_eq_nil_iff.mpr
    intro row rowMem
    rcases List.mem_filter.mp rowMem with ⟨stored, named⟩
    simpa using storable.free row stored (by simpa using named)
  have created : Task.perform (create segment) o =
      (.ok fields, { o with drawn := o.drawn + 1, tables := o.tables.set .segments t }) := by
    unfold create Task.selectFirst
    refine Task.perform_bind_eq_ok_iff.mpr ⟨none, o, ?_, ?_⟩
    · refine Task.perform_bind_eq_ok_iff.mpr
        ⟨[], o, Task.perform_select_eq_ok_iff.mpr ⟨?_, rfl⟩, rfl⟩
      rw [noneTaken]
      rfl
    · simp only [rulesEq]
      refine Task.perform_bind_eq_ok_iff.mpr ⟨text, o,
        Task.perform_outline_eq_ok_iff.mpr ⟨outlined, rfl⟩, ?_⟩
      refine Task.perform_bind_eq_ok_iff.mpr ⟨audience, o, found, ?_⟩
      exact Task.perform_insert_eq_ok_iff.mpr ⟨t, row, inserted, rowEq, read, rfl⟩
  exact ⟨shown, _, Task.perform_bind_eq_ok_iff.mpr
    ⟨fields, _, created, Task.perform_present_eq_ok_iff.mpr ⟨valid, rfl⟩⟩⟩

end Segments

end Outreach
