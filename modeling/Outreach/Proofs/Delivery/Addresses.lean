import Outreach.Proofs.Delivery.Messages
import Outreach.Proofs.Office.Tables

/-!
# Customers stay addressable

The store takes no text without an encoding, and it writes every other value of a text column in
plain characters. So every customer whom it has taken in can be written to.
-/

namespace Outreach

namespace Store

open Text

/-- A value that a text column keeps is a text with an encoding. -/
theorem Column.Keeps.encoded {column : Column} {value kept : Value} (kind : column.kind = .text)
    (keeps : column.Keeps value (some kept)) :
    ∃ s, kept = .text s ∧ hasLoneSurrogate s = false := by
  obtain ⟨cell, place, prepared, bound⟩ := keeps
  obtain rfl : some value = cell := by simpa [Column.prepare, kind] using prepared
  have separator : hasLoneSurrogate " " = false := by decide
  cases value with
  | null => simp [bindCell, kind, keepPlain] at bound
  | bool b =>
      simp only [bindCell, kind, keepPlain, Except.ok.injEq, Option.some.injEq] at bound
      exact ⟨_, bound.symm, by cases b <;> decide⟩
  | int i =>
      simp only [bindCell, kind, keepPlain] at bound
      split at bound
      · cases bound
        exact ⟨_, rfl, Decimal.hasLoneSurrogate_writeInt i⟩
      · cases bound
  | float x =>
      simp only [bindCell, kind, keepPlain] at bound
      split at bound
      · cases bound
      · cases bound
        exact ⟨_, rfl, Decimal.hasLoneSurrogate_writeFifteen x⟩
  | text s =>
      simp only [bindCell, kind, keepPlain] at bound
      split at bound
      · cases bound
      · rename_i plain
        cases bound
        exact ⟨s, rfl, by simpa using plain⟩
  | time t =>
      simp only [bindCell, kind, keepPlain, Except.ok.injEq, Option.some.injEq] at bound
      exact ⟨_, bound.symm, DateTime.hasLoneSurrogate_isoWith separator t⟩
  | date d =>
      simp only [bindCell, kind, keepPlain, Except.ok.injEq, Option.some.injEq] at bound
      exact ⟨_, bound.symm, Date.hasLoneSurrogate_iso d⟩
  | list items => simp [bindCell, kind] at bound
  | map fields => simp [bindCell, kind] at bound

end Store

namespace Delivery

open Store

variable {t after : Table} {clock : Clock}

theorem addressee_of_cell {row : Row} {value : Value} (plain : Text.hasLoneSurrogate row.id = false)
    (present : row.cell "name" ≠ none)
    (keeps : (textColumn "name").Keeps value (row.cell "name")) : Addressee row := by
  obtain ⟨kept, keptEq⟩ := Option.ne_none_iff_exists'.mp present
  rw [keptEq] at keeps
  obtain ⟨name, rfl, namePlain⟩ := keeps.encoded rfl
  exact ⟨plain, name, keptEq, namePlain⟩

/-- Something is always given for the name of a new customer, if only null. -/
theorem initialValue_name (clock : Clock) (given : Fields) :
    ∃ value, initialValue clock given (textColumn "name") = some value := by
  unfold initialValue
  split
  · split
    · exact ⟨.null, rfl⟩
    · exact ⟨_, rfl⟩
  · exact ⟨.null, rfl⟩

theorem addressee_of_inserts {id : String} {given : Fields} {row : Row}
    (schema : t.schema = customerSchema) (plain : Text.hasLoneSurrogate id = false)
    (inserts : Table.Inserts clock id given t row) : Addressee row := by
  obtain ⟨value, valueEq⟩ := initialValue_name clock given
  have nameMem := nameColumn_mem schema
  rw [← inserts.id_eq] at plain
  exact addressee_of_cell plain (inserts.required _ nameMem rfl)
    (inserts.written _ nameMem value valueEq)

theorem addressee_of_updates {row changed : Row} {fields patched : Fields}
    (schema : t.schema = customerSchema) (addressee : Addressee row)
    (updates : Table.Updates t row changed fields patched) : Addressee changed := by
  have nameMem := nameColumn_mem schema
  have notStamp : (textColumn "name").name ≠ stampColumn := by decide
  have plain : Text.hasLoneSurrogate changed.id = false := by
    rw [updates.id_eq]
    exact addressee.id
  cases agrees : ((Keyed.get? "name" patched).getD .null).agrees
      ((Keyed.get? "name" fields).getD .null) with
  | true =>
      have kept : changed.cell "name" = row.cell "name" := updates.kept _ nameMem notStamp agrees
      refine ⟨plain, ?_⟩
      rw [kept]
      exact addressee.name
  | false =>
      exact addressee_of_cell plain (updates.required _ nameMem rfl)
        (updates.written _ nameMem notStamp agrees)

namespace Addressable

theorem insert {id : String} {given : Fields} (addressable : Addressable t)
    (plain : Text.hasLoneSurrogate id = false)
    (inserted : t.insert clock id given = .ok after) : Addressable after := by
  obtain ⟨row, inserts, rfl⟩ :=
    Table.inserts_of_insert (customerColumns_nodup addressable.schema) inserted
  refine ⟨addressable.schema, fun other otherMem => ?_⟩
  rcases List.mem_append.mp otherMem with stored | new
  · exact addressable.everyone other stored
  · rw [List.mem_singleton.mp new]
    exact addressee_of_inserts addressable.schema plain inserts

theorem update {row : Row} {fields patched : Fields} (addressable : Addressable t)
    (rowMem : row ∈ t.rows)
    (updated : t.update clock row (Session.changes t.schema.columns fields patched) = .ok after) :
    Addressable after := by
  obtain ⟨changed, updates, rfl⟩ :=
    Table.updates_of_update (customerColumns_nodup addressable.schema) updated
  refine ⟨addressable.schema, fun other otherMem => ?_⟩
  obtain ⟨old, oldMem, rfl⟩ := List.mem_map.mp otherMem
  split
  · exact addressee_of_updates addressable.schema (addressable.everyone row rowMem) updates
  · exact addressable.everyone old oldMem

/-- A table of customers stays addressable whatever is written to it. -/
theorem upsert (clock : Clock) (writes : List Writes.Write) (t : Table)
    (addressable : Addressable t) :
    Addressable (t.upsert clock writes).1 := by
  have keeps : Session.Keeps clock Addressable :=
    ⟨fun holds plain _ inserted => holds.insert plain inserted,
      fun holds rowMem updated => holds.update rowMem updated⟩
  exact keeps.upsert writes addressable

theorem empty : Addressable (Table.empty customerSchema) :=
  ⟨rfl, fun _ rowMem => by cases rowMem⟩

theorem delete (addressable : Addressable t) (id : String) : Addressable (t.delete id) :=
  ⟨addressable.schema, fun row rowMem => addressable.everyone row (List.mem_of_mem_filter rowMem)⟩

theorem flush {o : Office} (addressable : Addressable (o.table .customers)) (c : Collection) :
    Addressable ((o.flush c).2.table .customers) :=
  Office.flush_keeps upsert c addressable

/-- The customers of an office stay addressable when it is closed, whatever was queued. -/
theorem close {o : Office} (addressable : Addressable (o.table .customers)) :
    Addressable (o.close.table .customers) :=
  Office.close_keeps upsert addressable

end Addressable

end Delivery

end Outreach
