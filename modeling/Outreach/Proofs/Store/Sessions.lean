import Outreach.Proofs.Store.Rows
import Outreach.Store.Upsert

/-!
# What one write does to a batch

A write is applied by an insert or by an update, or it leaves the table as it is because no column
changes. All it needs of the batch is the table; what was refused before makes no difference to it.
-/

namespace Outreach.Store

namespace Session

variable {s next : Session} {clock : Clock} {w : Writes.Write}

/-! ## Applying a write -/

/-- The identifier has an encoding and no row. -/
theorem load_eq_none_iff {id : String} : s.load id = .ok none ↔
    Text.hasLoneSurrogate id = false ∧ s.table.row? id = none := by
  unfold load
  cases Text.hasLoneSurrogate id with
  | true => simp
  | false =>
      cases found : s.table.row? id with
      | none => simp
      | some row => cases read : s.table.readRow row <;> simp [read]

/-- The identifier has an encoding, and a row whose fields are those that the table reads. -/
theorem load_eq_some_iff {id : String} {row : Row} {fields : Fields} :
    s.load id = .ok (some (row, fields)) ↔ Text.hasLoneSurrogate id = false ∧
      s.table.row? id = some row ∧ s.table.readRow row = .ok fields := by
  unfold load
  cases Text.hasLoneSurrogate id with
  | true => simp
  | false =>
      cases found : s.table.row? id with
      | none => simp
      | some other =>
          cases read : s.table.readRow other with
          | error cell => grind
          | ok others => grind

theorem create_eq_ok_iff : s.create clock w = .ok next ↔ ∃ values after,
    w.patch.applyTo none = .ok values ∧
    s.table.insert clock w.id (Keyed.restrict s.columnNames values) = .ok after ∧
    next = { s with
      table := after
      result := { s.result with inserted := s.result.inserted + 1 } } := by
  unfold create
  cases w.patch.applyTo none with
  | error fault => simp [bind, Except.bind]
  | ok values => simp [bind_eq_ok_iff, eq_comm (a := next)]

/-- A write that creates a row does to the table what the insert does. -/
theorem map_table_create {values : Fields} (clock : Clock) (s : Session)
    (applied : w.patch.applyTo none = .ok values) : (s.create clock w).map Session.table =
      s.table.insert clock w.id (Keyed.restrict s.columnNames values) := by
  unfold create
  rw [applied]
  change Except.map Session.table (s.table.insert clock w.id _ >>= _) = _
  cases s.table.insert clock w.id (Keyed.restrict s.columnNames values) <;> rfl

/-- What a write does to the table: it creates a row, changes columns of the row that is there, or
changes nothing. -/
inductive Applies (clock : Clock) (w : Writes.Write) (s : Session) : Table → Prop
  | creates {values : Fields} {after : Table} (encodable : Text.hasLoneSurrogate w.id = false)
      (missing : s.table.row? w.id = none) (applied : w.patch.applyTo none = .ok values)
      (inserted : s.table.insert clock w.id (Keyed.restrict s.columnNames values) = .ok after) :
      Applies clock w s after
  | updates {row : Row} {fields patched : Fields} {after : Table}
      (found : s.table.row? w.id = some row) (read : s.table.readRow row = .ok fields)
      (patchedEq : s.patched w fields = .ok patched)
      (updated : s.table.update clock row (changes s.table.schema.columns fields patched) =
        .ok after) :
      Applies clock w s after
  | keeps {row : Row} {fields patched : Fields} (found : s.table.row? w.id = some row)
      (read : s.table.readRow row = .ok fields) (patchedEq : s.patched w fields = .ok patched)
      (unchanged : changes s.table.schema.columns fields patched = []) : Applies clock w s s.table

/-- What an applied write does beside its change of the table: it counts once, as an insert exactly
when its identifier had no row. -/
structure Applied (w : Writes.Write) (s next : Session) : Prop where
  refused : next.refused = s.refused
  failed : next.result.failed = s.result.failed
  inserted : next.result.inserted =
    s.result.inserted + if (s.table.row? w.id).isNone then 1 else 0
  total : next.result.total = s.result.total + 1

theorem applies_of_apply (applied : s.apply clock w = .ok next) :
    Applies clock w s next.table ∧ Applied w s next := by
  unfold apply at applied
  split at applied
  · cases applied
  · rename_i loaded
    obtain ⟨encodable, missing⟩ := load_eq_none_iff.mp loaded
    obtain ⟨values, after, valuesEq, inserted, rfl⟩ := create_eq_ok_iff.mp applied
    exact ⟨.creates encodable missing valuesEq inserted, rfl, rfl, by simp [missing],
      by simp [Writes.BulkResult.total]; omega⟩
  · rename_i row fields loaded
    obtain ⟨-, found, read⟩ := load_eq_some_iff.mp loaded
    obtain ⟨patched, patchedEq, modified⟩ := bind_eq_ok_iff.mp applied
    obtain ⟨after, afterEq, counted⟩ := bind_eq_ok_iff.mp modified
    obtain rfl := Except.ok.inj counted
    have counts : Applied w s
        ⟨after, s.refused, { s.result with modified := s.result.modified + 1 }⟩ :=
      ⟨rfl, rfl, by simp [found], by simp [Writes.BulkResult.total]; omega⟩
    unfold Table.amend at afterEq
    split at afterEq
    · rename_i unchanged
      obtain rfl := Except.ok.inj afterEq
      exact ⟨.keeps found read patchedEq (List.isEmpty_iff.mp unchanged), counts⟩
    · exact ⟨.updates found read patchedEq afterEq, counts⟩

/-- A write whose identifier has no row creates it, unless the identifier has no encoding. -/
theorem apply_of_row?_eq_none (clock : Clock) (missing : s.table.row? w.id = none) :
    s.apply clock w = s.create clock w ∨ ∃ why, s.apply clock w = .error (.broken why) := by
  unfold apply
  cases encodable : Text.hasLoneSurrogate w.id with
  | true =>
      refine .inr ⟨.unencodable w.id, ?_⟩
      simp [load, encodable]
  | false => exact .inl (by rw [load_eq_none_iff.mpr ⟨encodable, missing⟩])

/-- A table keeps its columns. -/
theorem Applies.schema_eq {after : Table} (applies : Applies clock w s after) :
    after.schema = s.table.schema := by
  cases applies with
  | creates _ _ _ inserted =>
      obtain ⟨prepared, bound, _, _, _, rfl⟩ := Table.insert_eq_ok_iff.mp inserted
      rfl
  | updates _ _ _ updated =>
      obtain ⟨prepared, bound, _, _, _, rfl⟩ := Table.update_eq_ok_iff.mp updated
      rfl
  | keeps => rfl

/-- A write leaves every other row alone. -/
theorem Applies.row?_other {after : Table} (applies : Applies clock w s after) {other : String}
    (different : other ≠ w.id) : after.row? other = s.table.row? other := by
  cases applies with
  | creates _ _ _ inserted =>
      obtain ⟨prepared, bound, _, _, _, rfl⟩ := Table.insert_eq_ok_iff.mp inserted
      simp [Table.row?_append, Table.newRow, Ne.symm different]
  | updates found _ _ updated =>
      obtain ⟨prepared, bound, _, _, _, rfl⟩ := Table.update_eq_ok_iff.mp updated
      rw [Table.row?_replace, Table.changedRow, Table.row?_id found]
      cases otherFound : s.table.row? other with
      | none => rfl
      | some otherRow => simp [Table.row?_id otherFound, different]
  | keeps => rfl

/-- A write that is applied leaves a row of its identifier. -/
theorem Applies.row?_ne_none {after : Table} (applies : Applies clock w s after) :
    after.row? w.id ≠ none := by
  cases applies with
  | creates _ _ _ inserted =>
      obtain ⟨prepared, bound, _, _, _, rfl⟩ := Table.insert_eq_ok_iff.mp inserted
      simp [Table.row?_append, Table.newRow]
  | updates found _ _ updated =>
      obtain ⟨prepared, bound, _, _, _, rfl⟩ := Table.update_eq_ok_iff.mp updated
      simp [Table.row?_replace, found]
  | keeps found _ _ _ => simp [found]

/-! ## What every statement keeps -/

/-- Inserts under new identifiers and updates of stored rows keep a property of tables. -/
structure Keeps (clock : Clock) (good : Table → Prop) : Prop where
  insert : ∀ {t after : Table} {id : String} {given : Fields}, good t →
    Text.hasLoneSurrogate id = false → t.row? id = none →
    t.insert clock id given = .ok after → good after
  update : ∀ {t after : Table} {row : Row} {fields patched : Fields}, good t → row ∈ t.rows →
    t.update clock row (changes t.schema.columns fields patched) = .ok after → good after

namespace Keeps

variable {good : Table → Prop} (keeps : Keeps clock good)

include keeps

theorem apply (holds : good s.table) (applied : s.apply clock w = .ok next) : good next.table := by
  generalize next.table = after, (applies_of_apply applied).1 = applies
  cases applies with
  | creates encodable missing _ inserted => exact keeps.insert holds encodable missing inserted
  | updates found _ _ updated => exact keeps.update holds (List.mem_of_find?_eq_some found) updated
  | keeps => exact holds

theorem takeAll {writes : List Writes.Write} (holds : good s.table)
    (taken : s.takeAll clock writes = .ok next) : good next.table := by
  induction writes generalizing s with
  | nil =>
      obtain rfl := Except.ok.inj taken
      exact holds
  | cons w rest ih =>
      obtain ⟨between, first, later⟩ := bind_eq_ok_iff.mp taken
      refine ih ?_ later
      unfold Session.take at first
      split at first
      · cases first
        exact holds
      · split at first
        · rename_i applied
          cases first
          exact keeps.apply holds applied
        · cases first
          exact holds
        · cases first

/-- What the statements keep, a whole batch keeps. -/
theorem upsert (writes : List Writes.Write) {t : Table} (holds : good t) :
    good (t.upsert clock writes).1 := by
  unfold Table.upsert
  split
  · rename_i final taken
    exact keeps.takeAll (s := start t) holds taken
  · exact holds

end Keeps

/-! ## What was refused makes no difference -/

/-- The batch without what it refused. -/
def forget (s : Session) : Session :=
  { s with refused := [], result := { s.result with failed := [] } }

theorem create_forget (clock : Clock) (w : Writes.Write) (s : Session) :
    s.forget.create clock w = forget <$> s.create clock w := by
  unfold create
  split
  · simp only [map_bind]
    rfl
  · rfl

theorem modify_forget (clock : Clock) (w : Writes.Write) (row : Row) (fields : Fields)
    (s : Session) :
    s.forget.modify clock w row fields = forget <$> s.modify clock w row fields := by
  simp only [modify, map_bind]
  rfl

/-- A write is applied in the same way whatever was refused before it. -/
theorem apply_forget (clock : Clock) (w : Writes.Write) (s : Session) :
    s.forget.apply clock w = forget <$> s.apply clock w := by
  unfold apply
  rw [show s.forget.load w.id = s.load w.id from rfl]
  split
  · rfl
  · exact create_forget clock w s
  · exact modify_forget clock w _ _ s

end Session

end Outreach.Store
