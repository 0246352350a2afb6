import Outreach.Proofs.Outcome
import Outreach.Store.Table

/-!
# What a statement does to a table

An insert adds one row at the end and an update puts a new version of one row in its place; neither
touches any other row. The rows they write are named here, so that a later proof never opens a
statement again.
-/

namespace Outreach.Store

namespace Table

variable {t after : Table} {clock : Clock}

/-! ## Rows by identifier -/

theorem row?_id {id : String} {row : Row} (found : t.row? id = some row) : row.id = id := by
  simpa using List.find?_some found

theorem row?_append (id : String) (row : Row) (t : Table) :
    Table.row? id { t with rows := t.rows ++ [row] } =
      (t.row? id).or (if row.id = id then some row else none) := by
  simp only [row?, List.find?_append, List.find?_singleton, decide_eq_true_eq]

theorem row?_replace (id : String) (row : Row) (t : Table) : (t.replace row).row? id =
    (t.row? id).map fun other => if other.id = row.id then row else other := by
  have sameId : ∀ other : Row, (if other.id = row.id then row else other).id = other.id := by
    intro other
    split
    · rename_i same
      exact same.symm
    · rfl
  simp only [row?, replace, List.find?_map, Function.comp_def, sameId]

theorem row?_delete_of_ne {id other : String} (different : other ≠ id) (t : Table) :
    (t.delete id).row? other = t.row? other := by
  unfold row? delete
  rw [List.find?_filter]
  congr 1
  funext row
  by_cases found : row.id = other <;> simp [found, different]

/-! ## Inserts -/

/-- The values that an insert names, by column. -/
def namedValues (clock : Clock) (given : Fields) (t : Table) : List (Column × Value) :=
  t.schema.columns.filterMap fun column => (initialValue clock given column).map (column, ·)

/-- The row of an insert whose values are bound. -/
def newRow (clock : Clock) (id : String) (bound : List (String × Cell)) (t : Table) : Row :=
  ⟨id, t.schema.columns.map fun column =>
      (column.name, (Keyed.get? column.name bound).getD (storeDefault clock column)),
    (t.schema.columns.filter fun column =>
      !Keyed.has column.name bound && (storeDefault clock column).isSome).map Column.name⟩

theorem insert_eq_ok_iff {id : String} {given : Fields} :
    t.insert clock id given = .ok after ↔ ∃ prepared bound,
      prepareAll (t.namedValues clock given) = .ok prepared ∧ bindAll 2 prepared = .ok bound ∧
      checkRow t (t.newRow clock id bound) = .ok () ∧
      after = { t with rows := t.rows ++ [t.newRow clock id bound] } := by
  simp only [insert, bind_eq_ok_iff, Except.ok.injEq]
  constructor
  · rintro ⟨prepared, preparedEq, bound, boundEq, ⟨⟩, checked, rfl⟩
    exact ⟨prepared, bound, preparedEq, boundEq, checked, rfl⟩
  · rintro ⟨prepared, bound, preparedEq, boundEq, checked, rfl⟩
    exact ⟨prepared, preparedEq, bound, boundEq, ⟨⟩, checked, rfl⟩

/-- Where an insert that fails goes wrong. -/
theorem insert_eq_error_iff {id : String} {given : Fields} {trouble : Trouble} :
    t.insert clock id given = .error trouble ↔
      prepareAll (t.namedValues clock given) = .error trouble ∨ ∃ prepared,
        prepareAll (t.namedValues clock given) = .ok prepared ∧
        (bindAll 2 prepared = .error trouble ∨ ∃ bound, bindAll 2 prepared = .ok bound ∧
          checkRow t (t.newRow clock id bound) = .error trouble) := by
  simp only [insert, bind_eq_error_iff, reduceCtorEq, and_false, exists_false, or_false]
  rfl

/-! ## Updates -/

/-- The new version of a row whose changes are bound. -/
def changedRow (clock : Clock) (row : Row) (bound : List (String × Cell)) : Row :=
  ⟨row.id,
    Keyed.putAll row.cells (if Keyed.has stampColumn bound then bound
      else bound ++ [(stampColumn, some (.time (storeTime clock)))]),
    row.stamped.filter fun column => !Keyed.has column bound⟩

theorem update_eq_ok_iff {row : Row} {changes : List (Column × Value)} :
    t.update clock row changes = .ok after ↔ ∃ prepared bound,
      prepareAll changes = .ok prepared ∧ bindAll 1 prepared = .ok bound ∧
      checkRow t (changedRow clock row bound) = .ok () ∧
      after = t.replace (changedRow clock row bound) := by
  simp only [update, bind_eq_ok_iff, Except.ok.injEq]
  constructor
  · rintro ⟨prepared, preparedEq, bound, boundEq, ⟨⟩, checked, rfl⟩
    exact ⟨prepared, bound, preparedEq, boundEq, checked, rfl⟩
  · rintro ⟨prepared, bound, preparedEq, boundEq, checked, rfl⟩
    exact ⟨prepared, preparedEq, bound, boundEq, ⟨⟩, checked, rfl⟩

end Table

end Outreach.Store
