import Outreach.Proofs.Store.Cells
import Outreach.Proofs.Store.Sessions
import Outreach.Store.Query
import Outreach.Store.Tables

/-!
# The rows that statements write

What an insert and an update put into each cell of a row. An update leaves a cell as it is when the
column does not differ between the row as it is read and its new version.
-/

namespace Outreach.Store

/-- A column keeps a value in this form. -/
def Column.Keeps (column : Column) (value : Value) (kept : Cell) : Prop :=
  ∃ cell place, column.prepare value = .ok cell ∧ bindCell place column cell = .ok kept

section Columns

variable {column : Column} {kept : Cell}

theorem Column.Keeps.of_float (kind : column.kind = .real) {x : Float}
    (keeps : column.Keeps (.float x) kept) : kept = cellOfFloat x := by
  obtain ⟨cell, place, prepared, bound⟩ := keeps
  exact keeps_float kind prepared bound

theorem Column.Keeps.of_time (kind : column.kind = .time) {t : DateTime}
    (keeps : column.Keeps (.time t) kept) : kept = some (.time t.naive) := by
  obtain ⟨cell, place, prepared, bound⟩ := keeps
  exact keeps_time kind prepared bound

theorem Column.Keeps.of_int (kind : column.kind = .whole) {i : Int}
    (keeps : column.Keeps (.int i) kept) : kept = some (.int i) := by
  obtain ⟨cell, place, prepared, bound⟩ := keeps
  exact keeps_int kind prepared bound

theorem Column.Keeps.of_text (kind : column.kind = .text) {s : String}
    (keeps : column.Keeps (.text s) kept) : kept = some (.text s) := by
  obtain ⟨cell, place, prepared, bound⟩ := keeps
  exact keeps_text kind prepared bound

end Columns

/-- What is read of a column is what its cell reads as. -/
theorem get?_readRow {t : Table} {row : Row} {fields : Fields} (read : t.readRow row = .ok fields)
    (distinct : (t.schema.columns.map Column.name).Nodup) {column : Column}
    (columnMem : column ∈ t.schema.columns) (notId : column.name ≠ "id") :
    ∃ value, column.read (row.cell column.name) = .ok value ∧
      Keyed.get? column.name fields = some value := by
  have readCells (columns : List Column) {cells : Fields}
      (columnsDistinct : (columns.map Column.name).Nodup)
      (cellsRead : Table.readCells row.cells columns = .ok cells) (mem : column ∈ columns) :
      ∃ value, column.read (row.cell column.name) = .ok value ∧
        Keyed.get? column.name cells = some value := by
    induction columns generalizing cells with
    | nil => cases mem
    | cons first rest ih =>
        obtain ⟨fresh, restDistinct⟩ := List.nodup_cons.mp columnsDistinct
        obtain ⟨value, valueEq, cellsRest⟩ := bind_eq_ok_iff.mp cellsRead
        obtain ⟨others, othersEq, cellsEq⟩ := bind_eq_ok_iff.mp cellsRest
        obtain rfl := Except.ok.inj cellsEq
        rcases List.mem_cons.mp mem with rfl | inRest
        · exact ⟨value, valueEq, by rw [Keyed.get?_cons, if_pos rfl]⟩
        · have other : first.name ≠ column.name := by
            intro same
            exact fresh (List.mem_map.mpr ⟨column, inRest, same.symm⟩)
          rw [Keyed.get?_cons, if_neg other]
          exact ih restDistinct othersEq inRest
  obtain ⟨cells, cellsRead, fieldsEq⟩ := bind_eq_ok_iff.mp read
  obtain rfl := Except.ok.inj fieldsEq
  rw [Keyed.get?_cons, if_neg (Ne.symm notId)]
  exact readCells t.schema.columns distinct cellsRead columnMem

/-- A row that passes the checks of a table has no required cell empty. -/
theorem cell_ne_none_of_checkRow {t : Table} {row : Row} (checked : checkRow t row = .ok ())
    {column : Column} (columnMem : column ∈ t.schema.columns) (required : column.nullable = false) :
    row.cell column.name ≠ none := by
  unfold checkRow at checked
  split at checked
  · cases checked
  · rename_i noneEmpty
    have present := List.find?_eq_none.mp (Option.map_eq_none_iff.mp noneEmpty) column columnMem
    simpa [required, Row.cell] using present

/-- Columns chosen with a value each are still in their order. -/
theorem names_sublist {value? : Column → Option (Column × Value)}
    (own : ∀ column named, value? column = some named → named.1 = column) (columns : List Column) :
    ((columns.filterMap value?).map (·.1.name)).Sublist (columns.map Column.name) := by
  induction columns with
  | nil => exact .slnil
  | cons column rest ih =>
      cases chosen : value? column with
      | none =>
          rw [List.filterMap_cons_none chosen]
          exact ih.cons _
      | some named =>
          rw [List.filterMap_cons_some chosen, List.map_cons, own column named chosen]
          exact ih.cons_cons _

theorem names_changes_sublist (columns : List Column) (fields patched : Fields) :
    ((Session.changes columns fields patched).map (·.1.name)).Sublist
    (columns.map Column.name) := by
  apply names_sublist
  intro column named chosen
  simp only at chosen
  split at chosen
  · cases chosen
  · rw [← Option.some.inj chosen]

section CustomerColumns

variable {t : Table} (schema : t.schema = customerSchema)

include schema

theorem nameColumn_mem : textColumn "name" ∈ t.schema.columns := by
  simp [schema, customerSchema]

theorem spentColumn_mem :
    (⟨"total_spend", .real, false, .value (.int 0)⟩ : Column) ∈ t.schema.columns := by
  simp [schema, customerSchema]

theorem visitsColumn_mem : countColumn "visits" ∈ t.schema.columns := by
  simp [schema, customerSchema]

theorem lastColumn_mem : (⟨"last_active", .time, false, .clock⟩ : Column) ∈ t.schema.columns := by
  simp [schema, customerSchema]

theorem customerColumns_nodup : (t.schema.columns.map Column.name).Nodup := by
  rw [schema]
  decide

end CustomerColumns

namespace Table

variable {t after : Table} {clock : Clock}

/-! ## Inserts -/

/-- The row that an insert adds. -/
structure Inserts (clock : Clock) (id : String) (given : Fields) (t : Table) (row : Row) :
    Prop where
  id_eq : row.id = id
  required : ∀ column ∈ t.schema.columns, column.nullable = false → row.cell column.name ≠ none
  written : ∀ column ∈ t.schema.columns, ∀ value, initialValue clock given column = some value →
    column.Keeps value (row.cell column.name)

theorem inserts_of_insert {id : String} {given : Fields}
    (distinct : (t.schema.columns.map Column.name).Nodup)
    (inserted : t.insert clock id given = .ok after) :
    ∃ row, Inserts clock id given t row ∧ after = { t with rows := t.rows ++ [row] } := by
  obtain ⟨prepared, bound, preparedEq, boundEq, checked, rfl⟩ := insert_eq_ok_iff.mp inserted
  refine ⟨t.newRow clock id bound, ⟨rfl, fun column => cell_ne_none_of_checkRow checked, ?_⟩, rfl⟩
  intro column columnMem value valueEq
  obtain ⟨_, cells⟩ := get?_bindAll preparedEq boundEq
  have namesDistinct : ((t.namedValues clock given).map (·.1.name)).Nodup := by
    refine distinct.sublist (names_sublist ?_ _)
    intro column named chosen
    obtain ⟨value, _, rfl⟩ := Option.map_eq_some_iff.mp chosen
    rfl
  have named : (column, value) ∈ t.namedValues clock given :=
    List.mem_filterMap.mpr ⟨column, columnMem, by simp [valueEq]⟩
  obtain ⟨cell, kept, place, prepares, binds, found⟩ := cells namesDistinct _ named
  have cellEq : (t.newRow clock id bound).cell column.name = kept := by
    rw [Row.cell, newRow, Keyed.get?_map_of_mem _ distinct columnMem, found]
    rfl
  rw [cellEq]
  exact ⟨cell, place, prepares, binds⟩

/-! ## Updates -/

/-- The new version of a row that an update of the columns that differ writes. -/
structure Updates (t : Table) (row changed : Row) (fields patched : Fields) : Prop where
  id_eq : changed.id = row.id
  required : ∀ column ∈ t.schema.columns, column.nullable = false → changed.cell column.name ≠ none
  /-- A column that does not differ keeps its cell. -/
  kept : ∀ column ∈ t.schema.columns, column.name ≠ stampColumn →
    ((Keyed.get? column.name patched).getD .null).agrees
      ((Keyed.get? column.name fields).getD .null) = true →
    changed.cell column.name = row.cell column.name
  written : ∀ column ∈ t.schema.columns, column.name ≠ stampColumn →
    ((Keyed.get? column.name patched).getD .null).agrees
      ((Keyed.get? column.name fields).getD .null) = false →
    column.Keeps ((Keyed.get? column.name patched).getD .null) (changed.cell column.name)

theorem changedRow_cell {row : Row} {bound : List (String × Cell)}
    (distinct : (bound.map Prod.fst).Nodup) {name : String} (unstamped : name ≠ stampColumn) :
    (changedRow clock row bound).cell name =
      ((Keyed.get? name bound).or (Keyed.get? name row.cells)).getD none := by
  unfold changedRow Row.cell
  split
  · rw [Keyed.get?_putAll distinct]
  · rename_i absent
    have fresh : stampColumn ∉ bound.map Prod.fst := by
      apply Keyed.get?_eq_none_iff.mp
      simpa [Keyed.has] using absent
    have distinctAll : ((bound ++ [(stampColumn, some (Value.time (storeTime clock)))]).map
        Prod.fst).Nodup := by
      rw [List.map_append]
      exact distinct.append (List.nodup_singleton _) (by simpa using fresh)
    rw [Keyed.get?_putAll distinctAll, Keyed.get?_append, Keyed.get?_cons,
      if_neg (Ne.symm unstamped)]
    simp

theorem updates_of_update {row : Row} {fields patched : Fields}
    (distinct : (t.schema.columns.map Column.name).Nodup)
    (updated : t.update clock row (Session.changes t.schema.columns fields patched) = .ok after) :
    ∃ changed, Updates t row changed fields patched ∧ after = t.replace changed := by
  obtain ⟨prepared, bound, preparedEq, boundEq, checked, rfl⟩ := update_eq_ok_iff.mp updated
  obtain ⟨names, cells⟩ := get?_bindAll preparedEq boundEq
  have namesDistinct : ((Session.changes t.schema.columns fields patched).map (·.1.name)).Nodup :=
    distinct.sublist (names_changes_sublist t.schema.columns fields patched)
  have boundDistinct : (bound.map Prod.fst).Nodup := by
    rw [names]
    exact namesDistinct
  refine ⟨changedRow clock row bound,
    ⟨rfl, fun column => cell_ne_none_of_checkRow checked, ?_, ?_⟩, rfl⟩
  · intro column columnMem unstamped agrees
    have absent : Keyed.get? column.name bound = none := by
      apply Keyed.get?_eq_none_iff.mpr
      rw [names]
      intro nameMem
      obtain ⟨⟨other, value⟩, otherMem, sameName⟩ := List.mem_map.mp nameMem
      obtain ⟨found, foundMem, chosen⟩ := List.mem_filterMap.mp otherMem
      simp only at chosen sameName
      split at chosen
      · cases chosen
      · rename_i differs
        cases chosen
        rw [List.inj_on_of_nodup_map distinct foundMem columnMem sameName] at differs
        exact differs agrees
    rw [changedRow_cell boundDistinct unstamped, absent]
    rfl
  · intro column columnMem unstamped differs
    have changed : (column, (Keyed.get? column.name patched).getD .null) ∈
        Session.changes t.schema.columns fields patched :=
      List.mem_filterMap.mpr ⟨column, columnMem, by simp [differs]⟩
    obtain ⟨cell, kept, place, prepares, binds, found⟩ := cells namesDistinct _ changed
    rw [changedRow_cell boundDistinct unstamped, found]
    exact ⟨cell, place, prepares, binds⟩

end Table

end Outreach.Store
