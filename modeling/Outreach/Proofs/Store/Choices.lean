import Outreach.Proofs.Store.Committed

/-!
# Reading choices

A cell of a choice holds the name of a member, or any other text that was written to it as it is.
Only the name of a member can be read. A row can be read exactly when all of its choices can.
-/

namespace Outreach.Store

/-- A cell holds the name of a member. -/
def NamesMember (members : List (String × String)) (cell : Cell) : Prop :=
  ∃ name ∈ members.map Prod.fst, cell = some (.text name)

section Cells

variable {column : Column} {choice : String} {members : List (String × String)} {cell : Cell}

/-- What is read of the name of a member is the value of a member. -/
theorem exists_member_of_read (kind : column.kind = .choice choice members) {s : String}
    {value : Value} (read : column.read (some (.text s)) = .ok value) :
    ∃ member, (s, member) ∈ members ∧ value = .text member := by
  simp only [Column.read, kind] at read
  split at read
  · rename_i name member found
    cases read
    have sameName : name = s := by simpa using List.find?_some found
    exact ⟨member, sameName ▸ List.mem_of_find?_eq_some found, rfl⟩
  · cases read

theorem exists_read_iff (kind : column.kind = .choice choice members) {s : String}
    (cellEq : cell = some (.text s)) :
    (∃ value, column.read cell = .ok value) ↔ NamesMember members cell := by
  subst cellEq
  constructor
  · rintro ⟨value, read⟩
    obtain ⟨member, memberMem, -⟩ := exists_member_of_read kind read
    exact ⟨s, List.mem_map_of_mem memberMem, rfl⟩
  · rintro ⟨name, nameMem, nameEq⟩
    cases nameEq
    obtain ⟨member, memberMem, sameName⟩ := List.mem_map.mp nameMem
    cases found : members.find? (·.1 = s) with
    | none => simpa [sameName] using List.find?_eq_none.mp found member memberMem
    | some other =>
        refine ⟨.text other.2, ?_⟩
        simp only [Column.read, kind, found]

end Cells

variable {t : Table} {row : Row}

namespace Table.Committed

variable {schema : TableSchema} (committed : t.Committed schema) (sound : schema.Sound)
    {column : Column}
  {fields : Fields} (read : t.readRow row = .ok fields) (columnMem : column ∈ schema.columns)
include committed sound read columnMem

/-- The field of a column that is no choice is what the cell holds. -/
theorem get?_of_noChoice (noChoice : ∀ name members, column.kind ≠ .choice name members) :
    Keyed.get? column.name fields = some ((row.cell column.name).getD .null) := by
  obtain ⟨rfl, -, -⟩ := committed
  obtain ⟨value, valueEq, found⟩ :=
    get?_readRow read sound.distinct columnMem (sound.noId column columnMem)
  rw [column.read_eq noChoice] at valueEq
  rw [found, Except.ok.inj valueEq]

/-- The field of a choice is the value of the member that the cell names. -/
theorem exists_member {choice : String} {members : List (String × String)}
    (kind : column.kind = .choice choice members)
    {s : String} (cellEq : row.cell column.name = some (.text s)) :
    ∃ member, (s, member) ∈ members ∧ Keyed.get? column.name fields = some (.text member) := by
  obtain ⟨rfl, -, -⟩ := committed
  obtain ⟨value, valueEq, found⟩ :=
    get?_readRow read sound.distinct columnMem (sound.noId column columnMem)
  rw [cellEq] at valueEq
  obtain ⟨member, memberMem, rfl⟩ := exists_member_of_read kind valueEq
  exact ⟨member, memberMem, found⟩

end Table.Committed

theorem exists_readCells_iff (row : Row) (columns : List Column) :
    (∃ fields, Table.readCells row.cells columns = .ok fields) ↔
      ∀ column ∈ columns, ∃ value, column.read (row.cell column.name) = .ok value := by
  induction columns with
  | nil => simp [Table.readCells]
  | cons column rest ih =>
      rw [List.forall_mem_cons, ← ih, Table.readCells]
      constructor
      · rintro ⟨fields, read⟩
        obtain ⟨value, valueEq, later⟩ := bind_eq_ok_iff.mp read
        obtain ⟨others, othersEq, -⟩ := bind_eq_ok_iff.mp later
        exact ⟨⟨value, valueEq⟩, others, othersEq⟩
      · rintro ⟨⟨value, valueEq⟩, others, othersEq⟩
        exact ⟨_, bind_eq_ok_iff.mpr ⟨value, valueEq, bind_eq_ok_iff.mpr ⟨others, othersEq, rfl⟩⟩⟩

/-- A row can be read if each of its cells can. -/
theorem exists_readRow_iff : (∃ fields, t.readRow row = .ok fields) ↔
    ∀ column ∈ t.schema.columns, ∃ value, column.read (row.cell column.name) = .ok value := by
  rw [← exists_readCells_iff]
  constructor
  · rintro ⟨fields, read⟩
    obtain ⟨cells, cellsRead, -⟩ := bind_eq_ok_iff.mp read
    exact ⟨cells, cellsRead⟩
  · rintro ⟨cells, cellsRead⟩
    exact ⟨_, bind_eq_ok_iff.mpr ⟨cells, cellsRead, rfl⟩⟩

theorem exists_readRows_iff {rows : List Row} :
    (∃ found, t.readRows rows = .ok found) ↔
    ∀ row ∈ rows, ∃ fields, t.readRow row = .ok fields := by
  induction rows with
  | nil => simp [Table.readRows]
  | cons row rest ih =>
      rw [List.forall_mem_cons, ← ih, Table.readRows]
      constructor
      · rintro ⟨found, read⟩
        obtain ⟨fields, fieldsEq, later⟩ := bind_eq_ok_iff.mp read
        obtain ⟨others, othersEq, -⟩ := bind_eq_ok_iff.mp later
        exact ⟨⟨fields, fieldsEq⟩, others, othersEq⟩
      · rintro ⟨⟨fields, fieldsEq⟩, others, othersEq⟩
        exact ⟨_, bind_eq_ok_iff.mpr ⟨fields, fieldsEq, bind_eq_ok_iff.mpr ⟨others, othersEq, rfl⟩⟩⟩

namespace Row.Fits

variable {schema : TableSchema} {column : Column} {choice : String}
    {members : List (String × String)}

/-- A required choice is a text. -/
theorem exists_choice (fits : row.Fits schema) (columnMem : column ∈ schema.columns)
    (kind : column.kind = .choice choice members) (required : column.nullable = false) :
    ∃ s, row.cell column.name = some (.text s) := by
  cases cell : row.cell column.name with
  | none => exact absurd cell (fits.required column columnMem required)
  | some value =>
      have holds := fits.holds column columnMem value cell
      rw [kind] at holds
      cases holds with
      | choice _ _ s => exact ⟨s, rfl⟩

theorem exists_read_iff (fits : row.Fits schema) (columnMem : column ∈ schema.columns)
    (kind : column.kind = .choice choice members) (required : column.nullable = false) :
    (∃ value, column.read (row.cell column.name) = .ok value) ↔
    NamesMember members (row.cell column.name) := by
  obtain ⟨s, cellEq⟩ := fits.exists_choice columnMem kind required
  exact Store.exists_read_iff kind cellEq

end Row.Fits

/-- A row can be read if its choices can, which are among some columns. -/
theorem Table.Committed.exists_readRow_iff {schema : TableSchema} (committed : t.Committed schema)
    {choices : List Column} (listed : ∀ column ∈ choices, column ∈ schema.columns)
    (others : ∀ column ∈ schema.columns, column ∉ choices →
      ∀ name members, column.kind ≠ .choice name members) :
    (∃ fields, t.readRow row = .ok fields) ↔
      ∀ column ∈ choices, ∃ value, column.read (row.cell column.name) = .ok value := by
  rw [Store.exists_readRow_iff, committed.schema_eq]
  constructor
  · exact fun each column choiceMem => each column (listed column choiceMem)
  · intro choicesRead column columnMem
    by_cases choiceMem : column ∈ choices
    · exact choicesRead column choiceMem
    · exact ⟨_, column.read_eq (others column columnMem choiceMem) _⟩

end Outreach.Store
