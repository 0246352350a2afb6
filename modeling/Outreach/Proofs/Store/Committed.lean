import Outreach.Proofs.Delivery.Addresses

/-!
# Committed tables

Whatever is written to a table, its rows stay apart by their identifiers, and each cell holds a
value in the form in which its column keeps values. A required cell is never empty. The same holds
of a table after any number of batches, so it is what can be relied on when a table is read.
-/

namespace Outreach.Store

/-- The values that a column keeps. A column of whole numbers also keeps doubles that are not whole
and texts that are no numbers. -/
inductive ColumnKind.Holds : ColumnKind → Value → Prop
  | text {s : String} (plain : Text.hasLoneSurrogate s = false) : Holds .text (.text s)
  | real (x : Float) : Holds .real (.float x)
  | int (i : Int) : Holds .whole (.int i)
  | fraction (x : Float) : Holds .whole (.float x)
  | noNumber (s : String) : Holds .whole (.text s)
  | time (t : DateTime) : Holds .time (.time t)
  | structured (value : Value) : Holds .structured value
  | choice (name : String) (members : List (String × String)) (s : String) :
      Holds (.choice name members) (.text s)

/-! ## What statements write -/

theorem keepReal_eq_ok {value : Value} {cell : Cell} (kept : keepReal value = .ok cell) :
    cell = none ∨ ∃ x, cell = some (.float x) := by
  have ofFloat (x : Float) : cellOfFloat x = none ∨ ∃ y, cellOfFloat x = some (.float y) := by
    by_cases missing : cellOfFloat x = none
    · exact Or.inl missing
    · rcases cellOfFloat_eq_some missing with ⟨y, yEq, -⟩
      exact Or.inr ⟨y, yEq⟩
  unfold keepReal at kept
  split at kept
  · cases kept
    exact Or.inl rfl
  · cases kept
    exact ofFloat _
  · split at kept
    · cases kept
      exact ofFloat _
    · cases kept
  · split at kept
    · split at kept
      · cases kept
        exact Or.inr ⟨_, rfl⟩
      · cases kept
    · cases kept

theorem memberName_eq_ok {choice : String} {members : List (String × String)} {value : Value}
    {cell : Cell} (named : memberName choice members value = .ok cell) :
    cell = none ∨ ∃ s, cell = some (.text s) := by
  unfold memberName at named
  split at named
  · cases named
    exact Or.inl rfl
  · split at named
    · cases named
      exact Or.inr ⟨_, rfl⟩
    · cases named
      exact Or.inr ⟨_, rfl⟩
  · cases named
  · cases named
  · split at named <;> cases named

theorem holds_numberInText (s : String) : ColumnKind.whole.Holds (numberInText s) := by
  unfold numberInText
  simp only
  split
  · unfold wordOrDouble
    split
    · exact .int _
    · exact .fraction _
  · split
    · unfold wholeIfExact
      simp only
      split
      · exact .int _
      · exact .fraction _
    · exact .noNumber s

/-- What a column of whole numbers keeps of a plain value. -/
theorem holds_keepPlain_whole {value kept : Value} (noList : ∀ items, value ≠ .list items)
    (noMap : ∀ fields, value ≠ .map fields) (keeps : keepPlain .whole value = some kept) :
    ColumnKind.whole.Holds kept := by
  cases value with
  | null => cases keeps
  | bool b =>
      cases keeps
      exact .int _
  | int i =>
      cases keeps
      exact .int i
  | float x =>
      simp only [keepPlain] at keeps
      split at keeps
      · cases keeps
      · unfold wholeIfExact at keeps
        simp only at keeps
        split at keeps
        · cases keeps
          exact .int _
        · cases keeps
          exact .fraction x
  | text s =>
      cases keeps
      exact holds_numberInText s
  | time t =>
      cases keeps
      exact .noNumber _
  | date d =>
      cases keeps
      exact .noNumber _
  | list items => exact absurd rfl (noList items)
  | map fields => exact absurd rfl (noMap fields)

theorem Column.Keeps.holds_whole {column : Column} {value kept : Value}
    (kind : column.kind = .whole)
    (keeps : column.Keeps value (some kept)) : ColumnKind.whole.Holds kept := by
  rcases keeps with ⟨cell, place, prepared, bound⟩
  simp only [Column.prepare, kind, Except.ok.injEq] at prepared
  subst prepared
  cases value with
  | text s =>
      simp only [bindCell, kind] at bound
      split at bound
      · cases bound
      · exact holds_keepPlain_whole (by simp) (by simp) (Except.ok.inj bound)
  | int i =>
      simp only [bindCell, kind] at bound
      split at bound
      · exact holds_keepPlain_whole (by simp) (by simp) (Except.ok.inj bound)
      · cases bound
  | list items => simp [bindCell, kind] at bound
  | map fields => simp [bindCell, kind] at bound
  | _ =>
      simp only [bindCell, kind] at bound
      exact holds_keepPlain_whole (by simp) (by simp) (Except.ok.inj bound)

theorem Column.Keeps.holds_time {column : Column} {value kept : Value} (kind : column.kind = .time)
    (keeps : column.Keeps value (some kept)) : ColumnKind.time.Holds kept := by
  rcases keeps with ⟨cell, place, prepared, bound⟩
  have ofCell (time? : Option DateTime) (cellEq : cell = time?.map .time) :
      ColumnKind.time.Holds kept := by
    have keptEq := bindCell_eq (Or.inr kind) (by cases time? <;> simp [cellEq]) bound
    rw [cellEq] at keptEq
    cases time? with
    | none => cases keptEq
    | some t =>
        cases keptEq
        exact .time t
  simp only [Column.prepare, kind] at prepared
  split at prepared
  · cases prepared
    exact ofCell none rfl
  · cases prepared
    exact ofCell (some _) rfl
  · cases prepared
    exact ofCell (some _) rfl
  · cases prepared

/-- A column only ever keeps values of its kind. -/
theorem Column.Keeps.holds {column : Column} {value kept : Value}
    (keeps : column.Keeps value (some kept)) :
    column.kind.Holds kept := by
  cases kind : column.kind with
  | text =>
      rcases keeps.encoded kind with ⟨s, rfl, plain⟩
      exact .text plain
  | real =>
      rcases keeps with ⟨cell, place, prepared, bound⟩
      simp only [Column.prepare, kind] at prepared
      rcases keepReal_eq_ok prepared with rfl | ⟨x, rfl⟩
      · have keptEq := bindCell_eq (Or.inl kind) (by simp) bound
        cases keptEq
      · have keptEq := bindCell_eq (Or.inl kind) (by simp) bound
        cases keptEq
        exact .real x
  | whole => exact keeps.holds_whole kind
  | time => exact keeps.holds_time kind
  | structured => exact .structured kept
  | choice name members =>
      rcases keeps with ⟨cell, place, prepared, bound⟩
      simp only [Column.prepare, kind] at prepared
      rcases memberName_eq_ok prepared with rfl | ⟨s, rfl⟩
      · simp [bindCell, kind] at bound
      · simp only [bindCell, kind] at bound
        split at bound
        · cases bound
        · cases bound
          exact .choice name members s

/-- What is bound for a column is of its kind, when a statement names values of
different columns. -/
theorem holds_of_bindAll {columns : List Column} (columnsDistinct : (columns.map Column.name).Nodup)
    {value? : Column → Option (Column × Value)}
    (own : ∀ column named, value? column = some named → named.1 = column)
    {prepared : List (Column × Cell)} {bound : List (String × Cell)} {position : Nat}
    (preparedEq : prepareAll (columns.filterMap value?) = .ok prepared)
    (boundEq : bindAll position prepared = .ok bound) {column : Column}
    (columnMem : column ∈ columns)
    {kept : Value} (found : Keyed.get? column.name bound = some (some kept)) :
    column.kind.Holds kept := by
  rcases get?_bindAll preparedEq boundEq with ⟨names, cells⟩
  have nameMem : column.name ∈ (columns.filterMap value?).map (·.1.name) := by
    rw [← names]
    by_contra absent
    rw [Keyed.get?_eq_none_iff.mpr absent] at found
    cases found
  rcases List.mem_map.mp nameMem with ⟨change, changeMem, nameEq⟩
  have distinct := columnsDistinct.sublist (names_sublist own columns)
  rcases cells distinct change changeMem with ⟨cell, other, place, prepares, binds, foundOther⟩
  rw [nameEq, found] at foundOther
  cases foundOther
  rcases List.mem_filterMap.mp changeMem with ⟨source, sourceMem, chosen⟩
  rw [← own source change chosen] at sourceMem
  rw [← List.inj_on_of_nodup_map columnsDistinct sourceMem columnMem nameEq]
  exact Column.Keeps.holds ⟨cell, place, prepares, binds⟩

/-! ## Rows that fit a schema -/

/-- Every cell of a row holds a value of its column, and no required one is empty. -/
structure Row.Fits (schema : TableSchema) (row : Row) : Prop where
  holds : ∀ column ∈ schema.columns, ∀ value, row.cell column.name = some value →
    column.kind.Holds value
  required : ∀ column ∈ schema.columns, column.nullable = false → row.cell column.name ≠ none

theorem Row.Fits.of_isSome {schema : TableSchema} {row : Row}
    (holds : ∀ column ∈ schema.columns, ∀ value, row.cell column.name = some value →
      column.kind.Holds value)
    (present : ∀ column ∈ schema.columns, column.nullable = false →
      (row.cell column.name).isSome = true) :
    row.Fits schema where
  holds := holds
  required column columnMem required :=
    Option.isSome_iff_ne_none.mp (present column columnMem required)

/-- The columns of a schema have different names, none of them that of the identifier, and the clock
of the store goes into columns of times. -/
structure TableSchema.Sound (schema : TableSchema) : Prop where
  distinct : (schema.columns.map Column.name).Nodup
  noId : ∀ column ∈ schema.columns, column.name ≠ "id"
  stamp : ∀ column ∈ schema.columns, column.name = stampColumn → column.kind = .time
  clock : ∀ column ∈ schema.columns, column.default = .storeClock → column.kind = .time

theorem customerSchema_sound : customerSchema.Sound where
  distinct := by decide
  noId := by decide
  stamp := by decide
  clock := by simp [customerSchema, textColumn, optionalText, countColumn, stampColumns]

theorem segmentSchema_sound : segmentSchema.Sound where
  distinct := by decide
  noId := by decide
  stamp := by decide
  clock := by simp [segmentSchema, textColumn, countColumn, stampColumns]

variable {t after : Table} {clock : Clock}

theorem storeDefault_eq_some {column : Column} {value : Value}
    (filled : storeDefault clock column = some value) :
    column.default = .storeClock ∧ value = .time (storeTime clock) := by
  unfold storeDefault at filled
  split at filled
  · rename_i default
    cases filled
    exact ⟨default, rfl⟩
  · cases filled

theorem fits_newRow (sound : t.schema.Sound) {id : String} {given : Fields}
    {prepared : List (Column × Cell)} {bound : List (String × Cell)}
    (preparedEq : prepareAll (t.namedValues clock given) = .ok prepared)
    (boundEq : bindAll 2 prepared = .ok bound)
    (checked : checkRow t (t.newRow clock id bound) = .ok ()) :
    (t.newRow clock id bound).Fits t.schema where
  holds column columnMem value valueEq := by
    have own (other : Column) (named : Column × Value)
        (chosen : (initialValue clock given other).map (other, ·) = some named) :
        named.1 = other := by
      rcases Option.map_eq_some_iff.mp chosen with ⟨_, -, rfl⟩
      rfl
    rw [Row.cell, Table.newRow, Keyed.get?_map_of_mem _ sound.distinct columnMem,
      Option.getD_some] at valueEq
    cases found : Keyed.get? column.name bound with
    | none =>
        rw [found, Option.getD_none] at valueEq
        rcases storeDefault_eq_some valueEq with ⟨default, rfl⟩
        rw [sound.clock column columnMem default]
        exact .time _
    | some kept =>
        rw [found, Option.getD_some] at valueEq
        subst valueEq
        exact holds_of_bindAll sound.distinct own preparedEq boundEq columnMem found
  required _ := cell_ne_none_of_checkRow checked

/-- A cell of a changed row is written by the statement, stamped, or as it was. -/
theorem changedRow_cases (clock : Clock) (row : Row) {bound : List (String × Cell)}
    (distinct : (bound.map Prod.fst).Nodup) (name : String) :
    Keyed.get? name bound = some ((Table.changedRow clock row bound).cell name) ∨
      name = stampColumn ∧ (Table.changedRow clock row bound).cell name =
      some (.time (storeTime clock)) ∨
      (Table.changedRow clock row bound).cell name = row.cell name := by
  by_cases stamp : name = stampColumn
  · subst stamp
    cases found : Keyed.get? stampColumn bound with
    | some kept =>
        have stamped : Keyed.has stampColumn bound = true := by simp [Keyed.has, found]
        left
        rw [Row.cell, Table.changedRow, if_pos stamped, Keyed.get?_putAll distinct, found]
        rfl
    | none =>
        have unstamped : ¬Keyed.has stampColumn bound = true := by simp [Keyed.has, found]
        have fresh := Keyed.get?_eq_none_iff.mp found
        have distinctAll : ((bound ++ [(stampColumn, some (Value.time (storeTime clock)))]).map
            Prod.fst).Nodup := by
          rw [List.map_append]
          exact distinct.append (List.nodup_singleton _) (by simpa using fresh)
        right
        left
        constructor
        · rfl
        · rw [Row.cell, Table.changedRow, if_neg unstamped, Keyed.get?_putAll distinctAll,
            Keyed.get?_append, found, Keyed.get?_cons, if_pos rfl]
          rfl
  · rw [Table.changedRow_cell distinct stamp]
    cases Keyed.get? name bound with
    | some kept => exact Or.inl rfl
    | none => exact Or.inr (Or.inr rfl)

theorem fits_changedRow (sound : t.schema.Sound) {row : Row} (fits : row.Fits t.schema)
    {fields patched : Fields} {prepared : List (Column × Cell)} {bound : List (String × Cell)}
    (preparedEq : prepareAll (Session.changes t.schema.columns fields patched) = .ok prepared)
    (boundEq : bindAll 1 prepared = .ok bound)
    (checked : checkRow t (Table.changedRow clock row bound) = .ok ()) :
    (Table.changedRow clock row bound).Fits t.schema where
  holds column columnMem value valueEq := by
    have own (other : Column) (named : Column × Value)
        (chosen : (if ((Keyed.get? other.name patched).getD .null).agrees
            ((Keyed.get? other.name fields).getD .null) then none
          else some (other, (Keyed.get? other.name patched).getD .null)) = some named) :
        named.1 = other := by
      split at chosen
      · cases chosen
      · cases chosen
        rfl
    have distinct : (bound.map Prod.fst).Nodup := by
      rw [(get?_bindAll preparedEq boundEq).1]
      exact sound.distinct.sublist (names_changes_sublist t.schema.columns fields patched)
    rcases changedRow_cases clock row distinct column.name with written | ⟨stamp, stamped⟩ | kept
    · rw [valueEq] at written
      exact holds_of_bindAll sound.distinct own preparedEq boundEq columnMem written
    · rw [stamped] at valueEq
      cases valueEq
      rw [sound.stamp column columnMem stamp]
      exact .time _
    · rw [kept] at valueEq
      exact fits.holds column columnMem value valueEq
  required _ := cell_ne_none_of_checkRow checked

/-! ## Tables -/

/-- A table of a schema as statements leave it: no two rows have the same
identifier, and every row fits. -/
structure Table.Committed (schema : TableSchema) (t : Table) : Prop where
  schema_eq : t.schema = schema
  distinct : (t.rows.map Row.id).Nodup
  fits : ∀ row ∈ t.rows, row.Fits schema

namespace Table

theorem row?_eq_none_iff {id : String} : t.row? id = none ↔ id ∉ t.rows.map Row.id := by
  simp [row?]

namespace Committed

variable {schema : TableSchema}

/-- A row of a table is found by its identifier. -/
theorem row?_eq (committed : t.Committed schema) {row : Row} (rowMem : row ∈ t.rows) :
    t.row? row.id = some row := by
  cases found : t.row? row.id with
  | none => exact absurd (List.mem_map_of_mem rowMem) (row?_eq_none_iff.mp found)
  | some other =>
      have sameId : other.id = row.id := row?_id found
      have otherMem : other ∈ t.rows := List.mem_of_find?_eq_some found
      rw [List.inj_on_of_nodup_map committed.distinct otherMem rowMem sameId]

theorem empty (schema : TableSchema) : (Table.empty schema).Committed schema :=
  ⟨rfl, List.nodup_nil, fun _ rowMem => by cases rowMem⟩

theorem insert (committed : t.Committed schema) (sound : schema.Sound) {id : String}
    {given : Fields} (fresh : t.row? id = none) (inserted : t.insert clock id given = .ok after) :
    after.Committed schema := by
  rcases committed with ⟨rfl, distinct, fits⟩
  rcases insert_eq_ok_iff.mp inserted with ⟨prepared, bound, preparedEq, boundEq, checked, rfl⟩
  constructor
  · rfl
  · rw [List.map_append]
    apply distinct.append (List.nodup_singleton _)
    simpa [newRow] using row?_eq_none_iff.mp fresh
  · intro row rowMem
    rcases List.mem_append.mp rowMem with stored | new
    · exact fits row stored
    · rw [List.mem_singleton.mp new]
      exact fits_newRow sound preparedEq boundEq checked

theorem update (committed : t.Committed schema) (sound : schema.Sound) {row : Row}
    {fields patched : Fields} (rowMem : row ∈ t.rows)
    (updated : t.update clock row (Session.changes t.schema.columns fields patched) = .ok after) :
    after.Committed schema := by
  rcases committed with ⟨rfl, distinct, fits⟩
  rcases update_eq_ok_iff.mp updated with ⟨prepared, bound, preparedEq, boundEq, checked, rfl⟩
  constructor
  · rfl
  · have sameIds : (t.replace (changedRow clock row bound)).rows.map Row.id =
      t.rows.map Row.id := by
      rw [replace, List.map_map]
      apply List.map_congr_left
      intro other _
      simp only [Function.comp_apply]
      split
      · rename_i same
        exact same.symm
      · rfl
    rw [sameIds]
    exact distinct
  · intro other otherMem
    rcases List.mem_map.mp otherMem with ⟨old, oldMem, rfl⟩
    split
    · exact fits_changedRow sound (fits row rowMem) preparedEq boundEq checked
    · exact fits old oldMem

/-- A table stays committed whatever batch is written to it. -/
theorem upsert (sound : schema.Sound) (clock : Clock) (writes : List Writes.Write) (t : Table)
    (committed : t.Committed schema) : (t.upsert clock writes).1.Committed schema := by
  have keeps : Session.Keeps clock (Table.Committed schema) :=
    ⟨fun holds _ fresh inserted => holds.insert sound fresh inserted,
      fun holds rowMem updated => holds.update sound rowMem updated⟩
  exact keeps.upsert writes committed

theorem delete (committed : t.Committed schema) (id : String) : (t.delete id).Committed schema where
  schema_eq := committed.schema_eq
  distinct := committed.distinct.sublist (List.filter_sublist.map Row.id)
  fits row rowMem := committed.fits row (List.mem_of_mem_filter rowMem)

theorem flush {o : Office} {c : Collection} (committed : (o.table c).Committed schema)
    (sound : schema.Sound)
    (flushed : Collection) : ((o.flush flushed).2.table c).Committed schema :=
  Office.flush_keeps (upsert sound) flushed committed

/-- What is queued when an office is closed leaves its tables committed. -/
theorem close {o : Office} {c : Collection} (committed : (o.table c).Committed schema)
    (sound : schema.Sound) :
    (o.close.table c).Committed schema :=
  Office.close_keeps (upsert sound) committed

end Committed

end Table

/-! ## Reading rows -/

/-- No column is a choice. -/
def TableSchema.Plain (schema : TableSchema) : Prop :=
  ∀ column ∈ schema.columns, ∀ name members, column.kind ≠ .choice name members

theorem customerSchema_plain : customerSchema.Plain := by
  simp [TableSchema.Plain, customerSchema, textColumn, optionalText, countColumn, stampColumns]

theorem segmentSchema_plain : segmentSchema.Plain := by
  simp [TableSchema.Plain, segmentSchema, textColumn, countColumn, stampColumns]

/-- A cell of any other column reads as what it holds. -/
theorem Column.read_eq {column : Column}
    (noChoice : ∀ name members, column.kind ≠ .choice name members)
    (cell : Cell) : column.read cell = .ok (cell.getD .null) := by
  cases cell with
  | none => rfl
  | some value =>
      cases kind : column.kind with
      | choice name members => exact absurd kind (noChoice name members)
      | _ => simp [Column.read, kind]

/-- Without choices every row can be read. -/
theorem exists_readRow_of_plain (plain : t.schema.Plain) (row : Row) :
    ∃ fields, t.readRow row = .ok fields := by
  have readCells (columns : List Column) (each : ∀ column ∈ columns, ∀ name members,
      column.kind ≠ .choice name members) :
      ∃ cells, Table.readCells row.cells columns = .ok cells := by
    induction columns with
    | nil => exact ⟨[], rfl⟩
    | cons column rest ih =>
        rcases List.forall_mem_cons.mp each with ⟨first, later⟩
        rcases ih later with ⟨cells, cellsEq⟩
        exact ⟨_, bind_eq_ok_iff.mpr ⟨_, column.read_eq first _,
          bind_eq_ok_iff.mpr ⟨cells, cellsEq, rfl⟩⟩⟩
  rcases readCells t.schema.columns plain with ⟨cells, cellsEq⟩
  exact ⟨_, bind_eq_ok_iff.mpr ⟨cells, cellsEq, rfl⟩⟩

theorem exists_readRows_of_plain (plain : t.schema.Plain) (rows : List Row) :
    ∃ found, t.readRows rows = .ok found := by
  induction rows with
  | nil => exact ⟨[], rfl⟩
  | cons row rest ih =>
      rcases exists_readRow_of_plain plain row with ⟨fields, read⟩
      rcases ih with ⟨others, restRead⟩
      exact ⟨fields :: others,
        bind_eq_ok_iff.mpr ⟨fields, read, bind_eq_ok_iff.mpr ⟨others, restRead, rfl⟩⟩⟩

namespace Table.Committed

variable {schema : TableSchema} (committed : t.Committed schema) (plain : schema.Plain)

include committed plain

theorem exists_readRow (row : Row) : ∃ fields, t.readRow row = .ok fields :=
  exists_readRow_of_plain (committed.schema_eq ▸ plain) row

theorem exists_readRows (rows : List Row) : ∃ found, t.readRows rows = .ok found :=
  exists_readRows_of_plain (committed.schema_eq ▸ plain) rows

/-- The field of a column that was read is what the cell holds. -/
theorem get?_of_readRow (sound : schema.Sound) {row : Row} {fields : Fields}
    (read : t.readRow row = .ok fields) {column : Column} (columnMem : column ∈ schema.columns) :
    Keyed.get? column.name fields = some ((row.cell column.name).getD .null) := by
  rcases committed with ⟨rfl, -, -⟩
  rcases get?_readRow read sound.distinct columnMem (sound.noId column columnMem) with
    ⟨value, valueEq, found⟩
  rw [column.read_eq (plain column columnMem)] at valueEq
  rw [found, Except.ok.inj valueEq]

end Table.Committed

theorem names_of_readRow {row : Row} {fields : Fields} (read : t.readRow row = .ok fields) :
    fields.map Prod.fst = "id" :: t.schema.columns.map Column.name := by
  have readCells (columns : List Column) {cells : Fields}
      (cellsRead : Table.readCells row.cells columns = .ok cells) :
      cells.map Prod.fst = columns.map Column.name := by
    induction columns generalizing cells with
    | nil =>
        cases cellsRead
        rfl
    | cons column rest ih =>
        rcases bind_eq_ok_iff.mp cellsRead with ⟨value, -, restRead⟩
        rcases bind_eq_ok_iff.mp restRead with ⟨others, othersEq, cellsEq⟩
        cases cellsEq
        rw [List.map_cons, List.map_cons, ih othersEq]
  rcases bind_eq_ok_iff.mp read with ⟨cells, cellsRead, fieldsEq⟩
  cases fieldsEq
  rw [List.map_cons, readCells t.schema.columns cellsRead]

namespace Row.Fits

variable {schema : TableSchema} {row : Row} {column : Column}

/-- A required text is there. -/
theorem exists_text (fits : row.Fits schema) (columnMem : column ∈ schema.columns)
    (kind : column.kind = .text) (required : column.nullable = false) :
    ∃ s, row.cell column.name = some (.text s) ∧ Text.hasLoneSurrogate s = false := by
  cases cell : row.cell column.name with
  | none => exact absurd cell (fits.required column columnMem required)
  | some value =>
      have holds := fits.holds column columnMem value cell
      rw [kind] at holds
      cases holds with
      | @text s plain => exact ⟨s, rfl, plain⟩

/-- A required time is there. -/
theorem exists_time (fits : row.Fits schema) (columnMem : column ∈ schema.columns)
    (kind : column.kind = .time)
    (required : column.nullable = false) : ∃ time, row.cell column.name = some (.time time) := by
  cases cell : row.cell column.name with
  | none => exact absurd cell (fits.required column columnMem required)
  | some value =>
      have holds := fits.holds column columnMem value cell
      rw [kind] at holds
      cases holds with
      | time time => exact ⟨time, rfl⟩

end Row.Fits

end Outreach.Store
