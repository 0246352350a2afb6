import Outreach.Store.Column
import Outreach.Value.Compare

/-!
# Tables

A table keeps rows by identifier in the order in which they were inserted. An insert fills defaults,
an update changes some columns and stamps the row; both are refused as a whole when a value does not
fit its column, a required cell would be empty, or a unique combination would occur twice. A refused
statement leaves the table as it is.
-/

namespace Outreach.Store

/-- The columns of a table, apart from the identifier, and its unique combinations. -/
structure TableSchema where
  name : String
  columns : List Column
  unique : List (List String)

/-- A row. -/
structure Row where
  id : String
  cells : List (String × Cell)
  /-- The columns in which the store itself filled in the time at the insert. -/
  stamped : List String

/-- A table with its rows in insertion order. -/
structure Table where
  schema : TableSchema
  rows : List Row

/-- The column whose default and update stamp is the store's clock. -/
def stampColumn : String := "updated_at"

/-- Why a statement is refused. -/
inductive Refused where
  | unfit (fault : ColumnFault)
  | empty (table column : String)
  | duplicate (table : String) (columns : List String)
  deriving DecidableEq

/-- What a refusal says. -/
def Refused.message : Refused → String
  | .unfit fault => fault.message
  | .empty table column => s!"NOT NULL constraint failed: {table}.{column}"
  | .duplicate table columns =>
    "UNIQUE constraint failed: " ++ ", ".intercalate (columns.map fun c => table ++ "." ++ c)

/-- Why a whole batch is given up: an error that is not the store's own verdict. -/
inductive Breakdown where
  | addition (fault : AddFault)
  | wordTooLarge
  /-- A text has no encoding. -/
  | unencodable (text : String)
  | unreadable (cell : Unreadable)
  deriving DecidableEq

/-- What a breakdown says. -/
def Breakdown.message : Breakdown → String
  | .addition fault => fault.message
  | .wordTooLarge => "Python int too large to convert to SQLite INTEGER"
  | .unencodable text => Text.encodingMessage text
  | .unreadable cell => cell.message

/-- What can go wrong with a statement. -/
inductive Trouble where
  | refused (why : Refused)
  | broken (why : Breakdown)

/-- The time at which the program runs, with its zone. -/
abbrev Clock := DateTime

/-- The clock of the store: whole seconds, no zone. -/
def storeTime (clock : Clock) : DateTime := { clock.naive with micro := 0 }

namespace Table

/-- A table without rows. -/
def empty (schema : TableSchema) : Table := ⟨schema, []⟩

/-- The row of an identifier. -/
def row? (id : String) (t : Table) : Option Row := t.rows.find? (·.id = id)

/-- Reads all cells of a row in column order. -/
def readCells (cells : List (String × Cell)) : List Column → Except Unreadable Fields
  | [] => .ok []
  | column :: rest => do
    let value ← column.read ((Keyed.get? column.name cells).getD none)
    .ok ((column.name, value) :: (← readCells cells rest))

/-- The fields of a row, the identifier first. -/
def readRow (t : Table) (row : Row) : Except Unreadable Fields := do
  .ok (("id", .text row.id) :: (← readCells row.cells t.schema.columns))

end Table

/-- Checks that the values fit their columns. -/
def prepareAll : List (Column × Value) → Except Trouble (List (Column × Cell))
  | [] => .ok []
  | (column, value) :: rest =>
    match column.prepare value with
    | .ok cell => do .ok ((column, cell) :: (← prepareAll rest))
    | .error fault => .error (.refused (.unfit fault))

/-- Hands prepared values over one by one; the position counts from the first. -/
def bindAll : Nat → List (Column × Cell) → Except Trouble (List (String × Cell))
  | _, [] => .ok []
  | position, (column, cell) :: rest => do
    let bound ← match column.kind, cell with
      | .structured, cell => .ok cell
      | _, some (.text s) =>
        if Text.hasLoneSurrogate s then .error (.broken (.unencodable s))
        else .ok (keepPlain column.kind (.text s))
      | .text, some value | .whole, some value =>
        match value with
        | .list _ | .map _ => .error (.refused (.unfit (.unsupported position value.kindName)))
        | .int i =>
          if fitsWord i then .ok (keepPlain column.kind value) else .error (.broken .wordTooLarge)
        | value => .ok (keepPlain column.kind value)
      | _, cell => .ok cell
    .ok ((column.name, bound) :: (← bindAll (position + 1) rest))

/-- The first required column among those given whose cell is empty. -/
def firstEmpty? (columns : List Column) (cells : List (String × Cell)) : Option String :=
  (columns.find? fun column =>
    !column.nullable && ((Keyed.get? column.name cells).getD none).isNone).map Column.name

/-- Two cells hold the same value. -/
def sameCell (a b : Cell) : Bool :=
  match a, b with
  | some x, some y => x.agrees y
  | _, _ => false

/-- Two rows agree on a combination of columns. -/
def clashes (columns : List String) (a b : List (String × Cell)) : Bool :=
  columns.all fun name => sameCell ((Keyed.get? name a).getD none) ((Keyed.get? name b).getD none)

/-- The first unique combination that another row already has. -/
def firstClash? (t : Table) (row : Row) : Option (List String) :=
  t.schema.unique.find? fun columns =>
    t.rows.any fun other => other.id ≠ row.id && clashes columns row.cells other.cells

/-- Checks the constraints of a table on a new version of a row. -/
def checkRow (t : Table) (row : Row) : Except Trouble Unit :=
  match firstEmpty? t.schema.columns row.cells with
  | some column => .error (.refused (.empty t.schema.name column))
  | none =>
    match firstClash? t row with
    | some columns => .error (.refused (.duplicate t.schema.name columns))
    | none => .ok ()

/-- What a column of a new row gets: the value given, or its default. A null counts as given only in
a structured column. -/
def initialValue (clock : Clock) (given : Fields) (column : Column) : Option Value :=
  match Keyed.get? column.name given with
  | some value =>
    if value.isNull && column.kind ≠ .structured then fallback else some value
  | none => fallback
where
  /-- The default of the column. -/
  fallback : Option Value :=
    match column.default with
    | .nothing => if column.kind = .structured then none else some .null
    | .value v => some v
    | .clock => some (.time clock)
    | .storeClock => none

/-- The cell that the store itself fills in where the statement names no value. -/
def storeDefault (clock : Clock) (column : Column) : Cell :=
  match column.default with
  | .storeClock => some (.time (storeTime clock))
  | _ => none

namespace Table

/-- Inserts a row with the fields given. -/
def insert (clock : Clock) (id : String) (given : Fields) (t : Table) : Except Trouble Table := do
  let named := t.schema.columns.filterMap fun column =>
    (initialValue clock given column).map (column, ·)
  let bound ← bindAll 2 (← prepareAll named)
  let cells := t.schema.columns.map fun column =>
    (column.name, (Keyed.get? column.name bound).getD (storeDefault clock column))
  let stamped := t.schema.columns.filter fun column =>
    !Keyed.has column.name bound && (storeDefault clock column).isSome
  let row : Row := ⟨id, cells, stamped.map Column.name⟩
  checkRow t row
  .ok { t with rows := t.rows ++ [row] }

/-- Puts a new version of a row in its place. -/
def replace (row : Row) (t : Table) : Table :=
  { t with rows := t.rows.map fun other => if other.id = row.id then row else other }

/-- Changes columns of a row, and stamps it unless the stamp is among the changes. -/
def update (clock : Clock) (row : Row) (changes : List (Column × Value)) (t : Table) :
    Except Trouble Table := do
  let bound ← bindAll 1 (← prepareAll changes)
  let stamped := if Keyed.has stampColumn bound then bound
    else bound ++ [(stampColumn, some (.time (storeTime clock)))]
  let changed : Row := ⟨row.id, Keyed.putAll row.cells stamped,
    row.stamped.filter fun column => !Keyed.has column bound⟩
  checkRow t changed
  .ok (t.replace changed)

/-- Drops the row of an identifier. -/
def delete (id : String) (t : Table) : Table := { t with rows := t.rows.filter (·.id ≠ id) }

/-- Reads rows in a given order. -/
def readRows (t : Table) : List Row → Except Unreadable (List Fields)
  | [] => .ok []
  | row :: rest => do .ok ((← t.readRow row) :: (← readRows t rest))

end Table

end Outreach.Store
