import Outreach.Store.Table

/-!
# Selecting rows

Rows are selected in insertion order and may then be put in the order of a time column. A time that
the store itself filled in is known to the second only and comes before an equal time that was
given. Rows that are still equal stay in insertion order unless they are ordered by identifier.
-/

namespace Outreach.Store

namespace Row

/-- A cell of a row. -/
def cell (column : String) (row : Row) : Cell := (Keyed.get? column row.cells).getD none

/-- The text in a cell. -/
def textCell? (column : String) (row : Row) : Option String :=
  match row.cell column with
  | some (.text s) => some s
  | _ => none

/-- The time in a cell; rows without one come before all others. -/
def timeCell? (column : String) (row : Row) : Option Int :=
  match row.cell column with
  | some (.time t) => some t.epochMicros
  | _ => none

/-- The store itself filled in the time in a column. -/
def isStamped (column : String) (row : Row) : Bool := row.stamped.contains column

/-- The first row is not later than the second. -/
def notLater (column : String) (a b : Row) : Bool :=
  match a.timeCell? column, b.timeCell? column with
  | none, _ => true
  | some _, none => false
  | some x, some y => x < y || (x = y && (a.isStamped column || !b.isStamped column))

/-- The identifier of the first row is not after that of the second. -/
def idNotAfter (a b : Row) : Bool := !decide (b.id < a.id)

end Row

/-- Oldest rows first. -/
def oldestFirst (column : String) (rows : List Row) : List Row :=
  rows.mergeSort (Row.notLater column)

/-- Newest rows first. -/
def newestFirst (column : String) (rows : List Row) : List Row :=
  rows.mergeSort fun a b => Row.notLater column b a

/-- Rows in the order of their identifiers. -/
def byId (rows : List Row) : List Row := rows.mergeSort Row.idNotAfter

namespace Table

/-- The rows whose cell holds a text. -/
def rowsWith (column text : String) (t : Table) : List Row :=
  t.rows.filter fun row => row.textCell? column = some text

/-- The rows whose cell holds a text, or all rows when none is asked for. -/
def rowsOf (column : String) (text : Option String) (t : Table) : List Row :=
  match text with
  | some text => t.rowsWith column text
  | none => t.rows

end Table

end Outreach.Store
