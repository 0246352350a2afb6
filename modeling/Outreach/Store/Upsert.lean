import Outreach.Store.Table
import Outreach.Writes.Report

/-!
# Upserting batches into a table

A batch of writes goes into a table in order, as one unit. A write whose identifier has no row
creates it from its patch; any other sets and increments columns of the row. Fields that are no
columns are ignored. A write that the table refuses is left out and named in the result, and so is
every later write of the same identifier. An error of any other kind gives up the whole batch and
leaves the table as it was.

Every write reads its row from the table again, so within a batch a row is seen as the columns keep
it and not as the write before it gave it.
-/

namespace Outreach.Store

/-- Updates a row where columns change; otherwise nothing is stored. -/
def Table.amend (clock : Clock) (row : Row) (changed : List (Column × Value)) (t : Table) :
    Except Trouble Table :=
  if changed.isEmpty then .ok t else t.update clock row changed

/-- A table in the middle of a batch, and the reasons of refused identifiers. -/
structure Session where
  table : Table
  refused : List (String × String)
  result : Writes.BulkResult

namespace Session

/-- The session at the start of a batch. -/
def start (t : Table) : Session := ⟨t, [], ⟨0, 0, []⟩⟩

/-- The columns that writes may name. -/
def columnNames (s : Session) : List String := s.table.schema.columns.map Column.name

/-- The row of an identifier and its fields, read from the table. -/
def load (id : String) (s : Session) : Except Breakdown (Option (Row × Fields)) :=
  if Text.hasLoneSurrogate id then .error (.unencodable id)
  else match s.table.row? id with
  | none => .ok none
  | some row => match s.table.readRow row with
    | .ok fields => .ok (some (row, fields))
    | .error cell => .error (.unreadable cell)

/-- Creates the row of a write. -/
def create (clock : Clock) (w : Writes.Write) (s : Session) : Except Trouble Session := do
  let values ← match w.patch.applyTo none with
    | .ok values => .ok values
    | .error fault => .error (.broken (.addition fault))
  let table ← s.table.insert clock w.id (Keyed.restrict s.columnNames values)
  .ok { s with table := table
               result := { s.result with inserted := s.result.inserted + 1 } }

/-- The fields of a row after a patch on its columns. -/
def patched (w : Writes.Write) (fields : Fields) (s : Session) : Except Trouble Fields :=
  let patch : Writes.Patch :=
    ⟨Keyed.restrict s.columnNames w.patch.set, Keyed.restrict s.columnNames w.patch.inc⟩
  match patch.applyTo (some fields) with
  | .ok next => .ok next
  | .error fault => .error (.broken (.addition fault))

/-- The columns in which two versions of a row differ, with the new values. -/
def changes (columns : List Column) (old new : Fields) : List (Column × Value) :=
  columns.filterMap fun column =>
    let value := (Keyed.get? column.name new).getD .null
    if value.agrees ((Keyed.get? column.name old).getD .null) then none else some (column, value)

/-- Changes the row of a write. -/
def modify (clock : Clock) (w : Writes.Write) (row : Row) (fields : Fields) (s : Session) :
    Except Trouble Session := do
  let next ← s.patched w fields
  let table ← s.table.amend clock row (changes s.table.schema.columns fields next)
  .ok { s with table := table
               result := { s.result with modified := s.result.modified + 1 } }

/-- Applies a write to its row. -/
def apply (clock : Clock) (w : Writes.Write) (s : Session) : Except Trouble Session :=
  match s.load w.id with
  | .error why => .error (.broken why)
  | .ok none => s.create clock w
  | .ok (some (row, fields)) => s.modify clock w row fields

/-- Leaves a write out. -/
def refuse (w : Writes.Write) (reason : String) (s : Session) : Session :=
  { s with result := { s.result with
      failed := s.result.failed ++ [⟨some w.ticket, w.id, reason⟩] } }

/-- Takes one write of the batch. -/
def take (clock : Clock) (w : Writes.Write) (s : Session) : Except Breakdown Session :=
  match Keyed.get? w.id s.refused with
  | some reason => .ok (s.refuse w s!"Earlier write for {w.id} failed: {reason}")
  | none => match s.apply clock w with
    | .ok next => .ok next
    | .error (.refused why) =>
      .ok { s.refuse w why.message with refused := Keyed.put w.id why.message s.refused }
    | .error (.broken why) => .error why

/-- Takes the writes of a batch in order. -/
def takeAll (clock : Clock) : List Writes.Write → Session → Except Breakdown Session
  | [], s => .ok s
  | w :: rest, s => do takeAll clock rest (← s.take clock w)

end Session

/-- Upserts a batch: the table afterwards, and the counts or what broke the batch. -/
def Table.upsert (clock : Clock) (writes : List Writes.Write) (t : Table) :
    Table × Except Breakdown Writes.BulkResult :=
  match (Session.start t).takeAll clock writes with
  | .ok s => (s.table, .ok s.result)
  | .error why => (t, .error why)

/-- A table as the store of a processor. -/
def Table.sink (clock : Clock) (writes : List Writes.Write) (t : Table) :
    Writes.SinkOutcome × Table :=
  match t.upsert clock writes with
  | (t, .ok result) => (.returned result, t)
  | (t, .error why) => (.raised why.message, t)

end Outreach.Store
