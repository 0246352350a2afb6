import Outreach.Audience.Evaluate
import Outreach.Audience.Outline
import Outreach.Delivery.Message
import Outreach.Failure
import Outreach.Form.View
import Outreach.Office.Basic
import Outreach.Store.Query

/-!
# Tasks

A task is what the office does for one request: it reads tables, changes them and queues writes, and
ends with a value or a setback. `Task.inOneGo` gives up the changes of tables when a task ends with
a setback; writes that were queued by then stay queued.
-/

namespace Outreach

/-- Why a task does not get done. -/
inductive Setback where
  /-- The caller is told. -/
  | failure (why : Failure)
  /-- A record cannot be written to. -/
  | record (fault : Delivery.RecordFault)
  /-- A rule cannot be outlined. -/
  | outline (fault : Audience.OutlineFault)
  /-- A row cannot be read. -/
  | unreadable (cell : Store.Unreadable)
  /-- A row cannot be stored. -/
  | unstorable (trouble : Store.Trouble)
  /-- What was found cannot be shown. -/
  | unpresentable (problems : List Form.Problem)
  /-- A suggestion cannot be shown. -/
  | suggestion (fault : Suggestion.VariantFault)
  /-- Nobody was named who could be asked for suggestions. -/
  | noAdvisers
  /-- A row to be skipped has a number that no table has. -/
  | offsetTooLarge

/-- What the office does for a request. -/
abbrev Task := ExceptT Setback (StateM Office)

namespace Task

variable {α β : Type}

/-- Ends a task with a setback. -/
def fail (setback : Setback) : Task α := throw setback

/-- Ends a task with a failure that the caller is told. -/
def refuse (why : Failure) : Task α := throw (.failure why)

/-- Runs a task. -/
def perform (task : Task α) (o : Office) : Except Setback α × Office := ExceptT.run task o

/-- Runs a task whose changes of tables are given up when it ends with a setback. -/
def inOneGo (task : Task α) (o : Office) : Except Setback α × Office :=
  match perform task o with
  | (.ok value, after) => (.ok value, after)
  | (.error setback, after) => (.error setback, { after with tables := o.tables })

/-- The time. -/
def now : Task DateTime := do return (← get).clock

/-- Draws the next identifier. -/
def drawId : Task String :=
  modifyGet fun o => (Office.identifier (o.drawn + 1), { o with drawn := o.drawn + 1 })

/-- Queues a write. -/
def queueWrite (c : Collection) (id : String) (patch : Writes.Patch) : Task Unit := do
  match (← get).enqueue c id patch with
  | .ok next => set next
  | .error refusal => refuse (.refused refusal)

/-- Reads rows of a table. -/
def readRows (t : Store.Table) (rows : List Store.Row) : Task (List Fields) :=
  match t.readRows rows with
  | .ok found => pure found
  | .error cell => fail (.unreadable cell)

/-- The rows that a query selects from a table. -/
def select (c : Collection) (query : Store.Table → List Store.Row) : Task (List Fields) := do
  let t := (← get).table c
  readRows t (query t)

/-- The first row that a query selects from a table. -/
def selectFirst (c : Collection) (query : Store.Table → List Store.Row) : Task (Option Fields) := do
  return (← select c query).head?

/-- The row of an identifier. -/
def find (c : Collection) (id : String) : Task (Option Fields) :=
  selectFirst c fun t => (t.row? id).toList

/-- The row of an identifier, or the failure that there is none. -/
def demand (c : Collection) (resource id : String) : Task Fields := do
  match ← find c id with
  | some row => return row
  | none => refuse (.notFound resource id)

/-- Inserts a row under a new identifier and reads it back. -/
def insert (c : Collection) (fields : Fields) : Task Fields := do
  let id ← drawId
  let o ← get
  match (o.table c).insert o.clock id fields with
  | .error trouble => fail (.unstorable trouble)
  | .ok t =>
    set { o with tables := o.tables.set c t }
    return (← find c id).getD []

/-- Deletes a row. -/
def delete (c : Collection) (id : String) : Task Unit :=
  modify fun o => { o with tables := o.tables.set c ((o.table c).delete id) }

/-- Shows fields through a view. -/
def present (view : Form.View) (fields : Fields) : Task Value :=
  match view.check .top (.map fields) with
  | .valid value => pure value
  | .invalid problems => fail (.unpresentable problems)

/-- Shows several objects through a view. -/
def presentAll (view : Form.View) : List Fields → Task (List Value)
  | [] => pure []
  | fields :: rest => do
    let value ← present view fields
    return value :: (← presentAll view rest)

end Task

/-- A field of a row, null when there is none. -/
def fieldOf (name : String) (row : Fields) : Value := (Keyed.get? name row).getD .null

/-- The text of a field. -/
def textField (name : String) (row : Fields) : String :=
  match fieldOf name row with
  | .text s => s
  | value => value.display

/-- A customer as segment rules see it. -/
def customerRecord (row : Fields) : Value :=
  .map [("id", fieldOf "id" row), ("name", fieldOf "name" row), ("email", fieldOf "email" row),
    ("phone", fieldOf "phone" row), ("totalSpend", fieldOf "total_spend" row),
    ("visits", fieldOf "visits" row), ("lastActive", fieldOf "last_active" row),
    ("createdAt", fieldOf "created_at" row)]

namespace Task

/-- Customers in order of creation. -/
def customersByAge (t : Store.Table) : List Store.Row :=
  Store.oldestFirst "created_at" (Store.byId t.rows)

/-- All customers as records, in order of creation. -/
def population : Task (List Value) := do
  let o ← get
  match o.outage with
  | some reason => refuse (.populationUnavailable reason)
  | none =>
    let t := o.table .customers
    match t.readRows (customersByAge t) with
    | .ok rows => return rows.map customerRecord
    | .error cell => refuse (.populationUnavailable cell.message)

/-- The outline of a rule. -/
def outline (rule : Value) : Task String :=
  match (Audience.Rule.ofValue rule).outline 0 with
  | .ok text => pure text
  | .error fault => fail (.outline fault)

/-- The customers that satisfy a rule. -/
def audience (rule : Value) : Task (List Value) := do
  return Audience.audience rule (← population)

end Task

/-- The names of records, written out. -/
def namesOf (records : List Value) : List Value :=
  records.map fun record => .text (record.field "name").display

end Outreach
