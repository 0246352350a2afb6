import Outreach.Form.Requests
import Outreach.Office.Task

/-!
# Customers

A new customer is queued and stored by the next flush. Addresses are compared with those of stored
customers only. A customer belongs to every segment whose rules the customer's record satisfies.
-/

namespace Outreach.Customers

/-- The document of a new customer. -/
def newDocument (id : String) (time : DateTime) (customer : Form.NewCustomer) : Fields :=
  [("id", .text id), ("name", .text customer.name), ("email", .text customer.email),
    ("phone", .ofText? customer.phone), ("total_spend", .int 0), ("visits", .int 0),
    ("last_active", .time time), ("created_at", .time time)]

/-- Queues a new customer unless the address is taken, and gives the document. -/
def create (customer : Form.NewCustomer) : Task Fields := do
  match ← Task.selectFirst .customers (·.rowsWith "email" customer.email) with
  | some _ => Task.refuse (.emailTaken customer.email)
  | none =>
    let document := newDocument (← Task.drawId) (← Task.now) customer
    Task.queueWrite .customers (textField "id" document) (.ofFields document)
    return document

/-- Customers, newest first. -/
def newest (t : Store.Table) : List Store.Row := Store.newestFirst "created_at" (Store.byId t.rows)

/-- A page of customers, newest first. -/
def list (limit offset : Nat) : Task (List Fields) :=
  Task.select .customers fun t => ((newest t).drop offset).take limit

/-- A stored customer. -/
def get (id : String) : Task Fields := Task.demand .customers "Customer" id

/-- A segment as it is shown to a customer with a given record, if the customer belongs to it and
the segment can be shown. -/
def membership? (record : Value) (segment : Fields) : Option Value :=
  if Audience.belongs (fieldOf "rules" segment) record then
    (Form.View.customerSegment.checkParts .top (.map segment)).toOption
  else none

/-- The segments that a customer belongs to, newest first, of one creator or of all. -/
def segmentsOf (id : String) (creator : Option String) : Task (List Value) := do
  let record := customerRecord (← get id)
  let segments ← Task.select .segments fun t =>
    Store.newestFirst "created_at" (t.rowsOf "creator" creator)
  return segments.filterMap (membership? record)

end Outreach.Customers
