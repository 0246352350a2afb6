import Outreach.Customers

/-!
# Orders

A new order is queued, and so is what it means for its customer: money spent and one more visit. The
two writes go through different processors.
-/

namespace Outreach.Orders

/-- The document of a new order. -/
def newDocument (id : String) (time : DateTime) (customerId : String) (order : Form.NewOrder) :
    Fields :=
  [("id", .text id), ("customer_id", .text customerId), ("amount", .float order.amount),
    ("items", order.itemsValue), ("status", .text order.status), ("order_date", .time time),
    ("created_at", .time time)]

/-- What an order means for its customer. -/
def activity (time : DateTime) (amount : Float) : Writes.Patch :=
  ⟨[("last_active", .time time)], [("total_spend", .float amount), ("visits", .int 1)]⟩

/-- Queues a new order of a stored customer, and gives the document. -/
def create (order : Form.NewOrder) : Task Fields := do
  let customer ← Task.demand .customers "Customer" order.customerId
  let customerId := textField "id" customer
  let time ← Task.now
  let id ← Task.drawId
  let document := newDocument id time customerId order
  Task.queueWrite .orders id (.ofFields document)
  Task.queueWrite .customers customerId (activity time order.amount)
  return document

/-- A page of orders, latest first. -/
def list (limit offset : Nat) : Task (List Fields) :=
  Task.select .orders fun t => ((Store.newestFirst "order_date" t.rows).drop offset).take limit

/-- The orders of a customer, latest first. -/
def ofCustomer (customerId : String) : Task (List Fields) :=
  Task.select .orders fun t => Store.newestFirst "order_date" (t.rowsWith "customer_id" customerId)

/-- A stored order, with its customer if that is stored too. -/
def get (id : String) : Task Fields := do
  let order ← Task.demand .orders "Order" id
  match ← Task.find .customers (textField "customer_id" order) with
  | some customer => return order ++ [("customer", .map customer)]
  | none => return order

/-- Queues a new status of a stored order, and gives the identifier. -/
def changeStatus (id : String) (change : Form.StatusChange) : Task String := do
  let order ← Task.demand .orders "Order" id
  let id := textField "id" order
  Task.queueWrite .orders id (.ofFields [("status", .text change.status)])
  return id

end Outreach.Orders
