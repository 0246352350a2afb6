import Outreach.Proofs.Customers.Activity
import Outreach.Proofs.Office.Tasks
import Outreach.Proofs.Orders.Ledger
import Outreach.Proofs.Store.Deliveries

/-!
# Customer activity equals the orders taken

A new order queues two writes, with the processor of the orders and with that of the customers. Each
of them hands over its writes in batches of its own, at times of its own, and tries again what has
failed. Once both are drained the tables agree again: one row for each order, and for each customer
the visits and the money of the orders.
-/

namespace Outreach.Orders

open Store Customers

/-! ## Taking an order -/

/-- An office takes an order, and this is its document. -/
structure Taken (order : Form.NewOrder) (o after : Office) (document : Fields) : Prop where
  documentEq : document =
    newDocument (Office.identifier (o.drawn + 1)) o.clock order.customerId order
  queues : ∃ orders customers,
    (o.processor .orders).enqueue 0 (Office.identifier (o.drawn + 1)) (.ofFields document) =
      .ok orders ∧
    (o.processor .customers).enqueue 0 order.customerId (activity o.clock order.amount) =
      .ok customers ∧
    after = { o with
      drawn := o.drawn + 1
      processors := (o.processors.set .orders orders).set .customers customers }

theorem taken_of_create {order : Form.NewOrder} {o after : Office} {document : Fields}
    (created : Task.perform (create order) o = (.ok document, after)) :
    Taken order o after document := by
  unfold create at created
  simp only [Task.perform_bind_eq_ok_iff, Task.perform_demand_eq_ok_iff, Task.perform_now_eq_ok_iff,
    Task.perform_drawId_eq_ok_iff, Task.perform_queueWrite_eq_ok_iff,
    Task.perform_pure_eq_ok_iff] at created
  obtain ⟨fields, _, ⟨row, found, read, rfl⟩, _, _, ⟨rfl, rfl⟩, _, _, ⟨rfl, rfl⟩, _, _,
    ⟨orders, ordersEq, rfl⟩, _, _, ⟨customers, customersEq, rfl⟩, documentEq, rfl⟩ := created
  rw [textField_id_of_readRow read, Table.row?_id found] at documentEq ordersEq customersEq
  refine ⟨documentEq, orders, customers, ?_, ?_, rfl⟩
  · rw [documentEq]
    exact ordersEq
  · simpa [Office.processor] using customersEq

/-! ## Runs -/

/-- An office whose orders and customers have a coalescer each. -/
structure Shop where
  office : Office
  orders : Writes.Coalescer
  customers : Writes.Coalescer

namespace Shop

/-- The office with the processors of the two coalescers. -/
def desk (shop : Shop) : Office :=
  { shop.office with
    processors := (shop.office.processors.set .orders shop.orders.processor).set .customers
      shop.customers.processor }

/-- The coalescers go on with the processors that an office leaves. -/
def served (shop : Shop) (after : Office) : Shop where
  office := after
  orders := { shop.orders with processor := after.processor .orders }
  customers := { shop.customers with processor := after.processor .customers }

/-- Puts a table back. -/
def put (shop : Shop) (c : Collection) (t : Table) : Shop :=
  { shop with office := { shop.office with tables := shop.office.tables.set c t } }

/-- The table of a collection. -/
def table (shop : Shop) (c : Collection) : Table := shop.office.table c

end Shop

/-- The sale that a document stands for. -/
def saleOf (document : Fields) (order : Form.NewOrder) (time : DateTime) : Sale :=
  ⟨textField "id" document, order, time⟩

/-- What a shop whose clock shows UTC can reach by taking orders, flushing both coalescers at any
time, and doing anything else that changes neither the orders nor the customers of whom it is said
that nothing else writes to them. -/
inductive Trades (alone : String → Prop) (before : Shop) : List Sale → Shop → Prop
  | opens : Trades alone before [] before
  | sale {sold : List Sale} {shop : Shop} {order : Form.NewOrder} {document : Fields}
      {after : Office} (trades : Trades alone before sold shop)
      (utc : shop.office.clock.IsUtc)
      (created : Task.perform (create order) shop.desk = (.ok document, after)) :
      Trades alone before (sold ++ [saleOf document order shop.office.clock]) (shop.served after)
  /-- The coalescer of the orders works, and its table may take a batch. -/
  | orders {sold : List Sale} {shop : Shop} {s : Writes.Coalescer} {t : Table}
      (trades : Trades alone before sold shop)
      (step : TableStep shop.orders (shop.table .orders) s t) :
      Trades alone before sold ({ shop with orders := s }.put .orders t)
  /-- The coalescer of the customers works, and its table may take a batch. -/
  | customers {sold : List Sale} {shop : Shop} {s : Writes.Coalescer} {t : Table}
      (trades : Trades alone before sold shop)
      (step : TableStep shop.customers (shop.table .customers) s t) :
      Trades alone before sold ({ shop with customers := s }.put .customers t)
  /-- A change of another customer is queued. -/
  | other {sold : List Sale} {shop : Shop} {now : Nat} {id : String} {patch : Writes.Patch}
      {p : Writes.Processor} (trades : Trades alone before sold shop) (different : ¬ alone id)
      (queued : shop.customers.processor.enqueue now id patch = .ok p) :
      Trades alone before sold { shop with customers := { shop.customers with processor := p } }
  /-- Anything else happens in the office. -/
  | aside {sold : List Sale} {shop : Shop} {o : Office} (trades : Trades alone before sold shop)
      (orders : o.table .orders = shop.table .orders)
      (schema : (o.table .customers).schema = (shop.table .customers).schema)
      (rows : ∀ id, alone id → (o.table .customers).row? id = (shop.table .customers).row? id) :
      Trades alone before sold { shop with office := o }

/-- What a sale is for its customer. -/
def Sale.visit (sale : Sale) : Visit := ⟨sale.time, sale.order.amount⟩

/-- The sales to a customer, in the order of the calls. -/
def salesTo (id : String) (sold : List Sale) : List Sale := sold.filter (·.order.customerId = id)

namespace Trades

variable {alone : String → Prop} {before shop : Shop} {sold : List Sale}

theorem desk_orders (shop : Shop) : shop.desk.processor .orders = shop.orders.processor := by
  simp [Shop.desk, Office.processor]

theorem desk_customers (shop : Shop) :
    shop.desk.processor .customers = shop.customers.processor := by
  simp [Shop.desk, Office.processor]

/-- The writes of a new order, as the two coalescers queue them. -/
theorem served_of_create {order : Form.NewOrder} {document : Fields} {after : Office}
    (created : Task.perform (create order) shop.desk = (.ok document, after)) :
    ∃ p q, shop.orders.processor.enqueue 0 (saleOf document order shop.office.clock).id
        (saleOf document order shop.office.clock).queued.2 = .ok p ∧
      shop.customers.processor.enqueue 0 order.customerId
        (saleOf document order shop.office.clock).visit.patch = .ok q ∧
      (shop.served after).orders = { shop.orders with processor := p } ∧
      (shop.served after).customers = { shop.customers with processor := q } ∧
      (shop.served after).office.tables = shop.office.tables := by
  obtain ⟨documentEq, p, q, ordersEq, customersEq, rfl⟩ := taken_of_create created
  rw [desk_orders] at ordersEq
  rw [desk_customers] at customersEq
  subst documentEq
  exact ⟨p, q, ordersEq, customersEq, by simp [Shop.served, Office.processor],
    by simp [Shop.served, Office.processor], rfl⟩

theorem put_table_self (shop : Shop) (c : Collection) (t : Table) : (shop.put c t).table c = t := by
  simp [Shop.put, Shop.table, Office.table]

theorem put_table_of_ne (shop : Shop) {c other : Collection} (different : other ≠ c) (t : Table) :
    (shop.put c t).table other = shop.table other := by
  simp [Shop.put, Shop.table, Office.table, different]

/-- The orders that were delivered are in their table. -/
theorem booked (trades : Trades alone before sold shop)
    (start : Booked (before.table .orders) [] before.orders (before.table .orders))
    (fresh : ∀ sale ∈ sold, (before.table .orders).row? sale.id = none)
    (distinct : (sold.map Sale.id).Nodup) :
    Booked (before.table .orders) sold shop.orders (shop.table .orders) := by
  induction trades with
  | opens => exact start
  | @sale sold shop order document after trades utc created ih =>
      rw [List.map_append] at distinct
      have earlier := ih (fun sale saleMem => fresh sale (List.mem_append_left _ saleMem))
        (List.nodup_append.mp distinct).1
      obtain ⟨p, q, queued, -, ordersEq, -, tablesEq⟩ := served_of_create created
      rw [ordersEq, show (shop.served after).table .orders = shop.table .orders from
        congrArg (PerCollection.get .orders) tablesEq]
      exact earlier.enqueue _ queued
  | orders trades step ih =>
      rw [put_table_self]
      exact (ih fresh distinct).tableStep step fresh distinct
  | @customers sold shop s t trades step ih =>
      rw [put_table_of_ne _ (by decide)]
      exact ih fresh distinct
  | other trades different queued ih => exact ih fresh distinct
  | @aside sold shop o trades orders schema rows ih =>
      rw [show Shop.table { shop with office := o } .orders = shop.table .orders from orders]
      exact ih fresh distinct

/-- The visits that were delivered are in the row of their customer. -/
theorem credited {id : String} {activity : Activity} (trades : Trades alone before sold shop)
    (start : Credited activity id [] before.customers (before.table .customers)) (only : alone id) :
    Credited activity id ((salesTo id sold).map Sale.visit) shop.customers
      (shop.table .customers) := by
  induction trades with
  | opens => exact start
  | @sale sold shop order document after trades utc created ih =>
      obtain ⟨p, q, -, queued, -, customersEq, tablesEq⟩ := served_of_create created
      rw [customersEq, show (shop.served after).table .customers = shop.table .customers from
        congrArg (PerCollection.get .customers) tablesEq]
      by_cases own : order.customerId = id
      · rw [own] at queued
        simpa [salesTo, own, saleOf] using ih.enqueue utc queued
      · simpa [salesTo, own, saleOf] using ih.enqueue_other queued own
  | @orders sold shop s t trades step ih =>
      rw [put_table_of_ne _ (by decide)]
      exact ih
  | customers trades step ih =>
      rw [put_table_self]
      exact ih.tableStep step
  | other trades different queued ih =>
      exact ih.enqueue_other queued fun same => different (same ▸ only)
  | aside trades orders schema rows ih => exact ih.aside schema (rows id only)

end Trades

/-- Visits one after the other: their money is added in turn, each counts once,
and the last one stays. -/
theorem foldl_add (activity : Activity) (visits : List Visit) :
    (visits.foldl Activity.add activity).spent =
        (visits.map Visit.amount).foldl (· + ·) activity.spent ∧
      (visits.foldl Activity.add activity).visits = activity.visits + visits.length ∧
      ∀ visit ∈ visits.getLast?, (visits.foldl Activity.add activity).last = visit.time := by
  induction visits using List.reverseRecOn with
  | nil => simp
  | append_singleton before visit ih =>
      obtain ⟨spent, number, -⟩ := ih
      rw [List.foldl_append]
      refine ⟨by simp [Activity.add, spent], ?_, by simp [Activity.add]⟩
      simp [Activity.add, number]
      omega

/-- Customer activity equals the orders taken. In a run of new orders, whatever the batches and the
times of their flushes and whatever failed and was tried again, once both coalescers are drained the
table of orders has one new row for each order, and the row of each customer to whom nothing else
wrote has one more visit for each of its orders, the money of these orders added in the order of the
calls, and the time of the last one. -/
theorem activity_equals_orders {alone : String → Prop} {before shop : Shop} {sold : List Sale}
    (trades : Trades alone before sold shop) {ordersName customersName : String}
    {ordersConfig customersConfig : Writes.Config}
    (ordersIdle : before.orders = .idle ordersName ordersConfig)
    (customersIdle : before.customers = .idle customersName customersConfig)
    (schema : (before.table .orders).schema = orderSchema)
    (fresh : ∀ sale ∈ sold, (before.table .orders).row? sale.id = none)
    (distinct : (sold.map Sale.id).Nodup) (ordersDrained : Drained shop.orders.processor)
    (customersDrained : Drained shop.customers.processor) :
    (∃ added, (shop.table .orders).rows = (before.table .orders).rows ++ added ∧
      (added.map Row.id).Perm (sold.map Sale.id) ∧
      ∀ sale ∈ sold, ∃ row ∈ added, sale.Records row) ∧
    ∀ id, alone id → ∀ activity : Activity, activity.Stored id (before.table .customers) →
      ∃ row, (shop.table .customers).row? id = some row ∧
        row.cell "visits" = some (.int (activity.visits + (salesTo id sold).length)) ∧
        row.cell "total_spend" = cellOfFloat
          (((salesTo id sold).map (·.order.amount)).foldl (· + ·) activity.spent) ∧
        ∀ last ∈ (salesTo id sold).getLast?, ∃ wall,
          row.cell "last_active" = some (.time wall) ∧ wall.sameTime last.time.naive = true := by
  constructor
  · have start : Booked (before.table .orders) [] before.orders (before.table .orders) := by
      rw [ordersIdle]
      exact Booked.idle ordersName ordersConfig schema
    exact (trades.booked start fresh distinct).drained ordersDrained
  · intro id only activity stored
    have start : Credited activity id [] before.customers (before.table .customers) := by
      rw [customersIdle]
      exact Credited.idle stored customersName customersConfig
    obtain ⟨-, row, found, holds⟩ := (trades.credited start only).drained customersDrained
    obtain ⟨spent, number, lastVisit⟩ := foldl_add activity ((salesTo id sold).map Sale.visit)
    refine ⟨row, found, ?_, ?_, ?_⟩
    · rw [holds.visits, number, List.length_map]
    · rw [holds.spent, spent, List.map_map]
      rfl
    · intro last lastMem
      obtain ⟨wall, wallEq, shown⟩ := holds.last
      have visitMem : last.visit ∈ ((salesTo id sold).map Sale.visit).getLast? := by
        rw [List.getLast?_map]
        exact Option.mem_map_of_mem _ lastMem
      rw [lastVisit _ visitMem] at shown
      exact ⟨wall, wallEq, shown⟩

/-- A stored customer with two visits. -/
def guest : Row where
  id := "ada"
  cells :=
    [("name", some (.text "Ada")), ("email", some (.text "ada@example.com")), ("phone", none),
      ("total_spend", some (.float 10.0)), ("visits", some (.int 2)),
    ("last_active", some (.time (.midnight ⟨2026, 1, 1⟩))),
    ("created_at", some (.time (.midnight ⟨2026, 1, 1⟩))),
    ("updated_at", some (.time (.midnight ⟨2026, 1, 1⟩)))]
  stamped := []

/-- A shop with one customer. -/
def smallShop : Shop where
  office :=
    let o := Office.opened ⟨⟨2026, 1, 2⟩, 9, 0, 0, 0, some 0⟩ Writes.Coalescer.smallBatches
      (.fresh "" false [])
    { o with tables := o.tables.set .customers ⟨customerSchema, [guest]⟩ }
  orders := .idle "orders" Writes.Coalescer.smallBatches
  customers := .idle "customers" Writes.Coalescer.smallBatches

/-- An order of the customer. -/
def smallOrder (amount : Float) : Form.NewOrder := ⟨"ada", amount, [], "pending"⟩

/-- The shop after an order of the customer. -/
def Shop.sell (shop : Shop) (amount : Float) : Shop :=
  shop.served (Task.perform (create (smallOrder amount)) shop.desk).2

/-- The sales of two orders. -/
def twoSales : List Sale :=
  [⟨Office.identifier 1, smallOrder 0.1, smallShop.office.clock⟩,
    ⟨Office.identifier 2, smallOrder 0.2, smallShop.office.clock⟩]

/-- The shop after two orders. -/
def busyShop : Shop := (smallShop.sell 0.1).sell 0.2

/-- The orders with both writes in flight. -/
def flyingOrders : Writes.Coalescer := busyShop.orders.step (.start 0 .flush)

/-- The customers with both writes in flight again, after a batch that failed. -/
def flyingVisits : Writes.Coalescer :=
  busyShop.customers.run [.start 0 .flush, .finish 1 (.raised "locked") .working, .start 2 .flush]

/-- The shop after both tables have taken their batches. -/
def shutShop : Shop :=
  let clock := smallShop.office.clock
  let (ordersAnswer, orders) :=
    Table.sink clock flyingOrders.processor.flight (busyShop.table .orders)
  let (customersAnswer, customers) :=
    Table.sink clock flyingVisits.processor.flight (busyShop.table .customers)
  { busyShop with
    orders := flyingOrders.step (.finish 3 ordersAnswer .working)
    customers := flyingVisits.step (.finish 3 customersAnswer .working) }
  |>.put .orders orders |>.put .customers customers

theorem shutShop_trades : Trades (· = "ada") smallShop twoSales shutShop := by
  have first : Trades (· = "ada") smallShop (twoSales.take 1) (smallShop.sell 0.1) :=
    @Trades.sale _ _ _ _ (smallOrder 0.1)
      (newDocument (Office.identifier 1) smallShop.office.clock "ada" (smallOrder 0.1)) _
      .opens rfl rfl
  have second : Trades (· = "ada") smallShop twoSales busyShop :=
    @Trades.sale _ _ _ _ (smallOrder 0.2)
      (newDocument (Office.identifier 2) smallShop.office.clock "ada" (smallOrder 0.2)) _
      first rfl rfl
  have ordersTaken := (second.orders (.work (.start 0 .flush) not_false not_false)).orders
    (.sink 3 smallShop.office.clock .working (by decide +kernel))
  have failed := ((ordersTaken.customers (.work (.start 0 .flush) not_false not_false)).customers
    (.fail 1 "locked" .working)).customers (.work (.start 2 .flush) not_false not_false)
  exact failed.customers (.sink 3 smallShop.office.clock .working (by decide +kernel))

theorem guest_stored : (⟨10.0, 2, .midnight ⟨2026, 1, 1⟩⟩ : Activity).Stored "ada"
    (smallShop.table .customers) :=
  ⟨rfl, guest, rfl, rfl, by decide +kernel, rfl, _, rfl, DateTime.sameTime_refl _⟩

theorem shutShop_activity :
    (∃ added, (shutShop.table .orders).rows = (smallShop.table .orders).rows ++ added ∧
      (added.map Row.id).Perm (twoSales.map Sale.id)) ∧
    ∃ row, (shutShop.table .customers).row? "ada" = some row ∧
      row.cell "visits" = some (.int 4) ∧
      row.cell "total_spend" = cellOfFloat (10.0 + 0.1 + 0.2) := by
  have ordersDrained : Drained shutShop.orders.processor := by decide +kernel
  have customersDrained : Drained shutShop.customers.processor := by decide +kernel
  have fresh : ∀ sale ∈ twoSales, (smallShop.table .orders).row? sale.id = none := fun _ _ => rfl
  obtain ⟨⟨added, rowsEq, ids, -⟩, visited⟩ :=
    activity_equals_orders shutShop_trades rfl rfl rfl fresh
    (by decide +kernel) ordersDrained customersDrained
  obtain ⟨row, found, visits, spent, -⟩ := visited "ada" rfl _ guest_stored
  exact ⟨⟨added, rowsEq, ids⟩, row, found, visits, spent⟩

end Outreach.Orders
