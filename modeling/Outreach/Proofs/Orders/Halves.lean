import Outreach.Orders
import Outreach.Proofs.Office.Setbacks

/-!
# Orders that are taken by half

A new order queues two writes with two processors: the order, and then what it means for its
customer. Nothing takes the first one back when the second is refused. So a call that fails has
queued nothing at all, or it has queued the order without its activity; the latter exactly if the
customer is stored, the orders take the write and the customers do not.
-/

namespace Outreach.Orders

open Writes (Patch)

variable {order : Form.NewOrder} {o after : Office}

/-- The write of a new order. -/
def orderChange (order : Form.NewOrder) (o : Office) : String × Patch :=
  (Office.identifier (o.drawn + 1),
    .ofFields (newDocument (Office.identifier (o.drawn + 1)) o.clock order.customerId order))

/-- The write of what a new order means for its customer: the amount is added to the money spent,
and one to the visits. -/
def activityChange (order : Form.NewOrder) (o : Office) : String × Patch :=
  (order.customerId,
    ⟨[("last_active", .time o.clock)], [("total_spend", .float order.amount), ("visits", .int 1)]⟩)

/-- Both writes of an order would be accepted. -/
structure WouldEnter (order : Form.NewOrder) (o : Office) : Prop where
  customer : Task.Readable .customers order.customerId o
  orders : (o.processor .orders).Accepts
  customers : (o.processor .customers).Accepts

/-- An order would be accepted without its activity. -/
structure WouldHalve (order : Form.NewOrder) (o : Office) : Prop where
  customer : Task.Readable .customers order.customerId o
  orders : (o.processor .orders).Accepts
  customers : ¬(o.processor .customers).Accepts

/-- Both writes of an order were accepted, and nothing else. -/
structure Entered (order : Form.NewOrder) (o after : Office) : Prop where
  orders : o.Queues .orders [orderChange order o] after
  customers : o.Queues .customers [activityChange order o] after
  others : ∀ c, c ≠ .orders → c ≠ .customers → after.processor c = o.processor c

/-- An order was accepted without its activity. -/
structure Halved (order : Form.NewOrder) (o after : Office) : Prop where
  orders : o.Queues .orders [orderChange order o] after
  others : ∀ c, c ≠ .orders → after.processor c = o.processor c

/-- What becomes of a call for a new order. -/
inductive Enters (order : Form.NewOrder) (o : Office) : Except Setback Fields → Office → Prop
  | entered {document : Fields} {after : Office} (enters : WouldEnter order o)
      (entered : Entered order o after) : Enters order o (.ok document) after
  | refused {setback : Setback} {after : Office}
      (refuses : ¬Task.Readable .customers order.customerId o ∨ ¬(o.processor .orders).Accepts)
      (processors : after.processors = o.processors) : Enters order o (.error setback) after
  | halved {setback : Setback} {after : Office} (halves : WouldHalve order o)
      (halved : Halved order o after) : Enters order o (.error setback) after

/-- Every call ends in one of the three ways, since the customers are asked last: what they refuse
comes after the order has been accepted. -/
theorem enters_of_create (order : Form.NewOrder) (o : Office) :
    Enters order o (Task.perform (create order) o).1 (Task.perform (create order) o).2 := by
  generalize ran : Task.perform (create order) o = outcome
  obtain ⟨result, after⟩ := outcome
  unfold create at ran
  cases result with
  | ok document =>
      simp only [Task.perform_bind_eq_ok_iff, Task.perform_demand_eq_ok_iff,
        Task.perform_now_eq_ok_iff, Task.perform_drawId_eq_ok_iff,
        Task.perform_pure_eq_ok_iff] at ran
      obtain ⟨fields, _, ⟨row, found, read, rfl⟩, _, _, ⟨rfl, rfl⟩, _, _, ⟨rfl, rfl⟩, _, middle,
        ordersRan, _, _, customersRan, rfl, rfl⟩ := ran
      rw [textField_id_of_readRow read, Store.Table.row?_id found] at ordersRan customersRan
      have first := Task.queuesOne_of_queueWrite ordersRan
      have second := Task.queuesOne_of_queueWrite customersRan
      have ordersAccept := Task.accepts_of_queueWrite ordersRan
      have customersAccept := Task.accepts_of_queueWrite customersRan
      rw [first.others _ (by decide)] at customersAccept
      refine .entered ⟨⟨row, fields, found, read⟩, ordersAccept, customersAccept⟩ ⟨?_, ?_, ?_⟩
      · exact first.queues.congr rfl (second.others _ (by decide))
      · exact second.queues.congr (first.others _ (by decide)).symm rfl
      · intro c notOrders notCustomers
        rw [second.others c notCustomers, first.others c notOrders]
        rfl
  | error setback =>
      simp only [Task.perform_bind_eq_error_iff, Task.perform_demand_eq_ok_iff,
        Task.perform_now_eq_ok_iff, Task.perform_drawId_eq_ok_iff, Task.perform_now_ne_error,
        Task.perform_drawId_ne_error,
        Task.perform_pure_ne_error, false_or, and_false, exists_false, or_false] at ran
      rcases ran with missing | ⟨fields, _, ⟨row, found, read, rfl⟩, _, o, ⟨rfl, rfl⟩, _, _,
        ⟨rfl, rfl⟩, rest⟩
      · obtain ⟨unreadable, rfl⟩ := Task.perform_demand_eq_error missing
        exact .refused (.inl unreadable) rfl
      · rcases rest with ordersRan | ⟨_, middle, ordersRan, customersRan⟩
        · obtain ⟨refuses, rfl⟩ := Task.refuses_of_queueWrite ordersRan
          exact .refused (.inr refuses) rfl
        · have first := Task.queuesOne_of_queueWrite ordersRan
          have accepts := Task.accepts_of_queueWrite ordersRan
          obtain ⟨refuses, rfl⟩ := Task.refuses_of_queueWrite customersRan
          rw [first.others _ (by decide)] at refuses
          rw [textField_id_of_readRow read, Store.Table.row?_id found] at first
          refine .halved ⟨⟨row, fields, found, read⟩, accepts, refuses⟩ ⟨?_, ?_⟩
          · exact first.queues.congr rfl rfl
          · exact first.others

/-- A call for a new order returns exactly if its customer is stored and both processors take a
write, and then exactly its two writes have been accepted. When it fails, nothing has been accepted,
unless the customer is stored, the orders take a write and the customers do not: then the order
alone has been accepted. -/
theorem create_enters_whole_or_halved (order : Form.NewOrder) (o : Office) :
    ((∃ document after, Task.perform (create order) o = (.ok document, after)) ↔
      WouldEnter order o) ∧
      (∀ document after, Task.perform (create order) o = (.ok document, after) →
        Entered order o after) ∧
      ∀ setback after, Task.perform (create order) o = (.error setback, after) →
        (¬WouldHalve order o → after.processors = o.processors) ∧
        (WouldHalve order o → Halved order o after) := by
  have enters := enters_of_create order o
  generalize Task.perform (create order) o = outcome at enters
  obtain ⟨result, after⟩ := outcome
  cases enters with
  | entered enters entered =>
      refine ⟨iff_of_true ⟨_, _, rfl⟩ enters, ?_, ?_⟩
      · rintro _ _ ⟨⟩
        exact entered
      · rintro _ _ ⟨⟩
  | refused refuses processors =>
      have notEnters : ¬WouldEnter order o := fun enters =>
        refuses.elim (· enters.customer) (· enters.orders)
      have notHalves : ¬WouldHalve order o := fun halves =>
        refuses.elim (· halves.customer) (· halves.orders)
      refine ⟨iff_of_false (by simp) notEnters, ?_, ?_⟩
      · rintro _ _ ⟨⟩
      · rintro _ _ ⟨⟩
        exact ⟨fun _ => processors, fun halves => absurd halves notHalves⟩
  | halved halves halved =>
      have notEnters : ¬WouldEnter order o := fun enters => halves.customers enters.customers
      refine ⟨iff_of_false (by simp) notEnters, ?_, ?_⟩
      · rintro _ _ ⟨⟩
      · rintro _ _ ⟨⟩
        exact ⟨fun whole => absurd halves whole, fun _ => halved⟩

/-! ## A queue without room -/

/-- A stored customer. -/
def patron : Store.Row where
  id := "ada"
  cells :=
    [("name", some (.text "Ada")), ("email", some (.text "ada@example.com")), ("phone", none),
      ("total_spend", some (.float 10.0)), ("visits", some (.int 2)),
    ("last_active", some (.time (.midnight ⟨2026, 1, 1⟩))),
    ("created_at", some (.time (.midnight ⟨2026, 1, 1⟩))),
    ("updated_at", some (.time (.midnight ⟨2026, 1, 1⟩)))]
  stamped := []

/-- An office with one customer, where one write may wait for each table. -/
def counter : Office :=
  let config := (Writes.Config.make? 10 500 (some 1) 3 none).toOption.getD .standard
  let opened := Office.opened (.midnight ⟨2026, 1, 2⟩) config (.fresh "" false [])
  { opened with tables := opened.tables.set .customers ⟨Store.customerSchema, [patron]⟩ }

/-- The office with a visit of the customer waiting. -/
def busyCounter : Office :=
  (Task.perform (Task.queueWrite .customers "ada" (activity counter.clock 1.0)) counter).2

/-- An order of the customer. -/
def purchase : Form.NewOrder := ⟨"ada", 5.0, [], "pending"⟩

theorem busyCounter_wouldHalve : WouldHalve purchase busyCounter where
  customer := ⟨patron, _, rfl, rfl⟩
  orders := ⟨rfl, rfl⟩
  customers accepts := by cases accepts.hasRoom

theorem busyCounter_halves : ∃ setback after,
    Task.perform (create purchase) busyCounter = (.error setback, after) ∧
    Halved purchase busyCounter after := by
  obtain ⟨-, -, failed⟩ := create_enters_whole_or_halved purchase busyCounter
  exact ⟨_, _, rfl, (failed _ _ rfl).2 busyCounter_wouldHalve⟩

/-- A call for an order fails, and the order has been accepted without its activity. -/
theorem purchase_halved :
    ∃ setback after, Task.perform (create purchase) busyCounter = (.error setback, after) ∧
    after.processor .customers = busyCounter.processor .customers ∧
    busyCounter.Queues .orders [orderChange purchase busyCounter] after :=
  ⟨_, _, rfl, rfl, rfl, rfl⟩

end Outreach.Orders
