import Mathlib.Data.List.Forall2
import Outreach.Orders
import Outreach.Proofs.Store.Deliveries
import Outreach.Proofs.Store.Statements

/-!
# Orders in their table

The write of a new order creates one row, with the customer and the amount of the order, because its
identifier is new. So a table that takes such writes has its old rows and behind them one row for
each order that it has accepted.
-/

namespace Outreach.Orders

open Store

/-- An order that was taken, with the identifier and the time that it was given. -/
structure Sale where
  id : String
  order : Form.NewOrder
  time : DateTime

namespace Sale

/-- The write that a new order queues for itself. -/
def queued (sale : Sale) : String × Writes.Patch :=
  (sale.id, .ofFields (newDocument sale.id sale.time sale.order.customerId sale.order))

/-- The row is that of the order. -/
structure Records (sale : Sale) (row : Row) : Prop where
  id_eq : row.id = sale.id
  customer : row.cell "customer_id" = some (.text sale.order.customerId)
  amount : row.cell "amount" = cellOfFloat sale.order.amount
  present : row.cell "amount" ≠ none

/-- Orders that queue the same write are recorded alike. -/
theorem Records.of_queued_eq {sale other : Sale} {row : Row} (records : sale.Records row)
    (same : sale.queued = other.queued) : other.Records row := by
  simp only [queued, newDocument, Writes.Patch.ofFields, Prod.mk.injEq, Writes.Patch.mk.injEq,
    List.cons.injEq, Value.text.injEq, Value.float.injEq, true_and] at same
  obtain ⟨sameId, ⟨-, sameCustomer, sameAmount, -⟩, -⟩ := same
  refine ⟨records.id_eq.trans sameId, ?_, ?_, records.present⟩
  · rw [records.customer, sameCustomer]
  · rw [records.amount, sameAmount]

/-- The fields of a new order, each under its name. -/
theorem get?_document (sale : Sale) {values : Fields}
    (applied : sale.queued.2.applyTo none = .ok values) :
    Keyed.get? "customer_id" values = some (.text sale.order.customerId) ∧
      Keyed.get? "amount" values = some (.float sale.order.amount) := by
  have distinct : ((newDocument sale.id sale.time sale.order.customerId sale.order).map
      Prod.fst).Nodup := by
    simp [newDocument]
  have valuesEq : Keyed.putAll []
      (newDocument sale.id sale.time sale.order.customerId sale.order) = values :=
    Except.ok.inj applied
  rw [← valuesEq, Keyed.get?_putAll distinct, Keyed.get?_putAll distinct]
  exact ⟨rfl, rfl⟩

/-- The row that the write of an order creates is that of the order. -/
theorem records_of_inserts {sale : Sale} {clock : Clock} {t : Table} {row : Row} {values : Fields}
    (schema : t.schema = orderSchema) (applied : sale.queued.2.applyTo none = .ok values)
    (inserts : t.Inserts clock sale.id
      (Keyed.restrict (t.schema.columns.map Column.name) values) row) : sale.Records row := by
  obtain ⟨customerGiven, amountGiven⟩ := sale.get?_document applied
  have customerMem : textColumn "customer_id" ∈ t.schema.columns := by simp [schema, orderSchema]
  have amountMem : (⟨"amount", .real, false, .nothing⟩ : Column) ∈ t.schema.columns := by
    simp [schema, orderSchema]
  have given {column : Column} (columnMem : column ∈ t.schema.columns) :
      Keyed.get? column.name (Keyed.restrict (t.schema.columns.map Column.name) values) =
        Keyed.get? column.name values :=
    Keyed.get?_restrict (List.mem_map_of_mem columnMem) values
  have customer := inserts.written _ customerMem (.text sale.order.customerId) (by
    rw [initialValue, given customerMem]
    simp [textColumn, customerGiven, Value.isNull])
  have amount := inserts.written _ amountMem (.float sale.order.amount) (by
    rw [initialValue, given amountMem]
    simp [amountGiven, Value.isNull])
  exact ⟨inserts.id_eq, customer.of_text rfl, amount.of_float rfl,
    inserts.required _ amountMem rfl⟩

end Sale

theorem map_id_of_records {sold : List Sale} {added : List Row}
    (records : List.Forall₂ Sale.Records sold added) : added.map Row.id = sold.map Sale.id := by
  induction records with
  | nil => rfl
  | cons first _ ih => rw [List.map_cons, List.map_cons, first.id_eq, ih]

theorem exists_recorded {sold : List Sale} {added : List Row}
    (records : List.Forall₂ Sale.Records sold added) {sale : Sale} (saleMem : sale ∈ sold) :
    ∃ row ∈ added, sale.Records row := by
  induction records with
  | nil => cases saleMem
  | @cons first row sold added firstRecords _ ih =>
      rcases List.mem_cons.mp saleMem with rfl | later
      · exact ⟨row, List.mem_cons_self, firstRecords⟩
      · obtain ⟨other, otherMem, otherRecords⟩ := ih later
        exact ⟨other, List.mem_cons_of_mem row otherMem, otherRecords⟩

/-- The table has the rows of another one, and then one row for each of some orders. -/
structure Ledger (before : Table) (sold : List Sale) (t : Table) : Prop where
  schema : t.schema = orderSchema
  rows : ∃ added, t.rows = before.rows ++ added ∧ List.Forall₂ Sale.Records sold added

namespace Ledger

variable {before t : Table} {sold : List Sale}

theorem row?_eq_none (ledger : Ledger before sold t) {id : String} (missing : before.row? id = none)
    (other : id ∉ sold.map Sale.id) : t.row? id = none := by
  obtain ⟨added, rowsEq, records⟩ := ledger.rows
  rw [Table.row?, rowsEq, List.find?_append, show before.rows.find? _ = none from missing,
    Option.none_or, List.find?_eq_none]
  intro row rowMem
  rw [← map_id_of_records records] at other
  intro found
  have same : row.id = id := by simpa using found
  exact other (same ▸ List.mem_map_of_mem rowMem)

/-- The row of a new order goes to the end. -/
theorem insert (ledger : Ledger before sold t) {sale : Sale} {row : Row}
    (records : sale.Records row) :
    Ledger before (sold ++ [sale]) { t with rows := t.rows ++ [row] } := by
  obtain ⟨added, rowsEq, recordsBefore⟩ := ledger.rows
  refine ⟨ledger.schema, added ++ [row], by rw [rowsEq, List.append_assoc], ?_⟩
  exact List.rel_append recordsBefore (.cons records .nil)

/-- An accepted write of a new order creates its row. -/
theorem apply {s next : Session} {clock : Clock} {w : Writes.Write} {sale : Sale}
    (ledger : Ledger before sold s.table) (queued : w.change = sale.queued)
    (missing : s.table.row? w.id = none) (applied : s.apply clock w = .ok next) :
    Ledger before (sold ++ [sale]) next.table := by
  have idEq : w.id = sale.id := congrArg Prod.fst queued
  have patchEq : w.patch = sale.queued.2 := congrArg Prod.snd queued
  generalize next.table = after, (Session.applies_of_apply applied).1 = applies
  cases applies with
  | creates _ _ valuesEq inserted =>
    have distinct : (s.table.schema.columns.map Column.name).Nodup := by
      rw [ledger.schema]
      decide
    obtain ⟨row, inserts, rfl⟩ := Table.inserts_of_insert distinct inserted
    rw [patchEq] at valuesEq
    rw [idEq] at inserts
    exact ledger.insert (Sale.records_of_inserts ledger.schema valuesEq inserts)
  | updates found _ _ _ | keeps found _ _ _ =>
    rw [missing] at found
    cases found

/-- A table that takes a batch of new orders has one more row for each order that it accepts. -/
theorem takesAll {clock : Clock} {marked : List (Writes.Write × Bool)} {final : Session}
    (ledger : Ledger before sold t) (takes : (Session.start t).TakesAll clock marked final)
    (orders : ∀ verdict ∈ marked, ∃ sale : Sale, verdict.1.change = sale.queued)
    (fresh : ∀ verdict ∈ marked, before.row? verdict.1.id = none)
    (distinct : (sold.map Sale.id ++ marked.map (·.1.id)).Nodup) :
    ∃ more, (acceptedOf marked).map Writes.Write.change = more.map Sale.queued ∧
      Ledger before (sold ++ more) final.table := by
  induction takes with
  | start => exact ⟨[], rfl, by simpa [Session.start] using ledger⟩
  | @last marked middle next w accepted earlier taken ih =>
      rw [List.map_append, ← List.append_assoc] at distinct
      obtain ⟨distinctBefore, -, apart⟩ := List.nodup_append.mp distinct
      obtain ⟨more, changes, ledgerBefore⟩ := ih
        (fun verdict verdictMem => orders verdict (List.mem_append_left _ verdictMem))
        (fun verdict verdictMem => fresh verdict (List.mem_append_left _ verdictMem)) distinctBefore
      cases taken with
      | accepts admitted applied =>
          obtain ⟨sale, queued⟩ := orders (w, true) (by simp)
          have ids : more.map Sale.id = (acceptedOf marked).map Writes.Write.id := by
            have named := congrArg (List.map Prod.fst) changes
            simpa [Function.comp_def, Writes.Write.change, Sale.queued] using named.symm
          have new : w.id ∉ (sold ++ more).map Sale.id := by
            rw [List.map_append, ids]
            intro known
            refine apart w.id ?_ w.id (by simp) rfl
            rcases List.mem_append.mp known with old | recent
            · exact List.mem_append_left _ old
            · apply List.mem_append_right
              obtain ⟨v, vMem, sameId⟩ := List.mem_map.mp recent
              obtain ⟨verdict, verdictMem, rfl⟩ := List.mem_map.mp vMem
              exact List.mem_map.mpr ⟨verdict, (List.mem_filter.mp verdictMem).1, sameId⟩
          have missing := ledgerBefore.row?_eq_none (fresh (w, true) (by simp)) new
          refine ⟨more ++ [sale], ?_, ?_⟩
          · rw [acceptedOf_concat_true, List.map_append, List.map_append, changes]
            simp [queued]
          · rw [← List.append_assoc]
            exact ledgerBefore.apply queued missing applied
      | skips _ =>
          rw [acceptedOf_concat_false]
          exact ⟨more, changes, ledgerBefore⟩
      | refuses _ _ =>
          rw [acceptedOf_concat_false]
          exact ⟨more, changes, ledgerBefore⟩

end Ledger

/-! ## The table behind its coalescer -/

/-- A coalescer and its table in a run that has queued nothing but new orders: those that were
delivered are in the table. -/
structure Booked (before : Table) (sold : List Sale) (s : Writes.Coalescer) (t : Table) : Prop where
  regular : Regular s
  queued : s.processor.accepted.map Writes.Write.change = sold.map Sale.queued
  delivered : ∃ recorded, s.processor.deliveries.map Writes.Write.change =
    recorded.map Sale.queued ∧
    Ledger before recorded t

namespace Booked

variable {before t t' : Table} {sold : List Sale} {s s' : Writes.Coalescer}

theorem idle (name : String) (config : Writes.Config) (schema : t.schema = orderSchema) :
    Booked t [] (.idle name config) t :=
  ⟨idle_regular name config, rfl, [], rfl, schema, [], by simp, .nil⟩

/-- A new order is queued. -/
theorem enqueue (booked : Booked before sold s t) (sale : Sale) {now : Nat} {p : Writes.Processor}
    (queued : s.processor.enqueue now sale.id sale.queued.2 = .ok p) :
    Booked before (sold ++ [sale]) { s with processor := p } t := by
  obtain ⟨regular, deliveriesEq, acceptedEq⟩ := booked.regular.enqueue queued
  obtain ⟨recorded, deliveries, ledger⟩ := booked.delivered
  refine ⟨regular, ?_, recorded, deliveriesEq ▸ deliveries, ledger⟩
  rw [acceptedEq, booked.queued, List.map_append]
  rfl

/-- The table takes the writes of new orders. -/
theorem tableStep (booked : Booked before sold s t) (step : TableStep s t s' t')
    (fresh : ∀ sale ∈ sold, before.row? sale.id = none) (distinct : (sold.map Sale.id).Nodup) :
    Booked before sold s' t' := by
  obtain ⟨regular, delivers, acceptedEq⟩ := step.delivers booked.regular
  obtain ⟨recorded, deliveries, ledger⟩ := booked.delivered
  refine ⟨regular, acceptedEq.trans booked.queued, ?_⟩
  cases delivers with
  | nothing same =>
      rw [same]
      exact ⟨recorded, deliveries, ledger⟩
  | @batch clock marked final markedEq takesAll deliveriesEq =>
      have soldOf : ∀ verdict ∈ marked, ∃ sale ∈ sold, verdict.1.change = sale.queued := by
        intro verdict verdictMem
        have flying : verdict.1 ∈ s.processor.flight := by
          rw [← markedEq]
          exact List.mem_map_of_mem verdictMem
        have accepted := booked.regular.accounted.change_mem_of_flight flying
        rw [booked.queued] at accepted
        obtain ⟨sale, saleMem, same⟩ := List.mem_map.mp accepted
        exact ⟨sale, saleMem, same.symm⟩
      have idsDistinct : (recorded.map Sale.id ++ marked.map (·.1.id)).Nodup := by
        have acceptedIds : s.processor.accepted.map Writes.Write.id = sold.map Sale.id := by
          simpa [Function.comp_def, Writes.Write.change, Sale.queued] using
            congrArg (List.map Prod.fst) booked.queued
        have recordedIds : s.processor.deliveries.map Writes.Write.id = recorded.map Sale.id := by
          simpa [Function.comp_def, Writes.Write.change, Sale.queued] using
            congrArg (List.map Prod.fst) deliveries
        have ids := booked.regular.ids_nodup (acceptedIds ▸ distinct)
        rwa [recordedIds, ← markedEq, List.map_map] at ids
      obtain ⟨more, changes, ledgerAfter⟩ := ledger.takesAll takesAll
        (fun verdict verdictMem => by
          obtain ⟨sale, -, same⟩ := soldOf verdict verdictMem
          exact ⟨sale, same⟩)
        (fun verdict verdictMem => by
          obtain ⟨sale, saleMem, same⟩ := soldOf verdict verdictMem
          rw [show verdict.1.id = sale.id from congrArg Prod.fst same]
          exact fresh sale saleMem) idsDistinct
      refine ⟨recorded ++ more, ?_, ledgerAfter⟩
      rw [deliveriesEq, List.map_append, deliveries, changes, List.map_append]

/-- Once the coalescer is drained, the table has a new row for each order and no other ones. -/
theorem drained (booked : Booked before sold s t) (drained : Drained s.processor) :
    ∃ added, t.rows = before.rows ++ added ∧ (added.map Row.id).Perm (sold.map Sale.id) ∧
      ∀ sale ∈ sold, ∃ row ∈ added, sale.Records row := by
  obtain ⟨recorded, deliveries, ledger⟩ := booked.delivered
  obtain ⟨added, rowsEq, records⟩ := ledger.rows
  have changes := booked.regular.deliveries_perm drained
  rw [deliveries, booked.queued] at changes
  refine ⟨added, rowsEq, ?_, ?_⟩
  · rw [map_id_of_records records]
    simpa [Function.comp_def, Sale.queued] using changes.map Prod.fst
  · intro sale saleMem
    obtain ⟨other, otherMem, same⟩ :=
      List.mem_map.mp (changes.symm.subset (List.mem_map_of_mem saleMem))
    obtain ⟨row, rowMem, recordsOther⟩ := exists_recorded records otherMem
    exact ⟨row, rowMem, recordsOther.of_queued_eq same⟩

end Booked

end Outreach.Orders
