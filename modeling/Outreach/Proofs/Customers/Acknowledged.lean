import Outreach.Proofs.Customers.Roll
import Outreach.Proofs.Office.Station
import Outreach.Proofs.Store.Steady

/-!
# Acknowledged customers

A new customer is acknowledged when the write is queued, and the address is compared with those in
the table only. So two customers can be acknowledged with one address while the first of them waits,
and the table refuses the second one. Which customers are stored in the end depends on the order of
the calls alone, and not on the batches or on the times of flushes.
-/

namespace Outreach.Customers

open Store

/-! ## The call -/

theorem textCell?_eq_some_iff {column text : String} {row : Row} :
    row.textCell? column = some text ↔ row.cell column = some (.text text) := by
  unfold Row.textCell?
  split
  · rename_i s cell
    simp [cell]
  · rename_i noText
    simp only [reduceCtorEq, false_iff]
    exact noText text

/-- An address is taken exactly if the table has rows with it. -/
theorem rowsWith_eq_nil_iff {address : String} {t : Table} :
    t.rowsWith "email" address = [] ↔ ¬ HasAddress address t := by
  simp only [Table.rowsWith, List.filter_eq_nil_iff, decide_eq_true_eq, textCell?_eq_some_iff,
    HasAddress, List.mem_map, not_exists, not_and]

/-- The customer as the next call acknowledges it. -/
def signupAt (o : Office) (customer : Form.NewCustomer) : Signup :=
  ⟨Office.identifier (o.drawn + 1), customer, o.clock⟩

/-- What comes of the call for a new customer: it fails if the table has the address or if the queue
takes nothing, and otherwise the customer is queued and acknowledged. -/
inductive Registers (customer : Form.NewCustomer) (o : Office) :
    Except Setback Fields → Office → Prop
  | taken (taken : HasAddress customer.email (o.table .customers)) :
      Registers customer o (.error (.failure (.emailTaken customer.email))) o
  | refused {refusal : Writes.Refusal} (free : ¬ HasAddress customer.email (o.table .customers))
      (refused : (o.processor .customers).enqueue 0 (signupAt o customer).id
        (signupAt o customer).queued.2 = .error refusal) :
      Registers customer o (.error (.failure (.refused refusal))) { o with drawn := o.drawn + 1 }
  | queues {p : Writes.Processor} (free : ¬ HasAddress customer.email (o.table .customers))
      (queued : (o.processor .customers).enqueue 0 (signupAt o customer).id
        (signupAt o customer).queued.2 = .ok p) :
      Registers customer o (.ok (newDocument (signupAt o customer).id o.clock customer)) { o with
        drawn := o.drawn + 1
        processors := o.processors.set .customers p }

theorem registers_of_create (customer : Form.NewCustomer) {o : Office}
    (schema : (o.table .customers).schema = customerSchema) :
    Registers customer o (Task.perform (create customer) o).1
      (Task.perform (create customer) o).2 := by
  rcases exists_readRows_of_plain (schema ▸ customerSchema_plain)
    ((o.table .customers).rowsWith "email" customer.email) with ⟨found, read⟩
  unfold create
  rw [Task.perform_bind, Task.perform_selectFirst, read]
  cases rows : (o.table .customers).rowsWith "email" customer.email with
  | cons row rest =>
      rw [rows] at read
      rcases bind_eq_ok_iff.mp read with ⟨first, -, others⟩
      rcases bind_eq_ok_iff.mp others with ⟨later, -, foundEq⟩
      obtain rfl := Except.ok.inj foundEq
      have taken := mt rowsWith_eq_nil_iff.mpr (by rw [rows]; exact List.cons_ne_nil row rest)
      exact .taken (not_not.mp taken)
  | nil =>
      rw [rows] at read
      obtain rfl := Except.ok.inj read
      have free := rowsWith_eq_nil_iff.mp rows
      simp only [List.head?_nil, Task.perform_bind, Task.perform_drawId, Task.perform_now,
        Task.perform_queueWrite]
      rw [show Office.processor .customers { o with drawn := o.drawn + 1 } =
        o.processor .customers from rfl]
      generalize queued : Writes.Processor.enqueue 0 _ _ (o.processor .customers) = outcome
      cases outcome with
      | error refusal => exact .refused free queued
      | ok p => exact .queues free queued

/-! ## Runs -/

/-- The customer that was acknowledged, if one was. -/
def acknowledged (customer : Form.NewCustomer) (time : DateTime) :
    Except Setback Fields → List Signup
  | .ok document => [⟨textField "id" document, customer, time⟩]
  | .error _ => []

/-- What can be reached by calls for new customers and by their coalescer, over a table that gives
up no batch, with the customers that were acknowledged. -/
inductive Signs (before : Station .customers) : List Signup → Station .customers → Prop
  | opens : Signs before [] before
  | creates {known : List Signup} {station : Station .customers} (run : Signs before known station)
      (customer : Form.NewCustomer) :
      Signs before (known ++ acknowledged customer station.desk.clock
          (Task.perform (create customer) station.desk).1)
        (station.served (Task.perform (create customer) station.desk).2)
  /-- The coalescer works, and the table may take a batch. -/
  | works {known : List Signup} {station : Station .customers} {s : Writes.Coalescer} {t : Table}
      (run : Signs before known station)
      (step : SteadyStep station.coalescer station.table s t) :
      Signs before known (station.worked s t)
  /-- Anything else happens in the office. -/
  | aside {known : List Signup} {station : Station .customers} {o : Office}
      (run : Signs before known station) (table : o.table .customers = station.table)
      (drawn : station.office.drawn ≤ o.drawn) : Signs before known { station with office := o }

/-! ## What holds of a run -/

/-- The customers that were delivered are on the roll that the table keeps, and those that wait will
make it the roll of all who were acknowledged. -/
structure Pending (before : Table) (known : List Signup) (s : Writes.Coalescer) (t : Table) :
    Prop where
  regular : Regular s
  accepted : s.processor.accepted.map Writes.Write.change = known.map Signup.queued
  new : ∀ signup ∈ known, signup.New before
  distinct : (known.map Signup.id).Nodup
  split : ∃ roll line, roll ⊆ known ∧ line ⊆ known ∧ line.foldl enroll roll = rollOf known ∧
    s.processor.deliveries.map Writes.Write.change = roll.map Signup.queued ∧
    s.processor.waiting = line.map Signup.queued ∧ Enrolled before roll t

theorem map_id_of_changes {writes : List Writes.Write} {signups : List Signup}
    (changes : writes.map Writes.Write.change = signups.map Signup.queued) :
    writes.map Writes.Write.id = signups.map Signup.id := by
  rw [← Writes.map_fst_change, changes, List.map_map]
  rfl

namespace Pending

variable {before t t' : Table} {known : List Signup} {s s' : Writes.Coalescer}

theorem idle (name : String) (config : Writes.Config) (schema : t.schema = customerSchema) :
    Pending t [] (.idle name config) t where
  regular := idle_regular name config
  accepted := rfl
  new := nofun
  distinct := List.nodup_nil
  split :=
    ⟨[], [], List.Subset.refl _, List.Subset.refl _, rfl, rfl, rfl, schema, [], by simp, .nil⟩

theorem schema (pending : Pending before known s t) : t.schema = customerSchema := by
  rcases pending.split with ⟨_, _, -, -, -, -, -, enrolled⟩
  exact enrolled.schema

/-- Nobody who waits in the batch in flight is delivered, and they are all different. -/
theorem ids_nodup (pending : Pending before known s t) {roll arriving : List Signup}
    (delivered : s.processor.deliveries.map Writes.Write.change = roll.map Signup.queued)
    (flying : s.processor.flight.map Writes.Write.change = arriving.map Signup.queued) :
    (roll.map Signup.id ++ arriving.map Signup.id).Nodup := by
  have ids := pending.regular.ids_nodup (map_id_of_changes pending.accepted ▸ pending.distinct)
  rwa [map_id_of_changes delivered, map_id_of_changes flying] at ids

/-- A customer whose address the table does not have is acknowledged, under a new identifier. -/
theorem enqueue (pending : Pending before known s t) {signup : Signup} {p : Writes.Processor}
    (queued : s.processor.enqueue 0 signup.id signup.queued.2 = .ok p)
    (missing : before.row? signup.id = none) (other : signup.id ∉ known.map Signup.id)
    (free : ¬ HasAddress signup.customer.email t) :
    Pending before (known ++ [signup]) { s with processor := p } t := by
  rcases pending.regular.enqueue queued with ⟨regular, deliveriesEq, acceptedEq⟩
  rcases pending.split with ⟨roll, line, rollKnown, lineKnown, rollEq, delivered,
    waitingEq, enrolled⟩
  constructor
  · exact regular
  · rw [acceptedEq, pending.accepted, List.map_append]
    rfl
  · intro next nextMem
    rcases List.mem_append.mp nextMem with earlier | last
    · exact pending.new next earlier
    · rw [List.mem_singleton.mp last]
      exact ⟨missing, mt enrolled.hasAddress_of_before free⟩
  · rw [List.map_append]
    exact pending.distinct.append (List.nodup_singleton _) (by simpa using other)
  · refine ⟨roll, line ++ [signup], ?_, ?_, ?_, ?_, ?_, enrolled⟩
    · exact List.subset_append_of_subset_left _ rollKnown
    · exact List.append_subset.mpr ⟨List.subset_append_of_subset_left _ lineKnown,
        List.subset_append_right _ _⟩
    · rw [List.foldl_append, rollEq, rollOf_concat]
      rfl
    · rw [deliveriesEq]
      exact delivered
    · rw [Writes.Processor.enqueue_waiting queued, waitingEq, List.map_append]
      rfl

theorem advance (pending : Pending before known s t) (step : SteadyStep s t s' t') :
    Pending before known s' t' := by
  rcases step.tableStep.delivers pending.regular with ⟨regular, -, acceptedEq⟩
  refine ⟨regular, acceptedEq.trans pending.accepted, pending.new, pending.distinct, ?_⟩
  rcases pending.split with ⟨roll, line, rollKnown, lineKnown, rollEq, delivered,
    waitingEq, enrolled⟩
  cases step.advances pending.regular with
  | waits sameWaiting sameDeliveries =>
      refine ⟨roll, line, rollKnown, lineKnown, rollEq, ?_, ?_, enrolled⟩
      · rw [sameDeliveries]
        exact delivered
      · rw [sameWaiting]
        exact waitingEq
  | @batch clock marked final back markedEq takesAll deliveriesEq comesBack backEq =>
      unfold Writes.Processor.waiting at waitingEq
      rw [List.map_append] at waitingEq backEq
      rcases List.map_eq_append_iff.mp waitingEq.symm with ⟨arriving, rest, rfl, flying, queueing⟩
      rcases List.append_subset.mp lineKnown with ⟨arrivingKnown, restKnown⟩
      have changes : marked.map (·.1.change) = arriving.map Signup.queued := by
        rw [flying, ← markedEq, List.map_map]
        rfl
      have arrivingNew : ∀ signup ∈ arriving, signup.New before :=
        fun signup signupMem => pending.new signup (arrivingKnown signupMem)
      rcases enrolled.takesAll takesAll changes arrivingNew
        (pending.ids_nodup delivered flying.symm) with ⟨enrolledNow, deliveredNow⟩
      -- Whoever comes back has an address that is on the roll by now.
      have returning := comesBack.map Writes.Write.change
      rw [← flying] at returning
      rcases List.sublist_map_iff.mp returning with ⟨returned, returnedSublist, returnedEq⟩
      have taken : ∀ signup ∈ returned,
          signup.customer.email ∈ (arriving.foldl enroll roll).map (·.customer.email) := by
        intro signup signupMem
        exact address_mem_foldl_enroll.mpr
          (.inr (List.mem_map_of_mem (returnedSublist.subset signupMem)))
      refine ⟨arriving.foldl enroll roll, returned ++ rest, ?_, ?_, ?_, ?_, ?_, enrolledNow⟩
      · exact List.Subset.trans (foldl_enroll_subset arriving roll)
          (List.append_subset.mpr ⟨rollKnown, arrivingKnown⟩)
      · exact List.append_subset.mpr
          ⟨List.Subset.trans returnedSublist.subset arrivingKnown, restKnown⟩
      · rw [List.foldl_append, foldl_enroll_of_taken taken, ← List.foldl_append, rollEq]
      · rw [deliveriesEq, List.map_append, delivered, deliveredNow]
      · rw [backEq, returnedEq, ← queueing, List.map_append]

end Pending

/-- A run from one station to another: identifiers are drawn one after the other, and each
acknowledged customer has one of them. -/
structure Registered (before : Station .customers) (known : List Signup)
    (station : Station .customers) :
    Prop where
  pending : Pending before.table known station.coalescer station.table
  drawn : before.office.drawn ≤ station.office.drawn
  numbered : ∀ signup ∈ known, ∃ number, before.office.drawn < number ∧
    number ≤ station.office.drawn ∧ Office.identifier number = signup.id

namespace Registered

variable {before station : Station .customers} {known : List Signup}

/-- What leaves the customers and their coalescer alone. -/
theorem aside (registered : Registered before known station) {o : Office}
    (table : o.table .customers = station.table) (drawn : station.office.drawn ≤ o.drawn) :
    Registered before known { station with office := o } where
  pending := by
    rw [show Station.table { station with office := o } = station.table from table]
    exact registered.pending
  drawn := registered.drawn.trans drawn
  numbered signup signupMem := by
    rcases registered.numbered signup signupMem with ⟨number, beyond, atMost, idEq⟩
    exact ⟨number, beyond, atMost.trans drawn, idEq⟩

/-- A call that queues nothing. -/
theorem untouched (registered : Registered before known station) {after : Office}
    (processor : after.processor .customers = station.coalescer.processor)
    (table : after.table .customers = station.table) (drawn : station.office.drawn ≤ after.drawn) :
    Registered before known (station.served after) := by
  rw [station.served_of_processor_eq processor]
  exact registered.aside table drawn

theorem works (registered : Registered before known station) {s : Writes.Coalescer} {t : Table}
    (step : SteadyStep station.coalescer station.table s t) :
    Registered before known (station.worked s t) where
  pending := by
    rw [Station.worked_table]
    exact registered.pending.advance step
  drawn := registered.drawn
  numbered := registered.numbered

theorem creates (registered : Registered before known station)
    (fresh : ∀ number, before.office.drawn < number →
      before.table.row? (Office.identifier number) = none)
    {customer : Form.NewCustomer} {result : Except Setback Fields} {after : Office}
    (registers : Registers customer station.desk result after) :
    Registered before (known ++ acknowledged customer station.desk.clock result)
      (station.served after) := by
  cases registers with
  | taken taken =>
      rw [acknowledged, List.append_nil]
      exact registered.untouched station.desk_processor rfl (le_refl _)
  | refused free refused =>
      rw [acknowledged, List.append_nil]
      exact registered.untouched station.desk_processor rfl (Nat.le_succ _)
  | @queues p free queued =>
      rw [Station.desk_processor] at queued
      rw [Station.desk_table] at free
      have beyond : before.office.drawn < station.office.drawn + 1 :=
        Nat.lt_succ_of_le registered.drawn
      have other : (signupAt station.desk customer).id ∉ known.map Signup.id := by
        intro known
        rcases List.mem_map.mp known with ⟨signup, signupMem, sameId⟩
        rcases registered.numbered signup signupMem with ⟨number, -, atMost, idEq⟩
        have same : number = station.office.drawn + 1 :=
          Office.identifier_injective (idEq.trans sameId)
        omega
      have next := registered.pending.enqueue queued (fresh _ beyond) other free
      rw [station.served_of_put_back (p := p) rfl]
      constructor
      · exact next
      · exact Nat.le_of_lt beyond
      · intro signup signupMem
        rcases List.mem_append.mp signupMem with earlier | last
        · rcases registered.numbered signup earlier with ⟨number, later, atMost, idEq⟩
          exact ⟨number, later, Nat.le_succ_of_le atMost, idEq⟩
        · rw [List.mem_singleton.mp last]
          exact ⟨_, beyond, le_refl _, rfl⟩

end Registered

theorem Signs.registered {before station : Station .customers} {known : List Signup}
    (run : Signs before known station) {name : String} {config : Writes.Config}
    (idle : before.coalescer = .idle name config) (schema : before.table.schema = customerSchema)
    (fresh : ∀ number, before.office.drawn < number →
      before.table.row? (Office.identifier number) = none) : Registered before known station := by
  induction run with
  | opens => exact ⟨idle ▸ Pending.idle name config schema, le_refl _, nofun⟩
  | creates run customer ih =>
      exact ih.creates fresh (registers_of_create customer ih.pending.schema)
  | works run step ih => exact ih.works step
  | aside run table drawn ih => exact ih.aside table drawn

/-! ## Who is stored -/

/-- Once nothing waits, exactly those are stored who came first with their address. -/
theorem Pending.isStored_iff {before t : Table} {known : List Signup} {s : Writes.Coalescer}
    (pending : Pending before known s t) (drained : s.processor.waiting = []) {signup : Signup}
    (signupMem : signup ∈ known) : signup.IsStored t ↔ signup ∈ rollOf known := by
  rcases pending.split with ⟨roll, line, rollKnown, -, rollEq, -, waitingEq, enrolled⟩
  obtain rfl : line = [] := List.map_eq_nil_iff.mp (waitingEq.symm.trans drained)
  rw [← rollEq, List.foldl_nil]
  apply enrolled.isStored_iff (pending.new signup signupMem).id
  intro other otherMem sameId
  exact List.inj_on_of_nodup_map pending.distinct (rollKnown otherMem) signupMem sameId

/-- A call for a new customer fails if the table has the address already or the queue takes nothing,
and otherwise the customer is acknowledged. Once nothing waits, however the writes were batched and
tried again, of the acknowledged customers exactly those are stored who came first with their
address. So all of them are stored exactly if no two were acknowledged with one address. -/
theorem acknowledged_stored_iff_first {before station : Station .customers} {known : List Signup}
    (run : Signs before known station) {name : String} {config : Writes.Config}
    (idle : before.coalescer = .idle name config) (schema : before.table.schema = customerSchema)
    (fresh : ∀ number, before.office.drawn < number →
      before.table.row? (Office.identifier number) = none) :
    (∀ customer, Registers customer station.desk (Task.perform (create customer) station.desk).1
      (Task.perform (create customer) station.desk).2) ∧
    (station.coalescer.processor.waiting = [] →
      (∀ signup ∈ known, signup.IsStored station.table ↔ ∃ earlier later,
        known = earlier ++ signup :: later ∧
          signup.customer.email ∉ earlier.map (·.customer.email)) ∧
      ((∀ signup ∈ known, signup.IsStored station.table) ↔
        (known.map (·.customer.email)).Nodup)) := by
  have pending := (run.registered idle schema fresh).pending
  refine ⟨fun customer => registers_of_create customer pending.schema, fun drained => ?_⟩
  have stored : ∀ signup ∈ known, signup.IsStored station.table ↔ signup ∈ rollOf known :=
    fun signup signupMem => pending.isStored_iff drained signupMem
  constructor
  · intro signup signupMem
    rw [stored signup signupMem, mem_rollOf_iff]
  · rw [← subset_rollOf_iff (List.Nodup.of_map Signup.id pending.distinct)]
    exact forall₂_congr stored

/-- An office without customers. -/
def quietStation : Station .customers where
  office :=
    .opened ⟨⟨2026, 1, 2⟩, 9, 0, 0, 0, some 0⟩ Writes.Coalescer.smallBatches (.fresh "" false [])
  coalescer := .idle "customers" Writes.Coalescer.smallBatches

/-- Two customers with one address. -/
def sameAddress : List Signup :=
  [⟨Office.identifier 1, ⟨"Ada", "ada@example.com", none⟩, quietStation.desk.clock⟩,
    ⟨Office.identifier 2, ⟨"Eve", "ada@example.com", none⟩, quietStation.desk.clock⟩]

/-- The office after a call for a new customer. -/
def signUp (name : String) (station : Station .customers) : Station .customers :=
  station.served (Task.perform (create ⟨name, "ada@example.com", none⟩) station.desk).2

/-- A flush is in flight. -/
def flying (station : Station .customers) : Writes.Coalescer :=
  station.coalescer.step (.start 0 .flush)

/-- The office after a flush. -/
def flushed (station : Station .customers) : Station .customers :=
  let (answer, t) := Table.sink station.office.clock (flying station).processor.flight station.table
  station.worked ((flying station).step (.finish 1 answer .working)) t

theorem Signs.flush {before station : Station .customers} {known : List Signup}
    (run : Signs before known station) (taken : (flying station).processor.flight ≠ [])
    (returns : (station.table.upsert station.office.clock
      (flying station).processor.flight).2.isOk = true) : Signs before known (flushed station) :=
  (run.works (.work (.start 0 .flush) not_false not_false)).works
    (.sink 1 station.office.clock .working taken returns)

/-- The office after both calls. -/
def queuedStation : Station .customers := signUp "Eve" (signUp "Ada" quietStation)

/-- The office after two flushes: the second customer was refused twice. -/
def drainedStation : Station .customers := flushed (flushed queuedStation)

theorem drainedStation_signs : Signs quietStation sameAddress drainedStation := by
  have first : Signs quietStation (sameAddress.take 1) (signUp "Ada" quietStation) :=
    Signs.opens.creates ⟨"Ada", "ada@example.com", none⟩
  have second : Signs quietStation sameAddress queuedStation :=
    first.creates ⟨"Eve", "ada@example.com", none⟩
  exact (second.flush (by decide +kernel) (by decide +kernel)).flush (by decide +kernel)
    (by decide +kernel)

theorem drainedStation_stores_first :
    (∃ signup ∈ sameAddress, signup.IsStored drainedStation.table) ∧
      ¬ ∀ signup ∈ sameAddress, signup.IsStored drainedStation.table := by
  have settled := (acknowledged_stored_iff_first drainedStation_signs rfl rfl fun _ _ => rfl).2
    (by decide +kernel)
  constructor
  · exact ⟨_, List.mem_cons_self, (settled.1 _ List.mem_cons_self).mpr ⟨[], _, rfl,
      List.not_mem_nil⟩⟩
  · rw [settled.2]
    decide

/-- Two customers were acknowledged with one address, nothing waits any more, and the
second one has no row. -/
theorem drainedStation_lacks_second :
    Signs quietStation sameAddress drainedStation ∧
    drainedStation.coalescer.processor.waiting = [] ∧
    sameAddress.map (·.customer.email) = ["ada@example.com", "ada@example.com"] ∧
    drainedStation.table.row? (Office.identifier 2) = none :=
  ⟨drainedStation_signs, by decide +kernel, rfl, Option.isNone_iff_eq_none.mp (by decide +kernel)⟩

end Outreach.Customers
