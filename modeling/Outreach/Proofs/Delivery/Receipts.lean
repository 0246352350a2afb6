import Outreach.Delivery.Logs
import Outreach.Proofs.Delivery.Run
import Outreach.Proofs.Office.Station
import Outreach.Proofs.Store.Arrivals

/-!
# Receipts for messages on their way

A message is posted under the identifier of its log in the same step that queues the log, but a
receipt looks for the log in the table. So until a write of the log has been delivered, a receipt
for a message that the vendor already has finds nothing; from then on it always finds the log, until
the row is deleted.
-/

namespace Outreach.Delivery

open Store

/-! ## The two tasks -/

/-- The caller is told that something does not exist. -/
def NotFound {α : Type} (result : Except Setback α) : Prop :=
  ∃ why, result = .error (.failure why) ∧ why.kind = .notFound

/-- What a receipt does: it fails, and changes nothing, or it queues a write for
a log that has a row. -/
inductive Records (receipt : Form.Receipt) (o : Office) : Except Setback String → Office → Prop
  | absent (missing : (o.table .logs).row? receipt.logId = none) :
      Records receipt o (.error (.failure (.notFound "Communication log" receipt.logId))) o
  | unreadable {cell : Unreadable} (present : (o.table .logs).row? receipt.logId ≠ none) :
      Records receipt o (.error (.unreadable cell)) o
  | refused {refusal : Writes.Refusal} (present : (o.table .logs).row? receipt.logId ≠ none) :
      Records receipt o (.error (.failure (.refused refusal))) o
  | queues {p : Writes.Processor} (present : (o.table .logs).row? receipt.logId ≠ none)
      (queued : (o.processor .logs).enqueue 0 receipt.logId
        (.ofFields (receiptChange o.clock receipt)) = .ok p) :
      Records receipt o (.ok receipt.logId) { o with processors := o.processors.set .logs p }

theorem records_of_recordReceipt (receipt : Form.Receipt) (o : Office) :
    Records receipt o (Task.perform (recordReceipt receipt) o).1
      (Task.perform (recordReceipt receipt) o).2 := by
  unfold recordReceipt
  rw [Task.perform_bind, Task.perform_demand]
  cases found : (o.table .logs).row? receipt.logId with
  | none => exact .absent found
  | some row =>
      have present : (o.table .logs).row? receipt.logId ≠ none := by simp [found]
      cases read : (o.table .logs).readRow row with
      | error cell =>
          simp only [read]
          exact .unreadable present
      | ok fields =>
          have idEq : textField "id" fields = receipt.logId :=
            (textField_id_of_readRow read).trans (Table.row?_id found)
          simp only [read, Task.perform_bind, Task.perform_now, idEq, Task.perform_queueWrite]
          cases queued : (o.processor .logs).enqueue 0 receipt.logId
              (.ofFields (receiptChange o.clock receipt)) with
          | error refusal => exact .refused present
          | ok p => exact .queues present queued

/-- A receipt is told that there is no log exactly if the log has no row. -/
theorem Records.notFound_iff {receipt : Form.Receipt} {o after : Office}
    {result : Except Setback String} (records : Records receipt o result after) :
    NotFound result ↔ (o.table .logs).row? receipt.logId = none := by
  cases records with
  | absent missing => exact iff_of_true ⟨_, rfl, rfl⟩ missing
  | unreadable present =>
      refine iff_of_false ?_ present
      rintro ⟨why, same, -⟩
      cases same
  | refused present =>
      refine iff_of_false ?_ present
      rintro ⟨why, same, kind⟩
      cases same
      cases kind
  | queues present queued =>
      refine iff_of_false ?_ present
      rintro ⟨why, same, -⟩
      cases same

/-- What it is to write to one customer: an identifier is drawn, and either the run ends there, or
the log is queued under it and the message is posted. -/
inductive WritesTo (campaignId : String) (o : Office) : Except Setback String → Office → Prop
  | ends {setback : Setback} :
      WritesTo campaignId o (.error setback) { o with drawn := o.drawn + 1 }
  | posts (posting : Posting) {p : Writes.Processor}
      (drawn : posting.logId = Office.identifier (o.drawn + 1))
      (queued : (o.processor .logs).enqueue 0 posting.logId
        (logChange o.clock campaignId posting).2 = .ok p) :
      WritesTo campaignId o (.ok posting.logId) { o with
        drawn := o.drawn + 1
        processors := o.processors.set .logs p
        vendor := (o.vendor.send posting).2 }

theorem writesTo_of_deliverOne (campaignId template : String) (customer : Value) (o : Office) :
    WritesTo campaignId o (Task.perform (deliverOne campaignId template customer) o).1
      (Task.perform (deliverOne campaignId template customer) o).2 := by
  rw [deliverOne_eq, Task.perform_bind]
  have logs := logs_of_logOne campaignId template customer o
  generalize Task.perform (logOne campaignId template customer) o = outcome at logs
  obtain ⟨result, middle⟩ := outcome
  cases logs with
  | malformed => exact .ends
  | refused => exact .ends
  | queued _ drawn queued => exact .posts _ drawn queued

/-! ## Runs -/

/-- The log of the message that was posted, if one was. -/
def postedBy : Except Setback String → List String
  | .ok logId => [logId]
  | .error _ => []

/-- What can be reached by writing to customers, by receipts, and by the coalescer of the logs at
any time, with the logs of the messages that were posted, and those that were deleted. -/
inductive Dispatches (before : Station .logs) : List String → List String → Station .logs → Prop
  | opens : Dispatches before [] [] before
  | writes {sent deleted : List String} {station : Station .logs}
      (run : Dispatches before sent deleted station) (campaignId template : String)
      (customer : Value) :
      Dispatches before
        (sent ++ postedBy (Task.perform (deliverOne campaignId template customer) station.desk).1)
        deleted
        (station.served (Task.perform (deliverOne campaignId template customer) station.desk).2)
  | receipt {sent deleted : List String} {station : Station .logs}
      (run : Dispatches before sent deleted station) (receipt : Form.Receipt) :
      Dispatches before sent deleted
        (station.served (Task.perform (recordReceipt receipt) station.desk).2)
  /-- The coalescer works, and the table may take a batch. -/
  | works {sent deleted : List String} {station : Station .logs} {s : Writes.Coalescer} {t : Table}
      (run : Dispatches before sent deleted station)
      (step : TableStep station.coalescer station.table s t) :
      Dispatches before sent deleted (station.worked s t)
  | deletes {sent deleted : List String} {station : Station .logs}
      (run : Dispatches before sent deleted station) (id : String) :
      Dispatches before sent (deleted ++ [id])
        (station.worked station.coalescer (station.table.delete id))
  /-- Anything else happens in the office. -/
  | aside {sent deleted : List String} {station : Station .logs} {o : Office}
      (run : Dispatches before sent deleted station) (table : o.table .logs = station.table)
      (drawn : station.office.drawn ≤ o.drawn) :
      Dispatches before sent deleted { station with office := o }

/-- A whole delivery is a run, also when it ends early: it posts one message after the other. -/
theorem Dispatches.deliverAll {before station : Station .logs} {sent deleted : List String}
    (run : Dispatches before sent deleted station) (campaignId template : String)
    (customers : List Value) : ∃ more,
      Dispatches before (sent ++ more) deleted
        (station.served (Task.perform (deliverAll campaignId template customers) station.desk).2) ∧
      ∀ ids, (Task.perform (deliverAll campaignId template customers) station.desk).1 = .ok ids →
        more = ids := by
  induction customers generalizing sent station with
  | nil =>
      refine ⟨[], ?_, fun ids ended => Except.ok.inj ended⟩
      rw [List.append_nil, show Task.perform (Delivery.deliverAll campaignId template [])
        station.desk = (.ok [], station.desk) from rfl,
        station.served_of_processor_eq station.desk_processor]
      exact run.aside rfl (le_refl _)
  | cons customer rest ih =>
      have first := run.writes campaignId template customer
      unfold Delivery.deliverAll
      rw [Task.perform_bind]
      generalize Task.perform (deliverOne campaignId template customer) station.desk = ran at first
      rcases ran with ⟨_ | logId, middle⟩
      · exact ⟨[], first, fun ids ended => by cases ended⟩
      · rcases ih first with ⟨more, reached, all⟩
        simp only [Station.served_desk, Station.served_served] at reached all
        simp only [Task.perform_bind]
        generalize Task.perform (Delivery.deliverAll campaignId template rest) middle = ran at *
        rcases ran with ⟨_ | ids, after⟩
        · refine ⟨logId :: more, ?_, fun ids ended => by cases ended⟩
          simpa [postedBy] using reached
        · have returned : Task.perform (pure (logId :: ids)) after = (.ok (logId :: ids), after) :=
            rfl
          refine ⟨logId :: more, ?_, fun others ended => ?_⟩
          · simpa [postedBy, returned] using reached
          · rw [all ids rfl]
            exact Except.ok.inj ended

/-! ## Logs and their rows -/

/-- What holds of the logs of a run: the row of a new log is there exactly if a write of
it has been delivered, unless it was deleted, and the log of every message that was posted
is new and was queued. -/
structure Posted (before : Station .logs) (sent deleted : List String) (station : Station .logs) :
    Prop where
  regular : Regular station.coalescer
  drawn : before.office.drawn ≤ station.office.drawn
  arrives : ∀ number, before.office.drawn < number → Office.identifier number ∉ deleted →
    ArrivesDelivered (Office.identifier number) station.coalescer station.table
  isNew : ∀ id ∈ sent, ∃ number, before.office.drawn < number ∧ Office.identifier number = id
  queued : ∀ id ∈ sent, id ∈ station.coalescer.processor.accepted.map Writes.Write.id

namespace Posted

variable {before station : Station .logs} {sent deleted : List String}

/-- A task that queues a write delivers nothing. -/
theorem enqueue (posted : Posted before sent deleted station) {id : String} {patch : Writes.Patch}
    {p : Writes.Processor} (after : Office)
    (queued : station.coalescer.processor.enqueue 0 id patch = .ok p)
    (putBack : after.processors = station.desk.processors.set .logs p)
    (table : after.table .logs = station.table) (drawn : station.office.drawn ≤ after.drawn) :
    Posted before sent deleted (station.served after) ∧
      id ∈ (station.served after).coalescer.processor.accepted.map Writes.Write.id := by
  rcases posted.regular.enqueue queued with ⟨regular, deliveriesEq, acceptedEq⟩
  have idsEq : p.accepted.map Writes.Write.id =
      station.coalescer.processor.accepted.map Writes.Write.id ++ [id] := by
    rw [← Writes.map_fst_change, acceptedEq, List.map_append, Writes.map_fst_change]
    rfl
  rw [station.served_of_put_back putBack]
  refine ⟨⟨regular, posted.drawn.trans drawn, ?_, posted.isNew, ?_⟩, by simp [idsEq]⟩
  · intro number beyond kept
    unfold ArrivesDelivered
    rw [deliveriesEq, show Station.table ⟨after, _⟩ = station.table from table]
    exact posted.arrives number beyond kept
  · intro other otherMem
    rw [idsEq]
    exact List.mem_append_left _ (posted.queued other otherMem)

/-- What leaves the logs alone. -/
theorem aside (posted : Posted before sent deleted station) {o : Office}
    (table : o.table .logs = station.table) (drawn : station.office.drawn ≤ o.drawn) :
    Posted before sent deleted { station with office := o } where
  regular := posted.regular
  drawn := posted.drawn.trans drawn
  arrives := by
    intro number beyond kept
    rw [show Station.table { station with office := o } = station.table from table]
    exact posted.arrives number beyond kept
  isNew := posted.isNew
  queued := posted.queued

/-- A task that leaves the logs alone. -/
theorem untouched (posted : Posted before sent deleted station) {after : Office}
    (processor : after.processor .logs = station.coalescer.processor)
    (table : after.table .logs = station.table) (drawn : station.office.drawn ≤ after.drawn) :
    Posted before sent deleted (station.served after) := by
  rw [station.served_of_processor_eq processor]
  exact posted.aside table drawn

/-- One more message was posted, under a new identifier. -/
theorem post (posted : Posted before sent deleted station) {id : String} {number : Nat}
    (beyond : before.office.drawn < number) (idEq : id = Office.identifier number)
    (queued : id ∈ station.coalescer.processor.accepted.map Writes.Write.id) :
    Posted before (sent ++ [id]) deleted station where
  regular := posted.regular
  drawn := posted.drawn
  arrives := posted.arrives
  isNew := by
    intro other otherMem
    rcases List.mem_append.mp otherMem with earlier | last
    · exact posted.isNew other earlier
    · rw [List.mem_singleton.mp last]
      exact ⟨number, beyond, idEq.symm⟩
  queued := by
    intro other otherMem
    rcases List.mem_append.mp otherMem with earlier | last
    · exact posted.queued other earlier
    · rw [List.mem_singleton.mp last]
      exact queued

theorem writes (posted : Posted before sent deleted station) {campaignId : String}
    {result : Except Setback String} {after : Office}
    (writesTo : WritesTo campaignId station.desk result after) :
    Posted before (sent ++ postedBy result) deleted (station.served after) := by
  cases writesTo with
  | ends =>
      rw [postedBy, List.append_nil]
      exact posted.untouched station.desk_processor rfl (Nat.le_succ _)
  | @posts posting p drawn queued =>
      rw [Station.desk_processor] at queued
      rcases posted.enqueue
        { station.desk with
          drawn := station.desk.drawn + 1
          processors := station.desk.processors.set .logs p
          vendor := (station.desk.vendor.send posting).2 }
        queued rfl rfl (Nat.le_succ _) with ⟨next, accepted⟩
      exact next.post (Nat.lt_succ_of_le posted.drawn) drawn accepted

theorem receipt (posted : Posted before sent deleted station) {receipt : Form.Receipt}
    {result : Except Setback String} {after : Office}
    (records : Records receipt station.desk result after) :
    Posted before sent deleted (station.served after) := by
  cases records with
  | absent | unreadable | refused =>
      exact posted.untouched station.desk_processor rfl (le_refl _)
  | @queues p present queued =>
      rw [Station.desk_processor] at queued
      exact (posted.enqueue { station.desk with processors := station.desk.processors.set .logs p }
        queued rfl rfl (le_refl _)).1

theorem works (posted : Posted before sent deleted station) {s : Writes.Coalescer} {t : Table}
    (step : TableStep station.coalescer station.table s t) :
    Posted before sent deleted (station.worked s t) := by
  rcases step.delivers posted.regular with ⟨regular, -, acceptedEq⟩
  have idsEq : s.processor.accepted.map Writes.Write.id =
      station.coalescer.processor.accepted.map Writes.Write.id := by
    rw [← Writes.map_fst_change, acceptedEq, Writes.map_fst_change]
  refine ⟨regular, posted.drawn, ?_, posted.isNew, ?_⟩
  · intro number beyond kept
    rw [Station.worked_table]
    exact step.arrivesDelivered posted.regular (posted.arrives number beyond kept)
  · intro id idMem
    rw [show (station.worked s t).coalescer = s from rfl, idsEq]
    exact posted.queued id idMem

/-- Deleting a row leaves the rows of all other logs as they are. -/
theorem deletes (posted : Posted before sent deleted station) (id : String) :
    Posted before sent (deleted ++ [id])
      (station.worked station.coalescer (station.table.delete id)) := by
  refine ⟨posted.regular, posted.drawn, ?_, posted.isNew, posted.queued⟩
  intro number beyond kept
  rw [List.mem_append, not_or, List.mem_singleton] at kept
  unfold ArrivesDelivered
  rw [Station.worked_table, Table.row?_delete_of_ne kept.2]
  exact posted.arrives number beyond kept.1

end Posted

theorem Dispatches.posted {before station : Station .logs} {sent deleted : List String}
    (run : Dispatches before sent deleted station) (start : Posted before [] [] before) :
    Posted before sent deleted station := by
  induction run with
  | opens => exact start
  | writes run campaignId template customer ih =>
      exact ih.writes (writesTo_of_deliverOne campaignId template customer _)
  | receipt run receipt ih => exact ih.receipt (records_of_recordReceipt receipt _)
  | works run step ih => exact ih.works step
  | deletes run id ih => exact ih.deletes id
  | aside run table drawn ih => exact ih.aside table drawn

/-- A coalescer that has done nothing has queued no log. -/
theorem Posted.idle {before : Station .logs} {name : String} {config : Writes.Config}
    (idle : before.coalescer = .idle name config)
    (fresh : ∀ number, before.office.drawn < number →
      before.table.row? (Office.identifier number) = none) : Posted before [] [] before where
  regular := idle ▸ idle_regular name config
  drawn := le_refl _
  arrives := fun number beyond _ => idle ▸ idle_arrivesDelivered name config (fresh number beyond)
  isNew := nofun
  queued := nofun

/-- A log of which no write was delivered has one that waits, or was given up. -/
theorem Posted.waits_or_given_up {before station : Station .logs} {sent deleted : List String}
    (posted : Posted before sent deleted station) {id : String} (idMem : id ∈ sent)
    (undelivered : ∀ w ∈ station.coalescer.processor.deliveries, w.id ≠ id) :
    (∃ w ∈ station.coalescer.processor.queue ++ station.coalescer.processor.flight, w.id = id) ∨
      ∃ letter ∈ station.coalescer.processor.deadLetters ++ station.coalescer.processor.lost,
        letter.write.id = id := by
  have places := posted.regular.accounted.changes_perm.map Prod.fst
  rw [List.map_map, List.map_map] at places
  rcases List.mem_map.mp (places.symm.subset (posted.queued id idMem)) with ⟨w, wMem, idEq⟩
  have idEq : w.id = id := idEq
  simp only [Writes.Processor.places, List.mem_append, List.mem_map] at wMem
  rcases wMem with (((queued | flying) | delivered) | ⟨letter, dead, rfl⟩) | ⟨letter, lost, rfl⟩
  · exact .inl ⟨w, List.mem_append_left _ queued, idEq⟩
  · exact .inl ⟨w, List.mem_append_right _ flying, idEq⟩
  · exact absurd idEq (undelivered w delivered)
  · exact .inr ⟨letter, List.mem_append_left _ dead, idEq⟩
  · exact .inr ⟨letter, List.mem_append_right _ lost, idEq⟩

/-- A receipt for a message that was posted is told that there is no log exactly as long as no write
of the log has been delivered: until then the log waits in the queue or in a batch, or was given up,
although the vendor has the message. From the first delivered write on no receipt for it is turned
away, unless the row was deleted. -/
theorem receipt_notFound_iff_undelivered {before station : Station .logs}
    {sent deleted : List String}
    (run : Dispatches before sent deleted station) {name : String} {config : Writes.Config}
    (idle : before.coalescer = .idle name config)
    (fresh : ∀ number, before.office.drawn < number →
      before.table.row? (Office.identifier number) = none)
    (receipt : Form.Receipt) (wasSent : receipt.logId ∈ sent) (kept : receipt.logId ∉ deleted) :
    (NotFound (Task.perform (recordReceipt receipt) station.desk).1 ↔
      ∀ w ∈ station.coalescer.processor.deliveries, w.id ≠ receipt.logId) ∧
    (NotFound (Task.perform (recordReceipt receipt) station.desk).1 →
      (∃ w ∈ station.coalescer.processor.queue ++ station.coalescer.processor.flight,
        w.id = receipt.logId) ∨
      ∃ letter ∈ station.coalescer.processor.deadLetters ++ station.coalescer.processor.lost,
        letter.write.id = receipt.logId) := by
  have posted := run.posted (.idle idle fresh)
  rcases posted.isNew receipt.logId wasSent with ⟨number, beyond, idEq⟩
  have arrives := posted.arrives number beyond (idEq ▸ kept)
  rw [idEq] at arrives
  have found := (records_of_recordReceipt receipt station.desk).notFound_iff
  rw [Station.desk_table] at found
  have exactly := found.trans arrives
  exact ⟨exactly, fun missing => posted.waits_or_given_up wasSent (exactly.mp missing)⟩

/-- An office without rows, with a vendor to post to. -/
def quietStation : Station .logs where
  office := .opened ⟨⟨2026, 1, 2⟩, 9, 0, 0, 0, some 0⟩ Writes.Coalescer.smallBatches
    (.fresh "http://vendor.test/send" true [])
  coalescer := .idle "communication_logs" Writes.Coalescer.smallBatches

/-- The first customer to write to. -/
def firstCustomer : Value := .map [("id", .text "ada"), ("name", .text "Ada")]

/-- The office after one message. -/
def postedStation : Station .logs :=
  quietStation.served
    (Task.perform (deliverOne "launch" "Hello!" firstCustomer) quietStation.desk).2

/-- The log is in flight. -/
def flyingLog : Writes.Coalescer := postedStation.coalescer.step (.start 0 .flush)

/-- The table has taken the log. -/
def loggedStation : Station .logs :=
  let (answer, table) := Table.sink postedStation.office.clock flyingLog.processor.flight
    postedStation.table
  postedStation.worked (flyingLog.step (.finish 1 answer .working)) table

/-- What the vendor says of the message. -/
def firstReceipt : Form.Receipt := ⟨Office.identifier 1, "SENT", none⟩

theorem postedStation_dispatches :
    Dispatches quietStation [Office.identifier 1] [] postedStation :=
  Dispatches.opens.writes "launch" "Hello!" firstCustomer

theorem loggedStation_dispatches :
    Dispatches quietStation [Office.identifier 1] [] loggedStation :=
  (postedStation_dispatches.works (.work (.start 0 .flush) not_false not_false)).works
    (.sink 1 postedStation.office.clock .working (by decide +kernel))

theorem loggedStation_found :
    ¬ NotFound (Task.perform (recordReceipt firstReceipt) loggedStation.desk).1 := by
  have exactly := (receipt_notFound_iff_undelivered loggedStation_dispatches rfl (fun _ _ => rfl)
    firstReceipt (List.mem_singleton_self _) List.not_mem_nil).1
  rw [exactly]
  decide +kernel

/-- The vendor has a message, but a receipt for it is turned away. -/
theorem postedStation_notFound :
    Dispatches quietStation [firstReceipt.logId] [] postedStation ∧
    postedStation.office.vendor.postings = [⟨firstReceipt.logId, "ada", "Hello!"⟩] ∧
    NotFound (Task.perform (recordReceipt firstReceipt) postedStation.desk).1 :=
  ⟨postedStation_dispatches, by decide +kernel, _, rfl, rfl⟩

end Outreach.Delivery
