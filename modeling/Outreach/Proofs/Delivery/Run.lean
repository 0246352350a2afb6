import Outreach.Proofs.Delivery.Messages
import Outreach.Proofs.Office.Setbacks

/-!
# What it is to write to a customer

The vendor takes messages one after the other. To write to a customer is to queue a log
under a new identifier, and then to hand the message of the log to the vendor; it changes
nothing else of the office.
-/

namespace Outreach.Delivery

open Store

/-! ## The vendor -/

namespace Vendor

/-- Sends messages one after the other. -/
def sendAll (postings : List Posting) (v : Vendor) : Vendor :=
  postings.foldl (fun v posting => (v.send posting).2) v

theorem sendAll_concat (postings : List Posting) (posting : Posting) (v : Vendor) :
    v.sendAll (postings ++ [posting]) = ((v.sendAll postings).send posting).2 := by
  rw [sendAll, List.foldl_append]
  rfl

theorem send_postings {v : Vendor} {posting : Posting} {address : Url} (enabled : v.enabled = true)
    (addressEq : v.address = .ok address) :
    (v.send posting).2 = if posting.isUnencodable then v.connect else v.post posting := by
  cases unencodable : posting.isUnencodable <;> simp [send, enabled, addressEq, unencodable]

/-- A vendor that is switched on and has an address gets the messages that have
an encoding, in order. -/
theorem sendAll_postings_filter {v : Vendor} {address : Url} (enabled : v.enabled = true)
    (addressEq : v.address = .ok address) (postings : List Posting) :
    (v.sendAll postings).postings = v.postings ++ postings.filter fun posting =>
    !posting.isUnencodable := by
  induction postings generalizing v with
  | nil => simp [sendAll]
  | cons posting rest ih =>
      rw [sendAll, List.foldl_cons, send_postings enabled addressEq]
      change (sendAll rest _).postings = _
      cases unencodable : posting.isUnencodable with
      | true =>
          rw [if_pos rfl, ih (v := v.connect) enabled addressEq]
          simp [connect, unencodable]
      | false =>
          rw [if_neg (by simp), ih (v := v.post posting) enabled addressEq]
          simp [post, unencodable]

/-- It gets each of them if all have an encoding. -/
theorem sendAll_postings {v : Vendor} {address : Url} (enabled : v.enabled = true)
    (addressEq : v.address = .ok address) {postings : List Posting}
    (encoded : ∀ posting ∈ postings, posting.isUnencodable = false) :
    (v.sendAll postings).postings = v.postings ++ postings := by
  rw [sendAll_postings_filter enabled addressEq, List.filter_eq_self.mpr]
  intro posting postingMem
  rw [encoded posting postingMem, Bool.not_false]

/-- A vendor that is switched off gets nothing. -/
theorem sendAll_of_disabled {v : Vendor} (disabled : v.enabled = false) (postings : List Posting) :
    v.sendAll postings = v := by
  induction postings with
  | nil => rfl
  | cons posting rest ih =>
      rw [sendAll, List.foldl_cons, show (v.send posting).2 = v by simp [send, disabled]]
      exact ih

end Vendor

/-! ## One customer -/

/-- The write that creates the log of a message: it is pending, it is for the campaign and the
customer, and it has the text of the message and the time. -/
def logChange (time : DateTime) (campaignId : String) (posting : Posting) : String × Writes.Patch :=
  (posting.logId, .ofFields [("id", .text posting.logId), ("campaign_id", .text campaignId),
    ("customer_id", .text posting.customerId), ("message", .text posting.message),
    ("status", .text "PENDING"), ("created_at", .time time)])

variable {campaignId template : String} {o after : Office}

theorem perform_ofRecord {α : Type} (found : Except RecordFault α) (o : Office) :
    Task.perform (ofRecord found) o = match found with
      | .ok value => (.ok value, o)
      | .error fault => (.error (.record fault), o) := by
  cases found <;> rfl

theorem perform_post (posting : Posting) (o : Office) :
    Task.perform (post posting) o = (.ok (), { o with vendor := (o.vendor.send posting).2 }) := rfl

theorem perform_post_eq_ok_iff {posting : Posting} {done : Unit} :
    Task.perform (post posting) o = (.ok done, after) ↔
      after = { o with vendor := (o.vendor.send posting).2 } := by
  rw [perform_post]
  simp [eq_comm]

/-- Queues the log of one customer, and gives the message that belongs to it. -/
def logOne (campaignId template : String) (customer : Value) : Task Posting := do
  let logId ← Task.drawId
  let message ← ofRecord (personalize template customer)
  let customerId ← ofRecord (recordId customer)
  let posting : Posting := ⟨logId, customerId, message⟩
  Task.queueWrite .logs logId (.ofFields (pendingLog (← Task.now) campaignId posting))
  return posting

/-- To write to one customer is to queue a log and then to hand its message to the vendor. -/
theorem deliverOne_eq (campaignId template : String) (customer : Value) :
    deliverOne campaignId template customer = do
      let posting ← logOne campaignId template customer
      post posting
      return posting.logId := by
  simp only [deliverOne, logOne, bind_assoc, pure_bind]

/-- What it is to queue the log of one customer: an identifier is drawn, and then the record is
found to be malformed, or the log is refused, or it is queued under the identifier. -/
inductive Logs (campaignId template : String) (customer : Value) (o : Office) :
    Except Setback Posting → Office → Prop
  | malformed {fault : RecordFault}
      (faulty : personalize template customer = .error fault ∨ recordId customer = .error fault) :
      Logs campaignId template customer o (.error (.record fault)) { o with drawn := o.drawn + 1 }
  | refused {refusal : Writes.Refusal} (refuses : ¬(o.processor .logs).Accepts) :
      Logs campaignId template customer o (.error (.failure (.refused refusal)))
      { o with drawn := o.drawn + 1 }
  | queued {posting : Posting} {p : Writes.Processor}
      (addresses : Addresses template customer posting)
      (drawn : posting.logId = Office.identifier (o.drawn + 1))
      (queued : (o.processor .logs).enqueue 0 posting.logId
        (logChange o.clock campaignId posting).2 = .ok p) :
      Logs campaignId template customer o (.ok posting)
        { o with drawn := o.drawn + 1, processors := o.processors.set .logs p }

theorem logs_of_logOne (campaignId template : String) (customer : Value) (o : Office) :
    Logs campaignId template customer o (Task.perform (logOne campaignId template customer) o).1
      (Task.perform (logOne campaignId template customer) o).2 := by
  unfold logOne
  simp only [Task.perform_bind, Task.perform_drawId, perform_ofRecord]
  cases messageEq : personalize template customer with
  | error fault => exact .malformed (.inl messageEq)
  | ok message =>
      cases idEq : recordId customer with
      | error fault => exact .malformed (.inr idEq)
      | ok customerId =>
          simp only [Task.perform_now, Task.perform_queueWrite]
          rw [show Office.processor .logs { o with drawn := o.drawn + 1 } =
            o.processor .logs from rfl]
          generalize queued : Writes.Processor.enqueue 0 (Office.identifier (o.drawn + 1))
            (.ofFields (pendingLog o.clock campaignId
              ⟨Office.identifier (o.drawn + 1), customerId, message⟩)) (o.processor .logs) = outcome
          cases outcome with
          | error refusal =>
              exact .refused (Writes.Processor.exists_enqueue_eq_error_iff.mp ⟨refusal, queued⟩)
          | ok p => exact .queued ⟨idEq, messageEq⟩ rfl queued

/-- What it leaves behind to queue the log of one customer. -/
structure Logged (campaignId template : String) (customer : Value) (posting : Posting)
    (o after : Office) : Prop where
  addresses : Addresses template customer posting
  id : posting.logId = Office.identifier (o.drawn + 1)
  log : o.Queues .logs [logChange o.clock campaignId posting] after
  others : ∀ c, c ≠ .logs → after.processor c = o.processor c
  frame : ∃ processors, after = { o with drawn := o.drawn + 1, processors := processors }

theorem logged_of_logOne {customer : Value} {posting : Posting}
    (ran : Task.perform (logOne campaignId template customer) o = (.ok posting, after)) :
    Logged campaignId template customer posting o after := by
  have logs := logs_of_logOne campaignId template customer o
  rw [ran] at logs
  cases logs with
  | @queued _ p addresses drawn queued =>
      refine ⟨addresses, drawn, .of_enqueue queued ?_, fun c notLogs => ?_, _, rfl⟩
      · exact PerCollection.get_set_self _ _ _
      · exact PerCollection.get_set_of_ne notLogs _ _

/-! ## All customers -/

/-- Every message to stored customers has an encoding. -/
theorem encoded_of_addresses {customers : List Value} {postings : List Posting} {t : Table}
    {members : List Row} (addresses : List.Forall₂ (Addresses template) customers postings)
    (records : List.Forall₂ (Audience.IsRecordOf t) members customers)
    (stored : ∀ row ∈ members, row ∈ t.rows) (addressable : Addressable t)
    (templatePlain : Text.hasLoneSurrogate template = false)
    (drawn : ∀ posting ∈ postings, ∃ number, posting.logId = Office.identifier number) :
    ∀ posting ∈ postings, posting.isUnencodable = false := by
  induction records generalizing postings with
  | nil =>
      cases addresses
      simp
  | @cons row record members records isRecord _ ih =>
      cases addresses with
      | @cons _ posting _ others first later =>
          obtain ⟨firstDrawn, laterDrawn⟩ := List.forall_mem_cons.mp drawn
          refine List.forall_mem_cons.mpr ⟨?_, ?_⟩
          · obtain ⟨number, idEq⟩ := firstDrawn
            refine first.hasEncoding addressable (stored row List.mem_cons_self) isRecord
              templatePlain ?_
            rw [idEq]
            exact Office.hasLoneSurrogate_identifier number
          · exact ih later (fun other otherMem => stored other (List.mem_cons_of_mem _ otherMem))
              laterDrawn

/-- The postings of a delivery to stored customers are for these, in the same order. -/
theorem customerIds_eq {customers : List Value} {postings : List Posting} {t : Table}
    {members : List Row} (addresses : List.Forall₂ (Addresses template) customers postings)
    (records : List.Forall₂ (Audience.IsRecordOf t) members customers) :
    postings.map Posting.customerId = members.map Row.id := by
  induction records generalizing postings with
  | nil =>
      cases addresses
      rfl
  | cons isRecord _ ih =>
      cases addresses with
      | cons first later =>
          have same := first.customerId.symm.trans (recordId_of_isRecordOf isRecord)
          rw [List.map_cons, List.map_cons, Except.ok.inj same, ih later]

end Outreach.Delivery
