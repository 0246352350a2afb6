import Mathlib.Logic.Relation
import Outreach.Proofs.Delivery.Run
import Outreach.Proofs.Office.Station

/-!
# A delivery from moment to moment

A delivery goes on by two steps for each customer: the log is queued, and then the message is handed
to the vendor. It ends when nobody is left, or where a log cannot be queued. While it waits for the
vendor other things go on: the coalescer flushes logs to their table, others queue writes for the
same table and hand messages to the same vendor, and time passes. A diary keeps the order of all
this. Whatever goes on beside a delivery, what it has done itself is a log and a message for each of
the first customers, in this order, and what the vendor has answered makes no difference.
-/

namespace Outreach

/-- The station with another vendor. -/
def Station.withVendor {c : Collection} (v : Delivery.Vendor) (station : Station c) : Station c :=
  { station with office := { station.office with vendor := v } }

namespace Delivery

open Relation (ReflTransGen)
open Store (Regular TableStep)
open Writes (Write)

variable {campaignId template : String} {customer : Value} {customers : List Value}
    {o after : Office}

/-- The vendor has no part in queueing a log. -/
theorem perform_logOne_with_vendor (campaignId template : String) (customer : Value) (o : Office)
    (v : Vendor) :
    Task.perform (logOne campaignId template customer) { o with vendor := v } =
      ((Task.perform (logOne campaignId template customer) o).1,
        { (Task.perform (logOne campaignId template customer) o).2 with vendor := v }) := by
  unfold logOne
  simp only [Task.perform_bind, Task.perform_drawId, perform_ofRecord]
  cases personalize template customer with
  | error fault => rfl
  | ok message =>
      cases recordId customer with
      | error fault => rfl
      | ok customerId =>
          simp only [Task.perform_now, Task.perform_queueWrite, Office.processor]
          generalize Writes.Processor.enqueue 0 _ _ (o.processors.get .logs) = outcome
          cases outcome <;> rfl

/-! ## The diary -/

/-- What can be seen of deliveries: a write of a log is accepted, or a message is
handed to the vendor. -/
inductive Event where
  | log (change : String × Writes.Patch)
  | message (posting : Posting)

namespace Event

/-- The write that is accepted. -/
def change? : Event → Option (String × Writes.Patch)
  | .log change => some change
  | .message _ => none

/-- The message that is handed over. -/
def posting? : Event → Option Posting
  | .log _ => none
  | .message posting => some posting

end Event

/-- What went on, in order: on the left what a delivery did itself, and on the
right what others did. -/
abbrev Diary := List (Event ⊕ Event)

namespace Diary

/-- What the delivery did itself. -/
def own (diary : Diary) : List Event := diary.filterMap Sum.getLeft?

/-- What anybody did. -/
def events (diary : Diary) : List Event := diary.map (Sum.elim id id)

/-- The writes that were accepted. -/
def changes (diary : Diary) : List (String × Writes.Patch) := diary.events.filterMap Event.change?

/-- The messages that were handed over. -/
def postings (diary : Diary) : List Posting := diary.events.filterMap Event.posting?

variable (diary : Diary) (event : Event)

@[simp]
theorem own_concat_inl : own (diary ++ [.inl event]) = own diary ++ [event] := by
  rw [own, List.filterMap_append]
  rfl

@[simp]
theorem own_concat_inr : own (diary ++ [.inr event]) = own diary := by
  rw [own, List.filterMap_append]
  exact List.append_nil _

theorem filterMap_events_concat {α : Type} (f : Event → Option α) (entry : Event ⊕ Event) :
    (events (diary ++ [entry])).filterMap f =
      (events diary).filterMap f ++ (f (entry.elim id id)).toList := by
  rw [events, List.map_append, List.filterMap_append]
  cases found : f (entry.elim id id) <;> simp [found, events]

theorem changes_concat (entry : Event ⊕ Event) :
    changes (diary ++ [entry]) = changes diary ++ (entry.elim id id).change?.toList :=
  filterMap_events_concat diary Event.change? entry

theorem postings_concat (entry : Event ⊕ Event) :
    postings (diary ++ [entry]) = postings diary ++ (entry.elim id id).posting?.toList :=
  filterMap_events_concat diary Event.posting? entry

variable {diary} {entry : Event ⊕ Event}

theorem changes_concat_of_none (noChange : (entry.elim id id).change? = none) :
    changes (diary ++ [entry]) = changes diary := by
  rw [changes_concat, noChange]
  exact List.append_nil _

theorem postings_concat_of_none (noPosting : (entry.elim id id).posting? = none) :
    postings (diary ++ [entry]) = postings diary := by
  rw [postings_concat, noPosting]
  exact List.append_nil _

end Diary

/-- Why a delivery stops after some customers: the next record is malformed, or the log of the next
customer is refused. -/
inductive Halts (template : String) (customers : List Value) (count : Nat) (after : Office) :
    Setback → Prop
  | malformed {customer : Value} {fault : RecordFault} (next : customers[count]? = some customer)
      (faulty : personalize template customer = .error fault ∨ recordId customer = .error fault) :
      Halts template customers count after (.record fault)
  | refused {refusal : Writes.Refusal} (next : count < customers.length)
      (refuses : ¬(after.processor .logs).Accepts) :
      Halts template customers count after (.failure (.refused refusal))

/-! ## Moments -/

/-- What is done for one customer: at some time a log is queued, and then the
message is handed over. -/
structure Service where
  time : DateTime
  posting : Posting

namespace Service

/-- The log is queued. -/
def log (campaignId : String) (service : Service) : Event :=
  .log (logChange service.time campaignId service.posting)

/-- The message is handed over. -/
def message (service : Service) : Event := .message service.posting

/-- The log comes first. -/
def events (campaignId : String) (service : Service) : List Event :=
  [service.log campaignId, service.message]

end Service

/-- A moment of a delivery. -/
structure Moment where
  station : Station .logs
  /-- Who is still to be written to. -/
  left : List Value
  /-- The customers who have been served. -/
  handed : List Service
  /-- A customer whose log has been queued, and whose message has not been handed over yet. -/
  inHand : Option Service
  diary : Diary

namespace Moment

/-- The customers whose logs have been queued. -/
def logged (m : Moment) : List Service := m.handed ++ m.inHand.toList

variable {station : Station .logs} {left : List Value} {handed : List Service} {diary : Diary}

@[simp]
theorem logged_none : logged ⟨station, left, handed, none, diary⟩ = handed := List.append_nil handed

@[simp]
theorem logged_some {service : Service} :
    logged ⟨station, left, handed, some service, diary⟩ = handed ++ [service] := rfl

/-- Before anything was done. -/
def start (customers : List Value) (before : Station .logs) : Moment :=
  ⟨before, customers, [], none, []⟩

/-- What a delivery does next. -/
inductive Goes (campaignId template : String) : Moment → Moment → Prop
  | logs {station : Station .logs} {after : Office} {customer : Value} {left : List Value}
      {handed : List Service} {diary : Diary} {posting : Posting}
      (ran : Task.perform (logOne campaignId template customer) station.desk =
        (.ok posting, after)) :
      Goes campaignId template ⟨station, customer :: left, handed, none, diary⟩
        ⟨station.served after, left, handed, some ⟨station.office.clock, posting⟩,
          diary ++ [.inl (Service.log campaignId ⟨station.office.clock, posting⟩)]⟩
  | hands {station : Station .logs} {after : Office} {left : List Value} {handed : List Service}
      {diary : Diary} {service : Service}
      (ran : Task.perform (post service.posting) station.desk = (.ok (), after)) :
      Goes campaignId template ⟨station, left, handed, some service, diary⟩
        ⟨station.served after, left, handed ++ [service], none, diary ++ [.inl service.message]⟩

/-- What can go on beside a delivery at any time. -/
inductive Meanwhile (m : Moment) : Moment → Prop
  /-- The coalescer works, and the table may take a batch. -/
  | works {s : Writes.Coalescer} {t : Store.Table}
      (step : TableStep m.station.coalescer m.station.table s t) :
      Meanwhile m { m with station := m.station.worked s t }
  /-- A write of somebody else is accepted for the logs. -/
  | queues {p : Writes.Processor} (now : Nat) (id : String) (patch : Writes.Patch)
      (queued : m.station.coalescer.processor.enqueue now id patch = .ok p) :
      Meanwhile m { m with
        station := { m.station with coalescer := { m.station.coalescer with processor := p } }
        diary := m.diary ++ [.inr (.log (id, patch))] }
  /-- Somebody else hands a message to the vendor. -/
  | sends (posting : Posting) :
      Meanwhile m { m with
        station := m.station.withVendor (m.station.office.vendor.send posting).2
        diary := m.diary ++ [.inr (.message posting)] }
  /-- Time passes, and anything else happens in the office. -/
  | aside {o : Office} (vendor : o.vendor = m.station.office.vendor)
      (drawn : m.station.office.drawn ≤ o.drawn) :
      Meanwhile m { m with station := { m.station with office := o } }

/-- How a delivery ends: nobody is left, or the next log cannot be queued. -/
inductive Ends (campaignId template : String) :
    Moment → Except Setback (List String) → Office → Prop
  | returns {station : Station .logs} {handed : List Service} {diary : Diary} :
      Ends campaignId template ⟨station, [], handed, none, diary⟩
        (.ok (handed.map (·.posting.logId))) station.desk
  | stops {station : Station .logs} {after : Office} {customer : Value} {left : List Value}
      {handed : List Service} {diary : Diary} {setback : Setback}
      (failed : Task.perform (logOne campaignId template customer) station.desk =
        (.error setback, after)) :
      Ends campaignId template ⟨station, customer :: left, handed, none, diary⟩
        (.error setback) after

/-- The delivery goes on, or something beside it. -/
def Step (campaignId template : String) (m next : Moment) : Prop :=
  Goes campaignId template m next ∨ Meanwhile m next

/-- A moment comes after another one, or is the same, while nothing goes on beside the delivery. -/
abbrev Alone (campaignId template : String) : Moment → Moment → Prop :=
  ReflTransGen (Goes campaignId template)

/-- A moment comes after another one, or is the same, whatever goes on beside the delivery. -/
abbrev Passes (campaignId template : String) : Moment → Moment → Prop :=
  ReflTransGen (Step campaignId template)

variable {before : Station .logs} {m next last : Moment} {result : Except Setback (List String)}

/-! ## The end -/

/-- A delivery that nothing goes on beside is done by steps, whatever has been
handed over before it. -/
theorem exists_ends_of_deliverAll (handed : List Service) (diary : Diary)
    (ran : Task.perform (deliverAll campaignId template customers) station.desk = (result, after)) :
    ∃ last, Alone campaignId template ⟨station, customers, handed, none, diary⟩ last ∧
      Ends campaignId template last (result.map (handed.map (·.posting.logId) ++ ·)) after := by
  induction customers generalizing station after handed diary result with
  | nil =>
      cases ran
      refine ⟨_, .refl, ?_⟩
      simp only [Except.map, List.append_nil]
      exact .returns
  | cons customer rest ih =>
      rw [deliverAll, deliverOne_eq] at ran
      simp only [bind_assoc, pure_bind, Task.perform_bind, perform_post] at ran
      generalize logRan : Task.perform (logOne campaignId template customer) station.desk =
        logOutcome at ran
      rcases logOutcome with ⟨setback | posting, middle⟩
      · cases ran
        exact ⟨_, .refl, .stops logRan⟩
      · let service : Service := ⟨station.office.clock, posting⟩
        have handRan := perform_post service.posting middle
        simp only at ran
        generalize { middle with vendor := (middle.vendor.send posting).2 } = behind at handRan ran
        generalize restRan : Task.perform (deliverAll campaignId template rest) behind =
          restOutcome at ran
        obtain ⟨restResult, final⟩ := restOutcome
        rw [← Station.served_desk (station.served middle) behind] at restRan
        obtain ⟨last, alone, ends⟩ := ih (handed ++ [service]) _ restRan
        rw [← Station.served_desk station middle] at handRan
        refine ⟨last, .head (.logs logRan) (.head (.hands handRan) alone), ?_⟩
        cases restResult <;> cases ran <;> simpa [Except.map, service] using ends

/-- Wherever a delivery is, it can go on to an end. -/
theorem exists_ends (m : Moment) : ∃ last result after,
    Alone campaignId template m last ∧ Ends campaignId template last result after := by
  obtain ⟨station, left, handed, inHand, diary⟩ := m
  have fromNone (station : Station .logs) (handed : List Service) (diary : Diary) :
      ∃ last result after,
      Alone campaignId template ⟨station, left, handed, none, diary⟩ last ∧
        Ends campaignId template last result after := by
    generalize ran : Task.perform (deliverAll campaignId template left) station.desk = outcome
    obtain ⟨last, alone, ends⟩ := exists_ends_of_deliverAll handed diary ran
    exact ⟨last, _, _, alone, ends⟩
  cases inHand with
  | none => exact fromNone station handed diary
  | some service =>
      obtain ⟨last, result, after, alone, ends⟩ := fromNone _ _ _
      exact ⟨last, result, after,
        .head (.hands (perform_post service.posting station.desk)) alone, ends⟩

theorem Ends.logged_eq (ends : Ends campaignId template m result after) : m.logged = m.handed := by
  cases ends <;> rw [logged_none]

/-- Whatever the end is like, it draws an identifier at most. -/
theorem Ends.exists_drawn (ends : Ends campaignId template m result after) :
    ∃ drawn, after = { m.station.desk with drawn := drawn } := by
  cases ends with
  | returns => exact ⟨_, rfl⟩
  | @stops station after customer _ _ _ _ failed =>
      have logsNone := logs_of_logOne campaignId template customer station.desk
      rw [failed] at logsNone
      cases logsNone <;> exact ⟨_, rfl⟩

/-! ## What holds at every moment -/

/-- At a moment of a delivery the customers before those who are left have been served, or a log is
queued for the last of them whose message is in hand. Their logs have identifiers that were drawn
one after the other. The delivery itself has queued a log and handed over a message for each of
them, the log first, and with what others did these are all the writes that were accepted and all
the messages that were handed over. -/
structure Kept (campaignId template : String) (customers : List Value) (before : Station .logs)
    (m : Moment) : Prop where
  reached : ∃ done, customers = done ++ m.left ∧
    List.Forall₂ (Addresses template) done (m.logged.map Service.posting)
  drawn : before.office.drawn ≤ m.station.office.drawn
  ids : ∃ numbers : List Nat, m.logged.map (·.posting.logId) = numbers.map Office.identifier ∧
    numbers.Pairwise (· < ·) ∧
    ∀ number ∈ numbers, before.office.drawn < number ∧ number ≤ m.station.office.drawn
  own : m.diary.own = m.handed.flatMap (Service.events campaignId) ++
    m.inHand.toList.map (Service.log campaignId)
  accepted : m.station.coalescer.processor.accepted.map Write.change =
    before.coalescer.processor.accepted.map Write.change ++ m.diary.changes
  sent : m.station.office.vendor = before.office.vendor.sendAll m.diary.postings

theorem kept_start (campaignId template : String) (customers : List Value)
    (before : Station .logs) :
    Kept campaignId template customers before (start customers before) where
  reached := ⟨[], rfl, .nil⟩
  drawn := le_refl _
  ids := ⟨[], rfl, .nil, nofun⟩
  own := rfl
  accepted := (List.append_nil _).symm
  sent := rfl

/-- The next number that is drawn goes behind those that were drawn before. -/
theorem inTurn_concat {numbers : List Nat} {low high : Nat} (inTurn : numbers.Pairwise (· < ·))
    (bounds : ∀ number ∈ numbers, low < number ∧ number ≤ high) (le : low ≤ high) :
    (numbers ++ [high + 1]).Pairwise (· < ·) ∧
      ∀ number ∈ numbers ++ [high + 1], low < number ∧ number ≤ high + 1 := by
  constructor
  · refine List.pairwise_append.mpr ⟨inTurn, List.pairwise_singleton _ _,
      fun number numberMem other otherMem => ?_⟩
    rw [List.mem_singleton.mp otherMem]
    exact Nat.lt_succ_of_le (bounds number numberMem).2
  · intro number numberMem
    rcases List.mem_append.mp numberMem with earlier | last
    · exact ⟨(bounds number earlier).1, Nat.le_succ_of_le (bounds number earlier).2⟩
    · rw [List.mem_singleton.mp last]
      exact ⟨Nat.lt_succ_of_le le, le_refl _⟩

theorem Kept.goes (kept : Kept campaignId template customers before m)
    (goes : Goes campaignId template m next) : Kept campaignId template customers before next := by
  obtain ⟨⟨done, split, addresses⟩, drawn, ⟨numbers, ids, inTurn, bounds⟩, own, accepted, sent⟩ :=
    kept
  cases goes with
  | @logs station after customer left handed diary posting ran =>
      obtain ⟨addressed, id, log, -, processors, rfl⟩ := logged_of_logOne ran
      simp only [logged_none, Option.toList_none, List.map_nil, List.append_nil]
        at split addresses ids own
      simp only at drawn bounds accepted sent
      -- The customer goes over to those who are done, under the number that is drawn.
      refine ⟨⟨done ++ [customer], ?_, ?_⟩, Nat.le_succ_of_le drawn,
        ⟨numbers ++ [station.office.drawn + 1], ?_, inTurn_concat inTurn bounds drawn⟩, ?_, ?_, ?_⟩
      · rw [split, List.append_assoc]
        rfl
      · rw [logged_some, List.map_append]
        exact List.rel_append addresses (.cons addressed .nil)
      · rw [logged_some, List.map_append, List.map_append, ids]
        exact congrArg (_ ++ [·]) id
      · rw [Diary.own_concat_inl, own]
        rfl
      · rw [Diary.changes_concat]
        have queued := log.accepted
        rw [Station.desk_processor, accepted, List.append_assoc] at queued
        exact queued
      · rw [Diary.postings_concat_of_none rfl]
        exact sent
  | @hands station after left handed diary service ran =>
      obtain rfl := perform_post_eq_ok_iff.mp ran
      simp only [logged_some, Option.toList_some, List.map_singleton] at split addresses ids own
      simp only at drawn bounds accepted sent
      -- Nothing is logged here: the message that was in hand counts as logged already.
      refine ⟨⟨done, split, ?_⟩, drawn, ⟨numbers, ?_, inTurn, bounds⟩, ?_, ?_, ?_⟩
      · rwa [logged_none]
      · rwa [logged_none]
      · rw [Diary.own_concat_inl, own, List.flatMap_append, List.append_assoc, List.append_assoc]
        rfl
      · rw [Diary.changes_concat_of_none rfl, ← accepted]
        exact congrArg (·.accepted.map Write.change) station.desk_processor
      · rw [Diary.postings_concat]
        refine Eq.trans ?_ (Vendor.sendAll_concat _ _ _).symm
        rw [← sent]
        rfl

theorem Kept.meanwhile (kept : Kept campaignId template customers before m)
    (regular : Regular m.station.coalescer) (meanwhile : Meanwhile m next) :
    Kept campaignId template customers before next := by
  obtain ⟨reached, drawn, ⟨numbers, ids, inTurn, bounds⟩, own, accepted, sent⟩ := kept
  cases meanwhile with
  | works step =>
      obtain ⟨-, -, same⟩ := step.delivers regular
      exact ⟨reached, drawn, ⟨numbers, ids, inTurn, bounds⟩, own, same.trans accepted, sent⟩
  | queues now id patch queued =>
      obtain ⟨-, -, more⟩ := regular.enqueue queued
      refine ⟨reached, drawn, ⟨numbers, ids, inTurn, bounds⟩, ?_, ?_, ?_⟩
      · rw [Diary.own_concat_inr]
        exact own
      · rw [Diary.changes_concat, ← List.append_assoc, ← accepted]
        exact more
      · rw [Diary.postings_concat_of_none rfl]
        exact sent
  | sends posting =>
      refine ⟨reached, drawn, ⟨numbers, ids, inTurn, bounds⟩, ?_, ?_, ?_⟩
      · rw [Diary.own_concat_inr]
        exact own
      · rw [Diary.changes_concat_of_none rfl]
        exact accepted
      · rw [Diary.postings_concat]
        refine Eq.trans ?_ (Vendor.sendAll_concat _ _ _).symm
        rw [← sent]
        rfl
  | aside vendor later =>
      refine ⟨reached, drawn.trans later, ⟨numbers, ids, inTurn, fun number numberMem => ?_⟩,
        own, accepted, vendor.trans sent⟩
      exact ⟨(bounds number numberMem).1, (bounds number numberMem).2.trans later⟩

theorem Kept.alone (kept : Kept campaignId template customers before m)
    (alone : Alone campaignId template m last) :
    Kept campaignId template customers before last := by
  induction alone with
  | refl => exact kept
  | tail _ goes ih => exact ih.goes goes

theorem Kept.ids_nodup (kept : Kept campaignId template customers before m) :
    (Office.identifier before.office.drawn :: m.logged.map (·.posting.logId)).Nodup := by
  obtain ⟨numbers, ids, inTurn, bounds⟩ := kept.ids
  rw [ids, ← List.map_cons]
  refine List.Nodup.map Office.identifier_injective (List.Pairwise.imp Nat.ne_of_lt ?_)
  exact List.pairwise_cons.mpr ⟨fun number numberMem => (bounds number numberMem).1, inTurn⟩

theorem Kept.exists_number (kept : Kept campaignId template customers before m) :
    ∀ posting ∈ m.logged.map Service.posting, ∃ number,
      posting.logId = Office.identifier number := by
  obtain ⟨numbers, ids, -⟩ := kept.ids
  intro posting postingMem
  obtain ⟨service, serviceMem, rfl⟩ := List.mem_map.mp postingMem
  have idMem := List.mem_map_of_mem (f := fun service => service.posting.logId) serviceMem
  rw [ids] at idMem
  obtain ⟨number, -, idEq⟩ := List.mem_map.mp idMem
  exact ⟨number, idEq.symm⟩

/-- The customers at the front of the audience are those who have been served. -/
theorem Kept.addresses (kept : Kept campaignId template customers before m) :
    List.Forall₂ (Addresses template) (customers.take m.logged.length)
    (m.logged.map Service.posting) := by
  obtain ⟨done, split, addresses⟩ := kept.reached
  rw [split, ← List.length_map Service.posting, ← addresses.length_eq, List.take_left]
  exact addresses

/-- At the end all whose logs are queued have been served: they are the customers at the front, each
under an identifier that was drawn for them alone. -/
theorem Kept.front (kept : Kept campaignId template customers before m)
    (ends : Ends campaignId template m result after) :
    List.Forall₂ (Addresses template) (customers.take m.handed.length)
      (m.handed.map Service.posting) ∧
    (Office.identifier before.office.drawn ::
      (m.handed.map Service.posting).map Posting.logId).Nodup ∧
    ∀ posting ∈ m.handed.map Service.posting, ∃ number,
      posting.logId = Office.identifier number := by
  have addresses := kept.addresses
  have nodup := kept.ids_nodup
  have drawn := kept.exists_number
  rw [ends.logged_eq] at addresses nodup drawn
  exact ⟨addresses, by rwa [List.map_map], drawn⟩

/-- A delivery that returns has served everyone. -/
theorem Kept.returns {ids : List String} (kept : Kept campaignId template customers before m)
    (ends : Ends campaignId template m (.ok ids) after) :
    m.handed.length = customers.length ∧ ids = m.handed.map (·.posting.logId) := by
  obtain ⟨done, split, addresses⟩ := kept.reached
  cases ends
  rw [logged_none] at addresses
  rw [split, List.append_nil, addresses.length_eq, List.length_map]
  exact ⟨rfl, rfl⟩

/-- A delivery that does not return stops at the first customer who has not been served. -/
theorem Kept.halts {setback : Setback} (kept : Kept campaignId template customers before m)
    (ends : Ends campaignId template m (.error setback) after) :
    Halts template customers m.handed.length after setback := by
  obtain ⟨done, split, addresses⟩ := kept.reached
  cases ends with
  | @stops station after customer left handed diary _ failed =>
      rw [logged_none] at addresses
      have count : done.length = handed.length := by rw [addresses.length_eq, List.length_map]
      have next : customers[handed.length]? = some customer := by
        rw [split, ← count, List.getElem?_append_right le_rfl, Nat.sub_self]
        rfl
      have logsNone := logs_of_logOne campaignId template customer station.desk
      rw [failed] at logsNone
      cases logsNone with
      | malformed faulty => exact .malformed next faulty
      | refused refuses => exact .refused (List.getElem?_eq_some_iff.mp next).1 refuses

/-- The coalescer of the logs keeps its order, whoever goes on. -/
theorem regular_step (regular : Regular m.station.coalescer)
    (step : Step campaignId template m next) : Regular next.station.coalescer := by
  rcases step with goes | meanwhile
  · cases goes with
    | @logs station after customer left handed diary posting ran =>
        have logs := logs_of_logOne campaignId template customer station.desk
        rw [ran] at logs
        cases logs with
        | queued addresses drawn queued =>
            rw [Station.desk_processor] at queued
            exact (regular.enqueue queued).1
    | @hands station after left handed diary service ran =>
        obtain rfl := perform_post_eq_ok_iff.mp ran
        exact regular
  · cases meanwhile with
    | works step => exact (step.delivers regular).1
    | queues now id patch queued => exact (regular.enqueue queued).1
    | sends | aside => exact regular

/-- Whatever goes on beside a delivery, this is so at every moment. -/
theorem Kept.passes (kept : Kept campaignId template customers before m)
    (regular : Regular m.station.coalescer) (passes : Passes campaignId template m last) :
    Kept campaignId template customers before last := by
  suffices both : Kept campaignId template customers before last ∧
      Regular last.station.coalescer from both.1
  induction passes with
  | refl => exact ⟨kept, regular⟩
  | tail _ step ih =>
      obtain ⟨keptSoFar, regularSoFar⟩ := ih
      refine ⟨?_, regular_step regularSoFar step⟩
      rcases step with goes | meanwhile
      · exact keptSoFar.goes goes
      · exact keptSoFar.meanwhile regularSoFar meanwhile

/-! ## Another vendor -/

/-- The moment as it is with another vendor. -/
def withVendor (v : Vendor) (m : Moment) : Moment :=
  { m with station := m.station.withVendor (v.sendAll m.diary.postings) }

theorem Goes.withVendor (goes : Goes campaignId template m next) (v : Vendor) :
    Goes campaignId template (m.withVendor v) (next.withVendor v) := by
  cases goes with
  | @logs station after customer left handed diary posting ran =>
      have again := perform_logOne_with_vendor campaignId template customer station.desk
        (v.sendAll diary.postings)
      rw [ran] at again
      have same : Diary.postings
          (diary ++ [.inl (Service.log campaignId ⟨station.office.clock, posting⟩)]) =
          diary.postings := Diary.postings_concat_of_none rfl
      unfold Moment.withVendor
      rw [same]
      exact .logs again
  | @hands station after left handed diary service ran =>
      obtain rfl := perform_post_eq_ok_iff.mp ran
      have same : v.sendAll (Diary.postings (diary ++ [.inl service.message])) =
          ((v.sendAll diary.postings).send service.posting).2 := by
        rw [Diary.postings_concat]
        exact Vendor.sendAll_concat _ _ _
      unfold Moment.withVendor
      rw [same]
      exact .hands (perform_post service.posting
        (station.withVendor (v.sendAll diary.postings)).desk)

theorem Meanwhile.withVendor (meanwhile : Meanwhile m next) (v : Vendor) :
    Meanwhile (m.withVendor v) (next.withVendor v) := by
  cases meanwhile with
  | works step => exact .works (m := m.withVendor v) step
  | queues now id patch queued =>
      have same : Diary.postings (m.diary ++ [.inr (.log (id, patch))]) = m.diary.postings :=
        Diary.postings_concat_of_none rfl
      unfold Moment.withVendor
      rw [same]
      exact .queues (m := m.withVendor v) now id patch queued
  | sends posting =>
      have same : v.sendAll (Diary.postings (m.diary ++ [.inr (.message posting)])) =
          ((v.sendAll m.diary.postings).send posting).2 := by
        rw [Diary.postings_concat]
        exact Vendor.sendAll_concat _ _ _
      unfold Moment.withVendor
      rw [same]
      exact .sends (m := m.withVendor v) posting
  | @aside o vendor drawn =>
      exact .aside (m := m.withVendor v) (o := { o with vendor := v.sendAll m.diary.postings }) rfl
        drawn

/-- Everything can go on in the same way with any other vendor. -/
theorem Passes.withVendor (passes : Passes campaignId template m last) (v : Vendor) :
    Passes campaignId template (m.withVendor v) (last.withVendor v) := by
  induction passes with
  | refl => exact .refl
  | tail _ step ih => exact ih.tail (step.imp (·.withVendor v) (·.withVendor v))

theorem Ends.withVendor (ends : Ends campaignId template m result after) (v : Vendor) :
    Ends campaignId template (m.withVendor v) result
    { after with vendor := v.sendAll m.diary.postings } := by
  cases ends with
  | returns => exact .returns
  | @stops station after customer left handed diary setback failed =>
      have again := perform_logOne_with_vendor campaignId template customer station.desk
        (v.sendAll diary.postings)
      rw [failed] at again
      exact .stops again

end Moment

end Delivery

end Outreach
