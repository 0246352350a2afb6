import Outreach.Proofs.Delivery.Moments

/-!
# Deliveries that nothing goes on beside

A delivery that is done in one go serves the customers at the front of its audience: it has queued
one log for each of them and has handed one message to the vendor for each log, in the order of the
customers and under identifiers that are all different. It changes nothing else of the office.
-/

namespace Outreach.Delivery

variable {campaignId template : String} {customers : List Value} {o after : Office}
  {result : Except Setback (List String)}

/-- An office in which the processor of a collection works as a coalescer that nobody has called. -/
def stationOf (c : Collection) (o : Office) : Station c := ⟨o, ⟨o.processor c, none, [], []⟩⟩

@[simp]
theorem desk_stationOf (c : Collection) (o : Office) : (stationOf c o).desk = o := by
  simp [Station.desk, stationOf, Office.processor]

namespace Moment

variable {before : Station .logs} {m next last : Moment}

/-- What the office has become at a moment of a delivery that nothing goes on beside. -/
structure Undisturbed (campaignId : String) (before : Station .logs) (m : Moment) : Prop where
  logs : before.desk.Queues .logs
    (m.logged.map fun service => logChange before.desk.clock campaignId service.posting)
    m.station.desk
  others : ∀ c, c ≠ .logs → m.station.desk.processor c = before.desk.processor c
  frame : ∃ processors, m.station.desk = { before.desk with
    drawn := before.desk.drawn + m.logged.length
    processors := processors
    vendor := before.desk.vendor.sendAll (m.handed.map Service.posting) }

theorem undisturbed_start (campaignId : String) (customers : List Value) (before : Station .logs) :
    Undisturbed campaignId before (start customers before) where
  logs := .of_processor_eq rfl
  others _ _ := rfl
  frame := ⟨_, rfl⟩

theorem Undisturbed.goes (undisturbed : Undisturbed campaignId before m)
    (goes : Goes campaignId template m next) : Undisturbed campaignId before next := by
  obtain ⟨logs, others, processors, frame⟩ := undisturbed
  cases goes with
  | @logs station after customer left handed diary posting ran =>
      obtain ⟨-, -, log, otherProcessors, moreProcessors, afterEq⟩ := logged_of_logOne ran
      simp only [logged_none] at logs others frame
      have clock : station.desk.clock = before.desk.clock := by rw [frame]
      refine ⟨?_, ?_, moreProcessors, ?_⟩
      · rw [logged_some, List.map_append, Station.served_desk]
        rw [clock] at log
        exact logs.append log
      · intro c notLogs
        rw [Station.served_desk, otherProcessors c notLogs, others c notLogs]
      · rw [logged_some, Station.served_desk, afterEq, frame, List.length_append]
        rfl
  | @hands station after left handed diary service ran =>
      obtain rfl := perform_post_eq_ok_iff.mp ran
      simp only [logged_some] at logs others frame
      refine ⟨?_, ?_, processors, ?_⟩
      · rw [logged_none, Station.served_desk]
        exact logs.congr rfl rfl
      · intro c notLogs
        rw [Station.served_desk]
        exact others c notLogs
      · rw [logged_none, Station.served_desk, frame, List.map_append, List.map_singleton,
          Vendor.sendAll_concat]

theorem Undisturbed.alone (undisturbed : Undisturbed campaignId before m)
    (alone : Alone campaignId template m last) : Undisturbed campaignId before last := by
  induction alone with
  | refl => exact undisturbed
  | tail _ goes ih => exact ih.goes goes

end Moment

/-- What is left of a delivery that was done in one go: a posting for each of the customers at the
front. -/
structure Delivered (campaignId template : String) (customers : List Value)
    (postings : List Posting) (o : Office) (result : Except Setback (List String))
    (after : Office) : Prop where
  addresses : List.Forall₂ (Addresses template) (customers.take postings.length) postings
  drawn : ∀ posting ∈ postings, ∃ number, posting.logId = Office.identifier number
  ids : (Office.identifier o.drawn :: postings.map Posting.logId).Nodup
  logs : o.Queues .logs (postings.map (logChange o.clock campaignId)) after
  others : ∀ c, c ≠ .logs → after.processor c = o.processor c
  frame : ∃ drawn processors, after = { o with
    drawn := drawn
    processors := processors
    vendor := o.vendor.sendAll postings }
  returns : ∀ ids, result = .ok ids → postings.length = customers.length ∧
    ids = postings.map Posting.logId
  stops : ∀ setback, result = .error setback →
    Halts template customers postings.length after setback

/-- A delivery that is done in one go serves the customers at the front, whether it
returns or stops. -/
theorem delivered_of_deliverAll
    (ran : Task.perform (deliverAll campaignId template customers) o = (result, after)) :
    ∃ postings, Delivered campaignId template customers postings o result after := by
  rw [← desk_stationOf .logs o] at ran
  obtain ⟨last, alone, ends⟩ := Moment.exists_ends_of_deliverAll [] [] ran
  have ends : Moment.Ends campaignId template last result after := by cases result <;> exact ends
  have kept := (Moment.kept_start campaignId template customers (stationOf .logs o)).alone alone
  obtain ⟨logs, others, processors, frame⟩ :=
    (Moment.undisturbed_start campaignId customers (stationOf .logs o)).alone alone
  rw [ends.logged_eq] at logs frame
  rw [desk_stationOf] at logs others frame
  obtain ⟨drawn, afterEq⟩ := ends.exists_drawn
  obtain ⟨addresses, distinct, drawnIds⟩ := kept.front ends
  refine ⟨last.handed.map Service.posting, {
    addresses := by rwa [List.length_map]
    drawn := drawnIds
    ids := distinct
    logs := ?_
    others := fun c notLogs => ?_
    frame := ⟨drawn, processors, by rw [afterEq, frame]⟩
    returns := fun ids returned => ?_
    stops := fun setback stopped => ?_ }⟩
  · rw [List.map_map]
    exact logs.congr rfl (by rw [afterEq]; rfl)
  · rw [← others c notLogs, afterEq]
    rfl
  · subst returned
    rw [List.length_map, List.map_map]
    exact kept.returns ends
  · subst stopped
    rw [List.length_map]
    exact kept.halts ends

end Outreach.Delivery
