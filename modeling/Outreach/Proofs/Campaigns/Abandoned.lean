import Outreach.Proofs.Campaigns.Creation

/-!
# Campaigns that could not be created

When a new campaign fails, the tables are as before. The writes that were queued by then stay
queued, and the messages that were handed to the vendor by then cannot be called back. So the
failure has no effect only if it comes before the size of the audience is queued for the campaign;
after that there is a size for a campaign that does not exist, and there can be logs of it and
messages to the first members of its audience.
-/

namespace Outreach.Campaigns

open Delivery (Addresses Halts Posting logChange)

variable {campaign : Form.NewCampaign} {audience : List Value} {o after : Office}
    {setback : Setback}

/-! ## What a failure leaves behind -/

/-- The creation of a campaign gets so far as to queue the size of its audience: the segment is
stored, the campaign can be stored, the audience is found, and the campaigns take a write. -/
structure Starts (campaign : Form.NewCampaign) (audience : List Value) (o : Office) : Prop where
  found : ∃ row segment, (o.table .segments).row? campaign.segmentId = some row ∧
    (o.table .segments).readRow row = .ok segment ∧
    Task.perform (Task.audience (fieldOf "rules" segment)) o = (.ok audience, o)
  stored : ∃ row stored, Task.perform (Task.insert .campaigns
    (described campaign campaign.segmentId ++ [("creator", .text campaign.creator)])) o =
    (.ok row, stored)
  campaigns : (o.processor .campaigns).Accepts

/-- What is left of a campaign that could not be created. -/
inductive Leaves (campaign : Form.NewCampaign) (o : Office) (setback : Setback)
    (after : Office) : Prop
  | nothing (notStarted : ∀ audience, ¬Starts campaign audience o)
      (processors : after.processors = o.processors) (vendor : after.vendor = o.vendor)
  | size {audience : List Value} (starts : Starts campaign audience o)
      (refuses : ¬(o.processor .segments).Accepts)
      (campaignSize : o.Queues .campaigns
        [sizeChange (Office.identifier (o.drawn + 1)) audience.length] after)
      (others : ∀ c, c ≠ .campaigns → after.processor c = o.processor c)
      (vendor : after.vendor = o.vendor)
  | messages {audience : List Value} {served : List Posting} (starts : Starts campaign audience o)
      (accepts : (o.processor .segments).Accepts)
      (campaignSize : o.Queues .campaigns
        [sizeChange (Office.identifier (o.drawn + 1)) audience.length] after)
      (segmentSize : o.Queues .segments [sizeChange campaign.segmentId audience.length] after)
      (logs : o.Queues .logs (served.map (logChange o.clock (Office.identifier (o.drawn + 1))))
        after)
      (others : ∀ c, c ≠ .campaigns → c ≠ .segments → c ≠ .logs → after.processor c = o.processor c)
      (addresses : List.Forall₂ (Addresses campaign.content.body) (audience.take served.length)
        served)
      (sent : after.vendor = o.vendor.sendAll served)
      (stops : served.length = audience.length ∨
        Halts campaign.content.body audience served.length after setback)

/-- The tables have no part in it. -/
theorem Leaves.withTables (leaves : Leaves campaign o setback after)
    (tables : PerCollection Store.Table) :
    Leaves campaign o setback { after with tables := tables } := by
  cases leaves with
  | nothing notStarted processors vendor => exact .nothing notStarted processors vendor
  | size starts refuses campaignSize others vendor =>
      exact .size starts refuses (campaignSize.congr rfl rfl) others vendor
  | messages starts accepts campaignSize segmentSize logs others addresses sent stops =>
      refine .messages starts accepts (campaignSize.congr rfl rfl) (segmentSize.congr rfl rfl)
        (logs.congr rfl rfl) others addresses sent (stops.imp_right fun halts => ?_)
      cases halts with
      | malformed next faulty => exact .malformed next faulty
      | refused next refuses => exact .refused next refuses

/-- The sizes of an audience that could not be queued: the size for the campaign was refused, or
that for the segment was. -/
theorem sizes_of_queueSize {campaignId segmentId : String}
    (failed : Task.perform (queueSize campaignId segmentId audience) o = (.error setback, after)) :
    ¬(o.processor .campaigns).Accepts ∧ after = o ∨
      (o.processor .campaigns).Accepts ∧ ¬(o.processor .segments).Accepts ∧
        Task.QueuesOne .campaigns campaignId (sizeChange campaignId audience.length).2 o after := by
  rcases Task.perform_bind_eq_error_iff.mp failed with campaignRan |
    ⟨_, middle, campaignRan, segmentRan⟩
  · exact .inl (Task.refuses_of_queueWrite campaignRan)
  · have one := Task.queuesOne_of_queueWrite campaignRan
    obtain ⟨refuses, rfl⟩ := Task.refuses_of_queueWrite segmentRan
    rw [one.others _ (by decide)] at refuses
    exact .inr ⟨Task.accepts_of_queueWrite campaignRan, refuses, one⟩

theorem accepts_of_queueSize {campaignId segmentId : String} {done : Unit}
    (ran : Task.perform (queueSize campaignId segmentId audience) o = (.ok done, after)) :
    (o.processor .campaigns).Accepts ∧ (o.processor .segments).Accepts := by
  obtain ⟨_, middle, campaignRan, segmentRan⟩ := Task.perform_bind_eq_ok_iff.mp ran
  have accepts := Task.accepts_of_queueWrite segmentRan
  rw [(Task.queuesOne_of_queueWrite campaignRan).others _ (by decide)] at accepts
  exact ⟨Task.accepts_of_queueWrite campaignRan, accepts⟩

/-- Showing a campaign changes nothing, also when it fails. -/
theorem perform_shown_eq_error {created : Created}
    (failed : Task.perform created.shown o = (.error setback, after)) : after = o := by
  rcases Task.perform_bind_eq_error_iff.mp failed with unpresented | ⟨_, _, _, given⟩
  · exact Task.perform_present_eq_error unpresented
  · exact absurd given Task.perform_pure_ne_error

/-- A delivery and its answer that fail: some customers at the front have been served, and either
these are all, or it stops there. -/
theorem served_of_deliverAll {campaignId template : String} {created : Created}
    (failed : Task.perform (Delivery.deliverAll campaignId template audience >>= fun _ =>
      created.shown) o =
      (.error setback, after)) :
    ∃ served result, Delivery.Delivered campaignId template audience served o result after ∧
      (served.length = audience.length ∨ Halts template audience served.length after setback) := by
  rcases Task.perform_bind_eq_error_iff.mp failed with stopped | ⟨ids, middle, returned, unshown⟩
  · obtain ⟨served, delivered⟩ := Delivery.delivered_of_deliverAll stopped
    exact ⟨served, _, delivered, .inr (delivered.stops setback rfl)⟩
  · obtain rfl := perform_shown_eq_error unshown
    obtain ⟨served, delivered⟩ := Delivery.delivered_of_deliverAll returned
    exact ⟨served, _, delivered, .inl (delivered.returns ids rfl).1⟩

/-- What is left when a campaign fails after its audience was found. -/
theorem leaves_of_found {created : Created} {tables : PerCollection Store.Table} {stored : Office}
    (storedEq : stored = { o with drawn := o.drawn + 1, tables := tables })
    (starts : (o.processor .campaigns).Accepts → Starts campaign audience o)
    (failed : Task.perform (do
      queueSize (Office.identifier (o.drawn + 1)) campaign.segmentId audience
      let _ ← Delivery.deliverAll (Office.identifier (o.drawn + 1)) campaign.content.body audience
      created.shown) stored = (.error setback, after)) :
    Leaves campaign o setback after := by
  have processorEq (c : Collection) : stored.processor c = o.processor c := by
    rw [storedEq]
    rfl
  rcases Task.perform_bind_eq_error_iff.mp failed with unsized | ⟨_, sized, sizeRan, undelivered⟩
  · rcases sizes_of_queueSize unsized with ⟨refuses, rfl⟩ | ⟨accepts, refuses, one⟩
    · rw [processorEq] at refuses
      exact .nothing (fun _ starts => refuses starts.campaigns) (by rw [storedEq])
        (by rw [storedEq])
    · rw [processorEq] at accepts refuses
      obtain ⟨processors, afterEq⟩ := one.frame
      refine .size (starts accepts) refuses ?_ ?_ ?_
      · exact one.queues.congr (processorEq _).symm rfl
      · intro c notCampaigns
        rw [one.others c notCampaigns, processorEq]
      · rw [afterEq, storedEq]
  · obtain ⟨accepts, segmentsAccept⟩ := accepts_of_queueSize sizeRan
    rw [processorEq] at accepts segmentsAccept
    have sizes := sizeQueued_of_queueSize sizeRan
    obtain ⟨processors, sizedEq⟩ := sizes.frame
    obtain ⟨served, result, delivered, stops⟩ := served_of_deliverAll undelivered
    obtain ⟨drawn, lastProcessors, afterEq⟩ := delivered.frame
    have logs := delivered.logs
    rw [show sized.clock = o.clock by rw [sizedEq, storedEq]] at logs
    refine .messages (starts accepts) segmentsAccept ?_ ?_ ?_ ?_ delivered.addresses ?_ stops
    · exact sizes.campaigns.congr (processorEq _).symm (delivered.others _ (by decide))
    · exact sizes.segments.congr (processorEq _).symm (delivered.others _ (by decide))
    · exact logs.congr (by rw [sizes.others _ (by decide) (by decide), processorEq]) rfl
    · intro c notCampaigns notSegments notLogs
      rw [delivered.others c notLogs, sizes.others c notCampaigns notSegments, processorEq]
    · rw [afterEq, sizedEq, storedEq]

/-- Whatever a failed creation leaves is one of the three: its parts are gone through in the order
in which they are done, and each of them may be the one that fails. -/
theorem leaves_of_create (failed : Task.perform (create campaign >>= Created.shown) o =
      (.error setback, after)) :
    Leaves campaign o setback after := by
  unfold create announce Segments.find at failed
  simp only [bind_assoc, pure_bind] at failed
  rcases Task.perform_bind_eq_error_iff.mp failed with unread | ⟨segment, o, segmentRan, afterFind⟩
  · obtain ⟨unreadable, rfl⟩ := Task.perform_demand_eq_error unread
    refine .nothing (fun audience starts => ?_) rfl rfl
    obtain ⟨row, segment, rowEq, read, -⟩ := starts.found
    exact unreadable ⟨row, segment, rowEq, read⟩
  obtain ⟨row, rowEq, read, rfl⟩ := Task.perform_demand_eq_ok_iff.mp segmentRan
  rw [textField_id_of_readRow read, Store.Table.row?_id rowEq] at afterFind
  rcases Task.perform_bind_eq_error_iff.mp afterFind with unstored |
    ⟨fields, stored, insertRan, afterInsert⟩
  · obtain ⟨tables, rfl⟩ := Task.perform_insert_eq_error unstored
    refine .nothing (fun audience starts => ?_) rfl rfl
    obtain ⟨_, _, insertRan⟩ := starts.stored
    cases unstored.symm.trans insertRan
  have inserted := Task.inserted_of_insert insertRan
  obtain ⟨t, storedEq⟩ := inserted.frame
  have sameOutage : stored.outage = o.outage := by rw [storedEq]
  have sameCustomers : stored.table .customers = o.table .customers := by
    rw [storedEq]
    simp [Office.table]
  rw [inserted.id] at afterInsert
  rcases Task.perform_bind_eq_error_iff.mp afterInsert with unfound |
    ⟨audience, _, audienceRan, afterAudience⟩
  · obtain rfl := Task.perform_audience_eq_error unfound
    refine .nothing (fun audience starts => ?_) (by rw [storedEq]) (by rw [storedEq])
    obtain ⟨otherRow, otherSegment, otherEq, otherRead, found⟩ := starts.found
    cases rowEq.symm.trans otherEq
    cases read.symm.trans otherRead
    -- The campaign that has been stored by then does not change who is found.
    cases unfound.symm.trans ((Task.perform_audience_congr sameOutage sameCustomers).mpr found)
  · obtain ⟨rfl, -⟩ := Task.finds_of_audience audienceRan
    have found := (Task.perform_audience_congr sameOutage sameCustomers).mp audienceRan
    refine leaves_of_found storedEq (fun accepts => ?_) afterAudience
    exact ⟨⟨row, segment, rowEq, read, found⟩, ⟨fields, _, insertRan⟩, accepts⟩

/-- The first write that a campaign queues is the size of its audience. -/
theorem Leaves.not_starts_of_accepted_eq (leaves : Leaves campaign o setback after)
    (same : (after.processor .campaigns).accepted = (o.processor .campaigns).accepted) :
    ∀ audience, ¬Starts campaign audience o := by
  have queuesNone {size : String × Writes.Patch} : ¬o.Queues .campaigns [size] after := by
    intro queues
    have accepted := queues.accepted
    rw [same] at accepted
    simp at accepted
  cases leaves with
  | nothing notStarted => exact notStarted
  | size _ _ campaignSize => exact absurd campaignSize queuesNone
  | messages _ _ campaignSize => exact absurd campaignSize queuesNone

/-- A request for a campaign that fails leaves the tables as they were. It has had no write accepted
and no message handed to the vendor exactly if it has not come to queue the size of the audience;
otherwise that write stays, and so do the size for the segment, the logs and the messages that come
before the failure. -/
theorem abandoned_has_no_effect_iff
    (failed : Task.inOneGo (create campaign >>= Created.shown) o = (.error setback, after)) :
    after.tables = o.tables ∧ Leaves campaign o setback after ∧
      ((∀ c, (after.processor c).accepted = (o.processor c).accepted) ∧ after.vendor = o.vendor ↔
        ∀ audience, ¬Starts campaign audience o) := by
  unfold Task.inOneGo at failed
  split at failed
  · cases failed
  · rename_i ran
    cases failed
    have leaves := (leaves_of_create ran).withTables o.tables
    refine ⟨rfl, leaves, fun ⟨accepted, _⟩ => leaves.not_starts_of_accepted_eq (accepted _),
      fun notStarted => ?_⟩
    cases leaves with
    | nothing _ processors vendor =>
        refine ⟨fun c => ?_, vendor⟩
        rw [Office.processor, processors]
        rfl
    | size starts => exact absurd starts (notStarted _)
    | messages starts => exact absurd starts (notStarted _)

/-! ## A queue with room for one log -/

/-- The segment of all readers with a visit. -/
def everyone : Store.Row :=
  ⟨"everyone", [("name", some (.text "Everyone")),
    ("rules", some (.map [("field", .text "visits"), ("operator", .text ">"), ("value", .int 0)])),
    ("creator", some (.text "editor")), ("audience_size", some (.int 0))], []⟩

/-- An office with two readers, where one write may wait for each table. -/
def annex : Office :=
  let config := (Writes.Config.make? 10 500 (some 1) 3 none).toOption.getD .standard
  let opened := Office.opened (.midnight ⟨2026, 1, 2⟩) config (.fresh "http://vendor" true [])
  { opened with
    tables := (opened.tables.set .customers ⟨Store.customerSchema, readers⟩).set .segments
      ⟨Store.segmentSchema, [everyone]⟩ }

/-- A campaign for all readers. -/
def bulletin : Form.NewCampaign := { newsletter with segmentId := "everyone" }

/-- The fields of the segment. -/
def everyoneRead : Fields := ((annex.table .segments).readRow everyone).toOption.getD []

/-- The annex with the campaign stored, and the campaign. -/
def pinned : Except Setback Fields × Office :=
  Task.perform (Task.insert .campaigns
    (described bulletin "everyone" ++ [("creator", .text bulletin.creator)])) annex

/-- The campaign as it was stored. -/
def pinnedBulletin : Fields := pinned.1.toOption.getD []

/-- The records of all readers. -/
def everyReader : List Value := readers.map fun row => customerRecord (fieldsOf .customers row)

/-- What comes of the campaign once its audience is known. -/
def stuck : Except Setback Value × Office :=
  Task.perform (do
    queueSize (textField "id" pinnedBulletin) "everyone" everyReader
    let _ ← Delivery.deliverAll (textField "id" pinnedBulletin) bulletin.content.body everyReader
    Created.shown ⟨pinnedBulletin, everyReader⟩) pinned.2

theorem audience_pinned :
    Task.perform (Task.audience (fieldOf "rules" everyoneRead)) pinned.2 =
    (.ok everyReader, pinned.2) := by
  let found := readers.map (fieldsOf .customers)
  refine Task.perform_audience_eq_ok_iff.mpr ⟨found.map customerRecord, ?_, rfl⟩
  refine Task.perform_population_eq_ok_iff.mpr ⟨rfl, found, ?_, rfl, rfl⟩
  rw [show pinned.2.table .customers = newsroom.table .customers from rfl, customersByAge_newsroom]
  rfl

theorem bulletin_stuck : ∃ setback,
    Task.inOneGo (create bulletin >>= Created.shown) annex =
      (.error setback, { stuck.2 with tables := annex.tables }) := by
  have ran : Task.perform (create bulletin >>= Created.shown) annex = stuck := by
    have segmentRan : Task.perform (Segments.find bulletin.segmentId) annex =
        (.ok everyoneRead, annex) := rfl
    have insertRan : Task.perform (Task.insert .campaigns
        (described bulletin "everyone" ++ [("creator", .text bulletin.creator)])) annex =
        (.ok pinnedBulletin, pinned.2) := eq_ok_of_isOk _ (by decide +kernel)
    simp only [create, announce, bind_assoc, pure_bind]
    rw [Task.perform_bind, segmentRan]
    simp only [show textField "id" everyoneRead = "everyone" from rfl]
    rw [Task.perform_bind, insertRan]
    simp only
    rw [Task.perform_bind, audience_pinned]
    rfl
  have failed : stuck.1.isOk = false := by decide +kernel
  rcases stuckEq : stuck with ⟨setback | answer, after⟩
  · exact ⟨setback, by rw [Task.inOneGo, ran, stuckEq]⟩
  · rw [stuckEq] at failed
    cases failed

theorem bulletin_starts : ∃ setback after,
    Task.inOneGo (create bulletin >>= Created.shown) annex = (.error setback, after) ∧
      after.tables = annex.tables ∧ ∃ audience, Starts bulletin audience annex := by
  obtain ⟨setback, failed⟩ := bulletin_stuck
  obtain ⟨tables, -, unaffected⟩ := abandoned_has_no_effect_iff failed
  refine ⟨setback, _, failed, tables, ?_⟩
  rw [← not_forall_not, ← unaffected]
  rintro ⟨-, vendor⟩
  have posted : stuck.2.vendor.postings.length = 1 := by decide +kernel
  have unposted : annex.vendor.postings.length = 0 := rfl
  have same : stuck.2.vendor = annex.vendor := vendor
  rw [same, unposted] at posted
  cases posted

/-- A campaign fails and is not stored, and yet its first reader has been written to, and both sizes
and a log are queued. -/
theorem bulletin_reached_ada : ∃ setback after,
    Task.inOneGo (create bulletin >>= Created.shown) annex = (.error setback, after) ∧
      after.tables = annex.tables ∧
      after.vendor.postings.map Posting.customerId = ["ada"] ∧
      (after.processor .campaigns).accepted.map Writes.Write.id = [Office.identifier 1] ∧
      (after.processor .segments).accepted.map Writes.Write.id = ["everyone"] ∧
      (after.processor .logs).accepted.map Writes.Write.id = [Office.identifier 2] := by
  obtain ⟨setback, failed⟩ := bulletin_stuck
  refine ⟨setback, _, failed, rfl, ?_⟩
  decide +kernel

end Outreach.Campaigns
