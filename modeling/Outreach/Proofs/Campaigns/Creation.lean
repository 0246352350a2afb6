import Outreach.Campaigns
import Outreach.Proofs.Delivery.Prefix

/-!
# Creating a campaign

The audience of a new campaign is found once. The logs, the messages to the vendor, the two sizes
that are queued and the answer are all made from it, so their counts agree. This is so whatever goes
on beside the creation while it waits for the vendor.
-/

namespace Outreach.Campaigns

open Delivery (Addressable Addresses Diary Moment Posting Service logChange)
open Delivery.Moment (Ends Passes start)
open Store (Row)
open Writes (Write)

variable {o after : Office}

/-! ## The size of the audience -/

/-- The change of a campaign or a segment to the size of an audience. -/
def sizeChange (id : String) (size : Nat) : String × Writes.Patch :=
  (id, .ofFields [("audience_size", .int size)])

/-- What it leaves behind to queue the size of an audience. -/
structure SizeQueued (campaignId segmentId : String) (size : Nat) (o after : Office) : Prop where
  campaigns : o.Queues .campaigns [sizeChange campaignId size] after
  segments : o.Queues .segments [sizeChange segmentId size] after
  others : ∀ c, c ≠ .campaigns → c ≠ .segments → after.processor c = o.processor c
  frame : ∃ processors, after = { o with processors := processors }

theorem sizeQueued_of_queueSize {campaignId segmentId : String} {audience : List Value}
    {done : Unit}
    (ran : Task.perform (queueSize campaignId segmentId audience) o = (.ok done, after)) :
    SizeQueued campaignId segmentId audience.length o after := by
  obtain ⟨_, middle, first, second⟩ := Task.perform_bind_eq_ok_iff.mp ran
  have campaign := Task.queuesOne_of_queueWrite first
  have segment := Task.queuesOne_of_queueWrite second
  obtain ⟨_, middleEq⟩ := campaign.frame
  obtain ⟨processors, afterEq⟩ := segment.frame
  refine ⟨?_, ?_, ?_, processors, by rw [afterEq, middleEq]⟩
  · exact campaign.queues.congr rfl (segment.others _ (by decide))
  · exact segment.queues.congr (campaign.others _ (by decide)).symm rfl
  · intro c notCampaigns notSegments
    rw [segment.others c notSegments, campaign.others c notCampaigns]

/-! ## The answer -/

/-- The answer to a new campaign shows its identifier, the size of its audience,
and as many names. -/
structure Answers (campaignId : String) (size : Nat) (response : Value) : Prop where
  id : (response.field "campaign").field "id" = .text campaignId
  audienceSize : (response.field "campaign").field "audience_size" = .int size
  audienceNames : ∃ names, response.field "audience_names" = .list names ∧ names.length = size

theorem answers_of_shown {created : Created} {response : Value}
    (ran : Task.perform created.shown o = (.ok response, after)) :
    Answers (textField "id" created.campaign) created.audience.length response ∧ after = o := by
  obtain ⟨seen, middle, presented, given⟩ := Task.perform_bind_eq_ok_iff.mp ran
  obtain ⟨rfl, rfl⟩ := Task.perform_pure_eq_ok_iff.mp given
  obtain ⟨valid, rfl⟩ := Task.perform_present_eq_ok_iff.mp presented
  obtain ⟨more, rfl⟩ := Form.shows_id valid
  have campaignEq : ∀ campaign names, (Value.map [("campaign", .map campaign),
      ("audience_names", names)]).field "campaign" = .map campaign := fun _ _ => rfl
  refine ⟨⟨?_, ?_, namesOf created.audience, rfl, List.length_map _⟩, rfl⟩
  · rw [campaignEq, Value.field, Keyed.get?_put_of_ne (by decide)]
    rfl
  · rw [campaignEq, Value.field, Keyed.get?_put_self]
    rfl

/-! ## Announcing a campaign -/

/-- What it leaves behind to announce a campaign: it is stored under a new identifier, its audience
is found, and two sizes are queued. -/
structure Announced (campaign : Form.NewCampaign) (rules : Value) (created : Created)
    (members : List Row) (o announced : Office) : Prop where
  id : textField "id" created.campaign = Office.identifier (o.drawn + 1)
  finds : Task.Finds rules (o.table .customers) members created.audience
  stored : ∃ row, (announced.table .campaigns).row? (Office.identifier (o.drawn + 1)) = some row
  campaignSize : o.Queues .campaigns
    [sizeChange (Office.identifier (o.drawn + 1)) created.audience.length] announced
  segmentSize : o.Queues .segments [sizeChange campaign.segmentId created.audience.length] announced
  others : ∀ c, c ≠ .campaigns → c ≠ .segments → announced.processor c = o.processor c
  frame : ∃ tables processors, announced = { o with
    drawn := o.drawn + 1
    tables := tables
    processors := processors }

theorem announced_of_announce {campaign : Form.NewCampaign} {created : Created} {announced : Office}
    (ran : Task.perform (announce campaign) o = (.ok created, announced)) :
    ∃ row segment members, (o.table .segments).row? campaign.segmentId = some row ∧
      (o.table .segments).readRow row = .ok segment ∧
      Announced campaign (fieldOf "rules" segment) created members o announced := by
  unfold announce Segments.find at ran
  simp only [Task.perform_bind_eq_ok_iff, Task.perform_demand_eq_ok_iff,
    Task.perform_pure_eq_ok_iff] at ran
  obtain ⟨segment, o, ⟨row, rowEq, read, rfl⟩, fields, _, insertRan, audience, stored, audienceRan,
    _, _, sizeRan, rfl, rfl⟩ := ran
  obtain ⟨rfl, members, finds⟩ := Task.finds_of_audience audienceRan
  have inserted := Task.inserted_of_insert insertRan
  have sizes := sizeQueued_of_queueSize sizeRan
  obtain ⟨tables, storedEq⟩ := inserted.frame
  obtain ⟨processors, announcedEq⟩ := sizes.frame
  have processorEq (c : Collection) : o.processor c = stored.processor c := by rw [storedEq]; rfl
  have customersEq : stored.table .customers = o.table .customers := by
    rw [storedEq]
    simp [Office.table]
  rw [textField_id_of_readRow read, Store.Table.row?_id rowEq, inserted.id] at sizes
  rw [customersEq] at finds
  refine ⟨row, segment, members, rowEq, read, inserted.id, finds, ?_, ?_, ?_, ?_, ?_⟩
  · obtain ⟨campaignRow, found, -⟩ := inserted.stored
    refine ⟨campaignRow, ?_⟩
    rw [announcedEq]
    exact found
  · exact sizes.campaigns.congr (processorEq _) rfl
  · exact sizes.segments.congr (processorEq _) rfl
  · intro c notCampaigns notSegments
    rw [sizes.others c notCampaigns notSegments, ← processorEq]
  · exact ⟨_, processors, by rw [announcedEq, storedEq]⟩

/-- Messages of a campaign for the members of its audience: these are the stored customers of whose
record the rules are true, in the order in which they were created, and each of them has one
message, made for it and under an identifier of its own. -/
structure Addressed (campaign : Form.NewCampaign) (rules : Value) (campaignId : String)
    (members : List Row) (postings : List Posting) (o : Office) : Prop where
  everyone : members.Perm
    ((o.table .customers).rows.filter (Audience.reaches rules (o.table .customers)))
  ordered : members.Pairwise Row.CreatedBefore
  recipients : postings.map Posting.customerId = members.map Row.id
  messages : ∃ records, List.Forall₂ (Audience.IsRecordOf (o.table .customers)) members records ∧
    List.Forall₂ (Addresses campaign.content.body) records postings
  ids : (campaignId :: postings.map Posting.logId).Nodup
  encoded : Addressable (o.table .customers) → ∀ posting ∈ postings, posting.isUnencodable = false

theorem Announced.addressed {campaign : Form.NewCampaign} {rules : Value} {created : Created}
    {members : List Row} {announced : Office} {postings : List Posting}
    (announces : Announced campaign rules created members o announced)
    (templatePlain : Text.hasLoneSurrogate campaign.content.body = false)
    (addresses : List.Forall₂ (Addresses campaign.content.body) created.audience postings)
    (ids : (Office.identifier (o.drawn + 1) :: postings.map Posting.logId).Nodup)
    (drawn : ∀ posting ∈ postings, ∃ number, posting.logId = Office.identifier number) :
    Addressed campaign rules (Office.identifier (o.drawn + 1)) members postings o where
  everyone := announces.finds.all
  ordered := announces.finds.ordered
  recipients := Delivery.customerIds_eq addresses announces.finds.records
  messages := ⟨_, announces.finds.records, addresses⟩
  ids := ids
  encoded addressable := by
    refine Delivery.encoded_of_addresses addresses announces.finds.records
      (fun member memberMem => ?_)
      addressable templatePlain drawn
    exact List.mem_of_mem_filter (announces.finds.all.mem_iff.mp memberMem)

/-! ## The whole creation -/

/-- A campaign that was created in one go has reached the members of its audience: each of
them has one log on its way and one message, and nobody else has. The sizes that are
queued are their number. -/
structure Reached (campaign : Form.NewCampaign) (rules : Value) (campaignId : String)
    (members : List Row) (postings : List Posting) (o after : Office) : Prop
    extends Addressed campaign rules campaignId members postings o where
  stored : ∃ row, (after.table .campaigns).row? campaignId = some row
  logs : o.Queues .logs (postings.map (logChange o.clock campaignId)) after
  campaignSize : o.Queues .campaigns [sizeChange campaignId postings.length] after
  segmentSize : o.Queues .segments [sizeChange campaign.segmentId postings.length] after
  sent : after.vendor = o.vendor.sendAll postings
  posted : ∀ address, o.vendor.enabled = true → o.vendor.address = .ok address →
    Addressable (o.table .customers) → after.vendor.postings = o.vendor.postings ++ postings

/-- What an announced campaign comes to when its delivery returns in one go. -/
theorem Announced.reached {campaign : Form.NewCampaign} {rules : Value} {created : Created}
    {members : List Row} {announced : Office} {postings : List Posting} {ids : List String}
    (announces : Announced campaign rules created members o announced)
    (templatePlain : Text.hasLoneSurrogate campaign.content.body = false)
    (delivered : Delivery.Delivered (textField "id" created.campaign) campaign.content.body
      created.audience postings announced (.ok ids) after) :
    Reached campaign rules (Office.identifier (o.drawn + 1)) members postings o after ∧
      postings.length = created.audience.length := by
  obtain ⟨length, -⟩ := delivered.returns ids rfl
  obtain ⟨tables, processors, announcedEq⟩ := announces.frame
  obtain ⟨drawn, lastProcessors, afterEq⟩ := delivered.frame
  have addresses := delivered.addresses
  have distinct := delivered.ids
  have logs := delivered.logs
  have campaignSize := announces.campaignSize
  have segmentSize := announces.segmentSize
  rw [length, List.take_length] at addresses
  rw [show announced.drawn = o.drawn + 1 by rw [announcedEq]] at distinct
  rw [announces.id, show announced.clock = o.clock by rw [announcedEq]] at logs
  rw [← length] at campaignSize segmentSize
  have addressed := announces.addressed templatePlain addresses distinct delivered.drawn
  have sent : after.vendor = o.vendor.sendAll postings := by rw [afterEq, announcedEq]
  refine ⟨{ addressed with
    stored := ?_
    logs := logs.congr (announces.others _ (by decide) (by decide)).symm rfl
    campaignSize := campaignSize.congr rfl (delivered.others _ (by decide))
    segmentSize := segmentSize.congr rfl (delivered.others _ (by decide))
    sent := sent
    posted := fun address enabled addressEq addressable => ?_ }, length⟩
  · rw [afterEq]
    exact announces.stored
  · rw [sent]
    exact Delivery.Vendor.sendAll_postings enabled addressEq (addressed.encoded addressable)

/-- A creation that returns while other things go on beside it: the campaign is announced, and then
its delivery passes to a last moment, where it returns. -/
structure CreatesMeanwhile (campaign : Form.NewCampaign) (before : Station .logs)
    (announced : Office) (last : Moment) (response : Value) (after : Office) : Prop where
  steps : ∃ created ids, Task.perform (announce campaign) before.desk = (.ok created, announced) ∧
    Passes (textField "id" created.campaign) campaign.content.body
      (start created.audience (before.served announced)) last ∧
    Ends (textField "id" created.campaign) campaign.content.body last (.ok ids) after ∧
    Task.perform created.shown after = (.ok response, after)

/-- A campaign has reached the members of its audience, whatever went on beside: the sizes that were
queued when it was announced are their number, and all that the delivery itself did is to queue one
log and then to hand over one message for each of them. -/
structure ReachedMeanwhile (campaign : Form.NewCampaign) (rules : Value) (campaignId : String)
    (members : List Row) (served : List Service) (diary : Diary) (o announced after : Office) : Prop
    extends Addressed campaign rules campaignId members (served.map Service.posting) o where
  stored : ∃ row, (announced.table .campaigns).row? campaignId = some row
  campaignSize : o.Queues .campaigns [sizeChange campaignId served.length] announced
  segmentSize : o.Queues .segments [sizeChange campaign.segmentId served.length] announced
  own : diary.own = served.flatMap (Service.events campaignId)
  accepted : (after.processor .logs).accepted.map Write.change =
    (o.processor .logs).accepted.map Write.change ++ diary.changes
  sent : after.vendor = o.vendor.sendAll diary.postings

theorem CreatesMeanwhile.reached {campaign : Form.NewCampaign} {before : Station .logs}
    {announced : Office} {last : Moment} {response : Value}
    (creates : CreatesMeanwhile campaign before announced last response after)
    (regular : Store.Regular before.coalescer)
    (templatePlain : Text.hasLoneSurrogate campaign.content.body = false) :
    ∃ row segment members, (before.desk.table .segments).row? campaign.segmentId = some row ∧
      (before.desk.table .segments).readRow row = .ok segment ∧
      ReachedMeanwhile campaign (fieldOf "rules" segment)
        (Office.identifier (before.desk.drawn + 1)) members last.handed last.diary before.desk
        announced after ∧
      Answers (Office.identifier (before.desk.drawn + 1)) last.handed.length response := by
  obtain ⟨created, ids, announceRan, passes, ends, shown⟩ := creates.steps
  obtain ⟨row, segment, members, rowEq, read, announces⟩ := announced_of_announce announceRan
  obtain ⟨tables, processors, announcedEq⟩ := announces.frame
  obtain ⟨answers, -⟩ := answers_of_shown shown
  -- The announcement leaves the coalescer of the logs alone.
  have sameProcessor : announced.processor .logs = before.coalescer.processor :=
    (announces.others _ (by decide) (by decide)).trans before.desk_processor
  have regular : Store.Regular (before.served announced).coalescer := by
    rw [before.served_of_processor_eq sameProcessor]
    exact regular
  have kept :=
    (Moment.kept_start _ _ created.audience (before.served announced)).passes regular passes
  have front := kept.servesFront ends
  obtain ⟨length, -⟩ := front.returns ids rfl
  obtain ⟨addresses, distinct, drawn⟩ := kept.front ends
  rw [length, List.take_length] at addresses
  rw [show (before.served announced).office.drawn = before.desk.drawn + 1 from
    congrArg Office.drawn announcedEq] at distinct
  have campaignSize := announces.campaignSize
  have segmentSize := announces.segmentSize
  rw [← length] at campaignSize segmentSize
  rw [announces.id, ← length] at answers
  have own := front.own
  rw [announces.id] at own
  have sameAccepted : (before.served announced).coalescer.processor = before.desk.processor .logs :=
    sameProcessor.trans before.desk_processor.symm
  refine ⟨row, segment, members, rowEq, read,
    { announces.addressed templatePlain addresses distinct drawn with
    stored := announces.stored
    campaignSize := campaignSize
    segmentSize := segmentSize
    own := own
    accepted := by rw [front.accepted, sameAccepted]
    sent := by
      rw [front.sent, ← show announced.vendor = before.desk.vendor by rw [announcedEq]]
      rfl }, answers⟩

/-- A campaign reaches exactly the audience of its segment. This is so when it is created in one go,
and also when other things go on while it is delivered. -/
theorem create_reaches_audience {place : Form.Place} {value : Value} {campaign : Form.NewCampaign}
    (checked : Form.NewCampaign.check place value = .valid campaign) :
    (∀ {o after : Office} {response : Value},
      Task.perform (create campaign >>= Created.shown) o = (.ok response, after) →
      ∃ row segment members postings, (o.table .segments).row? campaign.segmentId = some row ∧
        (o.table .segments).readRow row = .ok segment ∧
        Reached campaign (fieldOf "rules" segment) (Office.identifier (o.drawn + 1)) members
          postings o after ∧
        Answers (Office.identifier (o.drawn + 1)) postings.length response) ∧
    ∀ {before : Station .logs} {announced : Office} {last : Moment} {response : Value}
      {after : Office},
      Store.Regular before.coalescer →
      CreatesMeanwhile campaign before announced last response after →
      ∃ row segment members, (before.desk.table .segments).row? campaign.segmentId = some row ∧
        (before.desk.table .segments).readRow row = .ok segment ∧
        ReachedMeanwhile campaign (fieldOf "rules" segment)
          (Office.identifier (before.desk.drawn + 1)) members last.handed last.diary before.desk
          announced after ∧
        Answers (Office.identifier (before.desk.drawn + 1)) last.handed.length response := by
  have templatePlain := Form.hasLoneSurrogate_body checked
  refine ⟨fun created => ?_, fun regular creates => creates.reached regular templatePlain⟩
  obtain ⟨created, _, ran, shown⟩ := Task.perform_bind_eq_ok_iff.mp created
  obtain ⟨answers, rfl⟩ := answers_of_shown shown
  unfold create at ran
  obtain ⟨_, announced, announceRan, ran⟩ := Task.perform_bind_eq_ok_iff.mp ran
  obtain ⟨ids, _, deliveryRan, returned⟩ := Task.perform_bind_eq_ok_iff.mp ran
  obtain ⟨rfl, rfl⟩ := Task.perform_pure_eq_ok_iff.mp returned
  obtain ⟨row, segment, members, rowEq, read, announces⟩ := announced_of_announce announceRan
  obtain ⟨postings, delivered⟩ := Delivery.delivered_of_deliverAll deliveryRan
  obtain ⟨reached, length⟩ := announces.reached templatePlain delivered
  rw [announces.id, ← length] at answers
  exact ⟨row, segment, members, postings, rowEq, read, reached, answers⟩

/-! ## A newsletter -/

/-- A reader with a number of visits. -/
def reader (id name : String) (visits : Int) : Row :=
  ⟨id, [("name", some (.text name)), ("email", some (.text (id ++ "@readers"))),
    ("total_spend", some (.float 0.0)), ("visits", some (.int visits)),
    ("last_active", some (.time (.midnight ⟨2026, 1, 1⟩))),
    ("created_at", some (.time (.midnight ⟨2026, 1, 1⟩)))], []⟩

/-- The segment of readers with more than two visits. -/
def regulars : Row :=
  ⟨"regulars", [("name", some (.text "Regulars")),
    ("rules", some (.map [("field", .text "visits"), ("operator", .text ">"), ("value", .int 2)])),
    ("creator", some (.text "editor")), ("audience_size", some (.int 0))], []⟩

/-- The readers of a small newsroom. Only the first of them is a regular. -/
def readers : List Row := [reader "ada" "Ada" 3, reader "bob" "Bob" 1]

/-- An office with two readers and one segment. -/
def newsroom : Office :=
  let config := (Writes.Config.make? 10 500 none 3 none).toOption.getD .standard
  let opened := Office.opened (.midnight ⟨2026, 1, 2⟩) config (.fresh "http://vendor" true [])
  { opened with
    tables := (opened.tables.set .customers ⟨Store.customerSchema, readers⟩).set .segments
      ⟨Store.segmentSchema, [regulars]⟩ }

/-- A campaign for the regulars. -/
def newsletter : Form.NewCampaign :=
  ⟨"News", none, "email", "regulars", ⟨"News", "Dear {name}"⟩, "draft", none, "editor"⟩

/-- The fields of a stored row. -/
def fieldsOf (c : Collection) (row : Row) : Fields :=
  ((newsroom.table c).readRow row).toOption.getD []

/-- The newsroom with the campaign stored, and the campaign. -/
def filed : Except Setback Fields × Office :=
  Task.perform (Task.insert .campaigns
    (described newsletter "regulars" ++ [("creator", .text newsletter.creator)])) newsroom

/-- The campaign as it was stored. -/
def announcement : Fields := filed.1.toOption.getD []

/-- The record of the only regular. -/
def regular : Value := customerRecord (fieldsOf .customers (reader "ada" "Ada" 3))

/-- The newsroom once the campaign is announced. -/
def sized : Office :=
  (Task.perform (queueSize (textField "id" announcement) "regulars" [regular]) filed.2).2

/-- What comes of the campaign once it is announced. -/
def mailed : Except Setback Value × Office :=
  Task.perform (do
    let _ ← Delivery.deliverAll (textField "id" announcement) newsletter.content.body [regular]
    Created.shown ⟨announcement, [regular]⟩) sized

theorem customersByAge_newsroom : Task.customersByAge (newsroom.table .customers) = readers := by
  change Store.oldestFirst "created_at" (Store.byId readers) = readers
  have byId : Store.byId readers = readers := List.mergeSort_of_pairwise (by decide +kernel)
  rw [byId]
  exact List.mergeSort_of_pairwise (by decide +kernel)

theorem newsletter_announced : Task.perform (announce newsletter) newsroom =
    (.ok ⟨announcement, [regular]⟩, sized) := by
  have audienceRan :
      Task.perform (Task.audience (fieldOf "rules" (fieldsOf .segments regulars))) filed.2 =
      (.ok [regular], filed.2) := by
    let found := readers.map (fieldsOf .customers)
    refine Task.perform_audience_eq_ok_iff.mpr ⟨found.map customerRecord, ?_, rfl⟩
    refine Task.perform_population_eq_ok_iff.mpr ⟨rfl, found, ?_, rfl, rfl⟩
    rw [show filed.2.table .customers = newsroom.table .customers from rfl, customersByAge_newsroom]
    rfl
  unfold announce
  refine Task.perform_bind_eq_ok_iff.mpr ⟨fieldsOf .segments regulars, newsroom, rfl, ?_⟩
  refine Task.perform_bind_eq_ok_iff.mpr ⟨announcement, filed.2,
    eq_ok_of_isOk _ (by decide +kernel), ?_⟩
  refine Task.perform_bind_eq_ok_iff.mpr ⟨[regular], filed.2, audienceRan, ?_⟩
  exact Task.perform_bind_eq_ok_iff.mpr ⟨(), sized, eq_ok_of_isOk () (by decide +kernel), rfl⟩

theorem newsletter_mailed : Task.perform (create newsletter >>= Created.shown) newsroom =
    (.ok (mailed.1.toOption.getD .null), mailed.2) := by
  unfold create
  simp only [bind_assoc, pure_bind]
  refine Task.perform_bind_eq_ok_iff.mpr ⟨_, sized, newsletter_announced, ?_⟩
  exact eq_ok_of_isOk .null (by decide +kernel)

theorem addressable_newsroom : Addressable (newsroom.table .customers) where
  schema := rfl
  everyone := by
    have ada : Delivery.Addressee (reader "ada" "Ada" 3) :=
      ⟨by decide +kernel, "Ada", rfl, by decide +kernel⟩
    have bob : Delivery.Addressee (reader "bob" "Bob" 1) :=
      ⟨by decide +kernel, "Bob", rfl, by decide +kernel⟩
    exact List.forall_mem_cons.mpr ⟨ada, List.forall_mem_singleton.mpr bob⟩

/-- The message to the only regular. -/
def adasMessage : Posting := ⟨Office.identifier 2, "ada", "Dear Ada"⟩

/-- The log of the message. -/
def adasLog : String × Writes.Patch :=
  (Office.identifier 2, .ofFields [("id", .text (Office.identifier 2)),
    ("campaign_id", .text (Office.identifier 1)), ("customer_id", .text "ada"),
    ("message", .text "Dear Ada"),
    ("status", .text "PENDING"), ("created_at", .time (.midnight ⟨2026, 1, 2⟩))])

/-- The newsroom once the log is queued. -/
def loggedRoom : Station .logs :=
  let room := (Delivery.stationOf .logs newsroom).served sized
  room.served (Task.perform
    (Delivery.logOne (textField "id" announcement) newsletter.content.body regular) room.desk).2

/-- The log is on its way to the table while the vendor is asked. -/
def flyingRoom : Station .logs :=
  loggedRoom.worked (loggedRoom.coalescer.step (.start 0 .flush)) loggedRoom.table

/-- The newsletter is delivered. -/
def delivered : Moment :=
  ⟨flyingRoom.served (Task.perform (Delivery.post adasMessage) flyingRoom.desk).2, [],
    [⟨newsroom.clock, adasMessage⟩], none, [.inl (.log adasLog), .inl (.message adasMessage)]⟩

theorem newsletter_created_meanwhile : ∃ response after,
    CreatesMeanwhile newsletter (Delivery.stationOf .logs newsroom) sized delivered
    response after := by
  let room := (Delivery.stationOf .logs newsroom).served sized
  have announceRan := newsletter_announced
  rw [← Delivery.desk_stationOf .logs newsroom] at announceRan
  have idEq : textField "id" announcement = Office.identifier 1 := by decide +kernel
  have clockEq : room.office.clock = newsroom.clock := by decide +kernel
  have logRan : Task.perform (Delivery.logOne (textField "id" announcement) newsletter.content.body
      regular) room.desk = (.ok adasMessage, _) := eq_ok_of_isOk adasMessage (by decide +kernel)
  have logs : Moment.Goes (textField "id" announcement) newsletter.content.body
      (start [regular] room) ⟨loggedRoom, [], [], some ⟨newsroom.clock, adasMessage⟩,
        [.inl (Service.log (textField "id" announcement) ⟨newsroom.clock, adasMessage⟩)]⟩ := by
    rw [← clockEq]
    exact .logs logRan
  have passes : Passes (textField "id" announcement) newsletter.content.body (start [regular] room)
      delivered := by
    rw [idEq] at logs ⊢
    refine .tail (.tail (.tail .refl (.inl logs)) (.inr (.works ?_))) (.inl (.hands ?_))
    · exact .work (.start 0 .flush) not_false not_false
    · rfl
  have shown : ((Task.perform (Created.shown ⟨announcement, [regular]⟩)
      delivered.station.desk).1).isOk = true := by
    decide +kernel
  exact ⟨_, _, ⟨_, _, announceRan, passes, .returns, eq_ok_of_isOk .null shown⟩⟩

/-- A newsletter for two readers, of whom one is a regular, in one go and with a flush beside it. -/
theorem newsletter_reaches_ada :
    (∃ response after, Task.perform (create newsletter >>= Created.shown) newsroom =
      (.ok response, after) ∧
      newsroom.Queues .logs [adasLog] after ∧ after.vendor.postings = [adasMessage] ∧
      newsroom.Queues .segments [sizeChange "regulars" 1] after ∧
      (response.field "campaign").field "audience_size" = .int 1) ∧
    ∃ response after,
      CreatesMeanwhile newsletter (Delivery.stationOf .logs newsroom) sized delivered
      response after ∧
      (after.processor .logs).accepted.map Write.change = [adasLog] ∧
      after.vendor.postings = [adasMessage] ∧
      newsroom.Queues .segments [sizeChange "regulars" 1] sized ∧
      (response.field "campaign").field "audience_size" = .int 1 := by
  have checked : Form.NewCampaign.check .top newsletter.toValue = .valid newsletter := rfl
  obtain ⟨inOneGo, meanwhile⟩ := create_reaches_audience checked
  constructor
  · obtain ⟨row, segment, members, postings, rowEq, read, reached, answers⟩ :=
      inOneGo newsletter_mailed
    have posted := reached.posted _ rfl rfl addressable_newsroom
    have postingsEq : postings = [adasMessage] := by
      rw [← List.nil_append postings, ← show newsroom.vendor.postings = [] from rfl, ← posted]
      decide +kernel
    rw [postingsEq] at reached posted answers
    exact ⟨_, _, newsletter_mailed, reached.logs, posted, reached.segmentSize, answers.audienceSize⟩
  · obtain ⟨response, after, created⟩ := newsletter_created_meanwhile
    have regular : Store.Regular (Delivery.stationOf .logs newsroom).coalescer :=
      Store.idle_regular "communication_logs" (newsroom.processor .logs).config
    obtain ⟨row, segment, members, rowEq, read, reached, answers⟩ := meanwhile regular created
    refine ⟨response, after, created, reached.accepted, ?_, reached.segmentSize,
      answers.audienceSize⟩
    rw [reached.sent]
    decide +kernel

end Outreach.Campaigns
