import Outreach.Proofs.Delivery.Undisturbed

/-!
# Deliveries that stop on the way

However a delivery ends, and whatever goes on beside it, it has served the customers at the front of
the audience: each of them has a log on its way and was written to once, and nobody else was. A
delivery that returns has served everyone. At no moment is a message handed over whose log is not
queued, and no vendor can make any of this different.
-/

namespace Outreach.Delivery

open Moment (Alone Passes Ends Kept start)
open Writes (Write)

variable {campaignId template : String} {customers : List Value} {before : Station .logs}

/-- A delivery that ended has served the customers at the front. -/
structure ServesFront (campaignId template : String) (customers : List Value)
    (before : Station .logs) (served : List Service) (diary : Diary)
    (result : Except Setback (List String)) (after : Office) : Prop where
  addresses : List.Forall₂ (Addresses template) (customers.take served.length)
    (served.map Service.posting)
  ids : (served.map (·.posting.logId)).Nodup
  own : diary.own = served.flatMap (Service.events campaignId)
  accepted : (after.processor .logs).accepted.map Write.change =
    before.coalescer.processor.accepted.map Write.change ++ diary.changes
  sent : after.vendor = before.office.vendor.sendAll diary.postings
  posted : ∀ address, before.office.vendor.enabled = true →
    before.office.vendor.address = .ok address → after.vendor.postings =
      before.office.vendor.postings ++ diary.postings.filter fun posting => !posting.isUnencodable
  unposted : before.office.vendor.enabled = false → after.vendor = before.office.vendor
  returns : ∀ ids, result = .ok ids → served.length = customers.length ∧
    ids = served.map (·.posting.logId)
  stops : ∀ setback, result = .error setback → Halts template customers served.length after setback

namespace Moment

variable {m : Moment} {result : Except Setback (List String)} {after : Office}

/-- What is kept at every moment gives, at the end, a delivery to the customers at the front. -/
theorem Kept.servesFront (kept : Kept campaignId template customers before m)
    (ends : Ends campaignId template m result after) :
    ServesFront campaignId template customers before m.handed m.diary result after := by
  obtain ⟨addresses, distinct, -⟩ := kept.front ends
  rw [List.map_map] at distinct
  obtain ⟨drawn, afterEq⟩ := ends.exists_drawn
  have sent : after.vendor = before.office.vendor.sendAll m.diary.postings := by
    rw [afterEq, ← kept.sent]
    rfl
  exact {
    addresses := addresses
    ids := (List.nodup_cons.mp distinct).2
    own := by
      have own := kept.own
      cases ends <;> simpa using own
    accepted := by
      rw [afterEq, ← kept.accepted]
      exact congrArg (·.accepted.map Write.change) m.station.desk_processor
    sent := sent
    posted := fun address enabled addressEq => by rw [sent,
      Vendor.sendAll_postings_filter enabled addressEq]
    unposted := fun disabled => by rw [sent, Vendor.sendAll_of_disabled disabled]
    returns := fun ids returned => kept.returns (returned ▸ ends)
    stops := fun setback stopped => kept.halts (stopped ▸ ends) }

end Moment

/-- A moment of a delivery is in order: what the delivery has done is kept in its diary, it can go
on to an end, and all this is so with any other vendor. Wherever it ends, it has served the
customers at the front, and ends in the same way with any other vendor. -/
structure InOrder (campaignId template : String) (customers : List Value) (before : Station .logs)
    (m : Moment) : Prop where
  kept : Kept campaignId template customers before m
  goesOn : ∃ last result after, Alone campaignId template m last ∧
    Ends campaignId template last result after
  anyVendor : ∀ v : Vendor,
    Passes campaignId template (start customers (before.withVendor v)) (m.withVendor v)
  front : ∀ result after, Ends campaignId template m result after →
    ServesFront campaignId template customers before m.handed m.diary result after ∧
      ∀ v : Vendor, Ends campaignId template (m.withVendor v) result
        { after with vendor := v.sendAll m.diary.postings }

/-- Whatever goes on beside a delivery, it is in order at every moment. Nothing else needs to go on:
the delivery in one go comes to one of these ends. -/
theorem delivery_serves_front (campaignId template : String) (customers : List Value)
    (regular : Store.Regular before.coalescer) :
    (∀ m, Passes campaignId template (start customers before) m →
      InOrder campaignId template customers before m) ∧
    ∃ last, Alone campaignId template (start customers before) last ∧
      Ends campaignId template last
        (Task.perform (deliverAll campaignId template customers) before.desk).1
        (Task.perform (deliverAll campaignId template customers) before.desk).2 := by
  constructor
  · intro m passes
    have kept := (Moment.kept_start campaignId template customers before).passes regular passes
    exact {
      kept := kept
      goesOn := Moment.exists_ends m
      anyVendor := passes.withVendor
      front := fun result after ends => ⟨kept.servesFront ends, ends.withVendor⟩ }
  · generalize ran : Task.perform (deliverAll campaignId template customers) before.desk = outcome
    obtain ⟨result, after⟩ := outcome
    obtain ⟨last, alone, ends⟩ := Moment.exists_ends_of_deliverAll [] [] ran
    refine ⟨last, alone, ?_⟩
    cases result <;> exact ends

/-! ## A queue with room for one log -/

/-- An office where one log may wait, and a vendor that fails. -/
def narrow : Station .logs :=
  let config := (Writes.Config.make? 10 500 (some 1) 3 none).toOption.getD .standard
  ⟨.opened (.midnight ⟨2026, 1, 2⟩) config (.fresh "http://vendor" true [.status 500]),
    .idle "communication_logs" config⟩

/-- A customer with a name. -/
def named (id name : String) : Value := .map [("id", .text id), ("name", .text name)]

/-- The customers to write to. -/
def couple : List Value := [named "ada" "Ada", named "bob" "Bob"]

/-- The message to a customer. -/
def greeting (number : Nat) (customerId message : String) : Posting :=
  ⟨Office.identifier number, customerId, message⟩

/-- The log of the message to a customer. -/
def greetingLog (number : Nat) (customerId message : String) : String × Writes.Patch :=
  (Office.identifier number, .ofFields [("id", .text (Office.identifier number)),
    ("campaign_id", .text "launch"),
    ("customer_id", .text customerId), ("message", .text message), ("status", .text "PENDING"),
    ("created_at", .time (.midnight ⟨2026, 1, 2⟩))])

/-- The first log is queued. -/
def firstLogged : Station .logs :=
  narrow.served (Task.perform (logOne "launch" "Dear {name}" (named "ada" "Ada")) narrow.desk).2

/-- The first log is on its way to the table. -/
def firstFlying : Station .logs :=
  firstLogged.worked (firstLogged.coalescer.step (.start 0 .flush)) firstLogged.table

/-- The first message is handed over. -/
def firstServed : Station .logs :=
  firstFlying.served (Task.perform (post (greeting 1 "ada" "Dear Ada")) firstFlying.desk).2

/-- The second log is queued. -/
def secondLogged : Station .logs :=
  firstServed.served
    (Task.perform (logOne "launch" "Dear {name}" (named "bob" "Bob")) firstServed.desk).2

/-- Both customers are served. -/
def bothServed : Moment where
  station :=
    secondLogged.served (Task.perform (post (greeting 2 "bob" "Dear Bob")) secondLogged.desk).2
  left := []
  handed := [⟨.midnight ⟨2026, 1, 2⟩, greeting 1 "ada" "Dear Ada"⟩,
    ⟨.midnight ⟨2026, 1, 2⟩, greeting 2 "bob" "Dear Bob"⟩]
  inHand := none
  diary :=
    [.inl (.log (greetingLog 1 "ada" "Dear Ada")), .inl (.message (greeting 1 "ada" "Dear Ada")),
      .inl (.log (greetingLog 2 "bob" "Dear Bob")), .inl (.message (greeting 2 "bob" "Dear Bob"))]

theorem bothServed_passes : Passes "launch" "Dear {name}" (start couple narrow) bothServed := by
  have first : Task.perform (logOne "launch" "Dear {name}" (named "ada" "Ada")) narrow.desk =
      (.ok (greeting 1 "ada" "Dear Ada"), _) :=
      eq_ok_of_isOk (greeting 1 "ada" "Dear Ada") (by decide +kernel)
  have second : Task.perform (logOne "launch" "Dear {name}" (named "bob" "Bob")) firstServed.desk =
      (.ok (greeting 2 "bob" "Dear Bob"), _) :=
      eq_ok_of_isOk (greeting 2 "bob" "Dear Bob") (by decide +kernel)
  refine .tail (.tail (.tail (.tail (.tail .refl (.inl (.logs first))) (.inr (.works ?_)))
    (.inl (.hands ?_))) (.inl (.logs second))) (.inl (.hands ?_))
  · exact .work (.start 0 .flush) not_false not_false
  · rfl
  · rfl

/-- In one go only the first customer is written to, since the second log is refused. When the first
log is flushed while the vendor is asked, both are, although the vendor fails. -/
theorem narrow_serves_both :
    (Task.perform (deliverAll "launch" "Dear {name}" couple) narrow.desk).1.isOk = false ∧
    (Task.perform (deliverAll "launch" "Dear {name}" couple) narrow.desk).2.vendor.postings =
      [greeting 1 "ada" "Dear Ada"] ∧
    ∃ after, Ends "launch" "Dear {name}" bothServed
      (.ok [Office.identifier 1, Office.identifier 2]) after ∧
      bothServed.diary.own = bothServed.handed.flatMap (Service.events "launch") ∧
      (after.processor .logs).accepted.map Write.change =
        [greetingLog 1 "ada" "Dear Ada", greetingLog 2 "bob" "Dear Bob"] ∧
      after.vendor.postings = [greeting 1 "ada" "Dear Ada", greeting 2 "bob" "Dear Bob"] := by
  have regular : Store.Regular narrow.coalescer := Store.idle_regular "communication_logs" _
  have ends : Ends "launch" "Dear {name}" bothServed
      (.ok [Office.identifier 1, Office.identifier 2])
      bothServed.station.desk := .returns
  have inOrder :=
    (delivery_serves_front "launch" "Dear {name}" couple regular).1 bothServed bothServed_passes
  obtain ⟨front, -⟩ := inOrder.front _ _ ends
  refine ⟨by decide +kernel, by decide +kernel, _, ends, front.own, front.accepted, ?_⟩
  rw [front.posted _ rfl rfl]
  decide +kernel

end Outreach.Delivery
