import Mathlib.Algebra.BigOperators.Group.List.Basic
import Outreach.Proofs.Outcome
import Outreach.Proofs.Writes.Capacity
import Outreach.Writes.Timeline

/-!
# A burst drains on schedule

A burst of writes comes to an idle coalescer whose store succeeds at once. The first write starts
the timer, and the later ones do not touch it. Each time the timer fires it hands over one batch and
counts again if writes remain, so the calls of the store are one interval apart, each takes the next
slice of the burst, and after the last one nothing is left that could make another.

`afterFlush` is what one such firing makes of a timeline. `Served` describes the timeline after a
number of firings, and `callsBy` says how many there have been when some time has passed.
-/

namespace Outreach.Writes

/-! ## Changes that a shelf takes -/

namespace Shelf

/-- Applies changes to documents, in order. -/
def applyChanges (changes : List (String × Patch)) (documents : List (String × Fields)) :
    Except AddFault (List (String × Fields)) :=
  changes.foldlM (fun documents change => do
    .ok (Keyed.put change.1 (← change.2.applyTo (Keyed.get? change.1 documents)) documents))
      documents

theorem applyChanges_append {first later : List (String × Patch)}
    {documents next : List (String × Fields)} :
    applyChanges (first ++ later) documents = .ok next ↔
      ∃ middle, applyChanges first documents = .ok middle ∧
      applyChanges later middle = .ok next := by
  rw [applyChanges, List.foldlM_append, bind_eq_ok_iff]
  rfl

/-- Changes that can be applied make a call of the store that succeeds. -/
theorem applyWrites_of_applyChanges {writes : List Write} {documents next : List (String × Fields)}
    (applied : applyChanges (writes.map Write.change) documents = .ok next) (before : BulkResult) :
    ∃ after, applyWrites writes documents before = (next, .ok after) := by
  induction writes generalizing documents before with
  | nil =>
      cases applied
      exact ⟨before, rfl⟩
  | cons w rest ih =>
      rw [applyChanges, List.map_cons, List.foldlM_cons, bind_eq_ok_iff] at applied
      obtain ⟨middle, first, later⟩ := applied
      have firstWrite : applyWrite w documents = .ok middle := first
      simp only [applyWrites, firstWrite]
      exact ih later _

end Shelf

/-! ## One firing -/

namespace Processor

/-- The processor after its next batch was delivered as a whole. -/
def delivered (p : Processor) : Processor :=
  { p with
    queue := p.queue.drop p.config.batchSize
    flight := []
    batches := p.batches ++ [p.nextBatch.map Write.ticket]
    landed := p.landed ++ [p.nextBatch.map Write.ticket]
    deliveries := p.deliveries ++ p.nextBatch
    tally := { p.tally with
      flushes := p.tally.flushes + 1
      delivered := p.tally.delivered + p.nextBatch.length } }

/-- A result without a rejection delivers the batch, and no letter is written. -/
theorem settle_take (letters : LetterStore) (inserted modified : Nat) (p : Processor) :
    ∃ report, p.take.settle letters (.returned ⟨inserted, modified, []⟩) =
    (some report, p.delivered) := by
  have noFailures (batch : List Write) :
      failuresOf batch (.returned ⟨inserted, modified, []⟩) = [] := by
    simp [failuresOf, lastReason?]
  have allDelivered (batch : List Write) :
      deliveriesOf batch (.returned ⟨inserted, modified, []⟩) = batch := by
    simp [deliveriesOf, lastReason?]
  have noGroups : groupByReason [] = [] := rfl
  have noneStored : letters.stored ([] : List (String × List Write)) = [] := by
    cases letters <;> simp [LetterStore.stored]
  have noneRefused : letters.refused ([] : List (String × List Write)) = [] := by
    cases letters <;> simp [LetterStore.refused]
  simp [settle, land, bury, lose, exhausted, retries, noFailures, allDelivered,
    noGroups, noneStored, noneRefused, lettersOf, errorOf, take, delivered]

end Processor

namespace Timeline

/-- Nothing is under way but perhaps the timer: no flush, no call, and no stop. -/
structure Quiet (t : Timeline) : Prop where
  holder : t.coalescer.holder = none
  line : t.coalescer.line = []
  ended : ∀ call ∈ t.coalescer.calls, call.isOver = true
  flight : t.processor.flight = []
  pendingCall : t.pendingCall = none
  accepting : t.processor.stopped = false

/-- The store has time: no timeout, or a positive one. -/
def HasTime (t : Timeline) : Prop := ∀ timeout ∈ t.processor.config.timeout, 0 < timeout

/-- The timeline after a flush of the timer that succeeded at once. -/
def afterFlush (now : Nat) (documents : List (String × Fields)) (t : Timeline) : Timeline :=
  { t with
    coalescer := { t.coalescer with
      processor := { t.processor.delivered with
        timer := if t.processor.delivered.queue = [] then .off
          else .counting (now + t.processor.config.interval) }
      holder := none }
    clock := now
    shelf := ⟨documents, t.shelf.received ++ [t.processor.nextBatch.map Write.id]⟩
    sinkCalls := t.sinkCalls + 1
    pendingCall := none }

variable {t : Timeline} {documents : List (String × Fields)}

theorem Quiet.isBusy (quiet : t.Quiet) : t.isBusy = false := by
  have noneReady : t.coalescer.calls.any (·.status = .ready) = false := by
    rw [List.any_eq_false]
    intro call callMem ready
    have ended := quiet.ended call callMem
    simp [Call.isOver, of_decide_eq_true ready] at ended
  simp [Timeline.isBusy, quiet.line, noneReady]

/-- Only the timer makes something happen in a quiet timeline. -/
theorem Quiet.nextEvent? (quiet : t.Quiet) : t.nextEvent? = t.timerDue? := by
  rw [Timeline.nextEvent?, quiet.pendingCall]
  cases t.timerDue? <;> rfl

theorem acceptedOf_success (batch : List Write) : acceptedOf batch .success = batch := by
  have noRejection : Plan.success.rejections = [] := rfl
  simp [acceptedOf, noRejection]

/-- A call that succeeds applies the flight and rejects nothing. -/
theorem carryOut_success
    (taken : Shelf.applyChanges (t.processor.flight.map Write.change) t.shelf.documents =
      .ok documents) :
    ∃ inserted modified, t.carryOut .success =
      ({ t with shelf := ⟨documents, t.shelf.received ++ [t.processor.flight.map Write.id]⟩ },
        .returned ⟨inserted, modified, []⟩) := by
  obtain ⟨after, applied⟩ := Shelf.applyWrites_of_applyChanges taken ⟨0, 0, []⟩
  refine ⟨after.inserted, after.modified, ?_⟩
  simp only [carryOut, Plan.success, Shelf.upsert]
  rw [show (⟨0, none, [], 0⟩ : Plan) = .success from rfl, acceptedOf_success, applied]
  rfl

/-- With time for the store a flight is handed over. -/
theorem submit_of_hasTime (time : t.HasTime) : ∃ deadline, t.submit = submit.open_ deadline t := by
  unfold submit
  split
  · rename_i timeout given
    have positive := time timeout given
    rw [if_neg (Int.not_le.mpr positive)]
    exact ⟨_, rfl⟩
  · exact ⟨_, rfl⟩

/-- A timer that fires with nobody before it takes a batch. -/
theorem Quiet.fire (quiet : t.Quiet) {due : Nat} (counting : t.processor.timer = .counting due)
    (waiting : t.processor.queue ≠ []) : t.coalescer.fire =
      { t.coalescer with
        processor := { t.processor with timer := .flushing }.take
        holder := some .timer } := by
  have counts : t.coalescer.processor.timer = .counting due := counting
  have some_waits : t.coalescer.processor.queue ≠ [] := waiting
  simp [Coalescer.fire, counts, Coalescer.joinLine, quiet.holder, quiet.line, some_waits]
  rfl

/-- When the timer's batch is delivered, the timer counts again if writes remain. -/
theorem Quiet.timerReturns (quiet : t.Quiet) (documents : List (String × Fields)) (now : Nat)
    (report : Report) :
    ({ t.coalescer with
        processor := { t.processor.delivered with timer := .flushing }
        holder := none } : Coalescer).timerReturns now (some report) =
      (t.afterFlush now documents).coalescer := by
  have noneAwaits : (t.coalescer.calls.map fun c =>
      if c.status = .awaitingTimer then { c with status := .ready } else c) =
        t.coalescer.calls := by
    refine (List.map_congr_left fun call callMem => ?_).trans (List.map_id _)
    have ended := quiet.ended call callMem
    cases status : call.status <;> simp [Call.isOver, status] at ended ⊢
  have accepting : t.processor.delivered.stopped = false := quiet.accepting
  have sameConfig : t.processor.delivered.config = t.processor.config := rfl
  by_cases empty : t.processor.delivered.queue = []
  · simp [Coalescer.timerReturns, empty, Coalescer.wakeAfterTimer, noneAwaits, afterFlush]
  · simp [Coalescer.timerReturns, empty, accepting, sameConfig, afterFlush]

/-- The timeline while the batch of its timer is with the store. -/
def flying (now : Nat) (t : Timeline) : Timeline :=
  { t with
    coalescer := { t.coalescer with
      processor := { t.processor with timer := .flushing }.take
      holder := some .timer }
    clock := now
    pendingCall := none }

/-- A batch that the store takes at once is delivered. -/
theorem Quiet.submit_flying (quiet : t.Quiet) (time : t.HasTime) (plan : t.nextPlan = .success)
    (taken : Shelf.applyChanges (t.processor.nextBatch.map Write.change) t.shelf.documents =
      .ok documents) (now : Nat) : (t.flying now).submit = t.afterFlush now documents := by
  obtain ⟨deadline, opened⟩ := submit_of_hasTime (t := t.flying now) time
  have nextPlan : (t.flying now).nextPlan = .success := plan
  obtain ⟨inserted, modified, carried⟩ := carryOut_success
    (t := { t.flying now with sinkCalls := t.sinkCalls + 1 }) taken
  obtain ⟨report, settled⟩ := Processor.settle_take t.letters inserted modified
    { t.processor with timer := .flushing }
  have opens : submit.open_ deadline (t.flying now) =
      afterDelay .success deadline { t.flying now with sinkCalls := t.sinkCalls + 1 } := by
    simp only [submit.open_, nextPlan]
    rfl
  have ends : afterDelay .success deadline { t.flying now with sinkCalls := t.sinkCalls + 1 } =
      finish (.returned ⟨inserted, modified, []⟩)
        { t.flying now with
          shelf := ⟨documents, t.shelf.received ++ [t.processor.nextBatch.map Write.id]⟩
          sinkCalls := t.sinkCalls + 1 } := by
    simp only [afterDelay, carried]
    rfl
  rw [opened, opens, ends]
  simp only [finish, Coalescer.finish, flying, settled, Coalescer.deliver]
  exact congrArg (fun coalescer => { t.afterFlush now documents with coalescer := coalescer })
    (quiet.timerReturns documents now report)

theorem exists_fuel (t : Timeline) : ∃ fuel, t.fuel = fuel + 2 := by
  refine ⟨t.fuel - 2, ?_⟩
  simp only [fuel]
  omega

/-- The timer of a quiet timeline hands over one batch, and counts again if writes remain. -/
theorem Quiet.nextStep (quiet : t.Quiet) {due : Nat} (counting : t.processor.timer = .counting due)
    (waiting : t.processor.queue ≠ []) (time : t.HasTime) (plan : t.nextPlan = .success)
    (taken : Shelf.applyChanges (t.processor.nextBatch.map Write.change) t.shelf.documents =
      .ok documents) (moment : Nat) :
    t.nextStep moment = t.afterFlush (max t.clock moment) documents := by
  have flies : t.nextStep moment =
      (t.flying (max t.clock moment)).settle (t.flying (max t.clock moment)).fuel := by
    simp only [Timeline.nextStep, quiet.pendingCall, act, quiet.fire counting waiting]
    rfl
  obtain ⟨fuel, fuelEq⟩ := (t.flying (max t.clock moment)).exists_fuel
  rw [flies, fuelEq, settle, if_pos ⟨rfl, rfl⟩, quiet.submit_flying time plan taken, settle, if_neg]
  simp [afterFlush]

end Timeline

/-! ## Slices -/

/-- The part of a list that belongs to a batch, counted from zero. -/
def slice {α : Type} (size batch : Nat) (xs : List α) : List α := (xs.drop (batch * size)).take size

/-- The parts of a list that belong to the first batches. -/
def slices {α : Type} (size count : Nat) (xs : List α) : List (List α) :=
  (List.range count).map (slice size · xs)

section Slices

variable {α β : Type} (size : Nat) (xs : List α)

theorem slices_succ (count : Nat) :
    slices size (count + 1) xs = slices size count xs ++ [slice size count xs] := by
  simp [slices, List.range_succ]

theorem slice_map (f : α → β) (batch : Nat) :
    slice size batch (xs.map f) = (slice size batch xs).map f := by
  simp [slice, List.map_take, List.map_drop]

theorem take_succ_mul (count : Nat) :
    xs.take ((count + 1) * size) = xs.take (count * size) ++ slice size count xs := by
  rw [Nat.succ_mul, List.take_add, slice]

end Slices

/-- Changes as writes, with tickets that count on from the first. -/
def numbered (first attempts : Nat) (changes : List (String × Patch)) : List Write :=
  (changes.zipIdx first).map fun (change, ticket) => ⟨ticket, change.1, change.2, attempts⟩

section Numbered

variable (first attempts : Nat) (changes : List (String × Patch))

@[simp]
theorem length_numbered : (numbered first attempts changes).length = changes.length := by
  simp [numbered]

theorem map_change_numbered : (numbered first attempts changes).map Write.change = changes := by
  simp [numbered, Function.comp_def, Write.change]

theorem map_id_numbered :
    (numbered first attempts changes).map Write.id = changes.map Prod.fst := by
  rw [← map_fst_change, map_change_numbered]

theorem numbered_concat (change : String × Patch) : numbered first attempts (changes ++ [change]) =
    numbered first attempts changes ++
    [⟨first + changes.length, change.1, change.2, attempts⟩] := by
  simp [numbered, List.zipIdx_append]

/-- An attempt is counted for each write. -/
theorem map_attempts_numbered :
    (numbered first attempts changes).map (fun w => { w with attempts := w.attempts + 1 }) =
      numbered first (attempts + 1) changes := by
  simp [numbered]

end Numbered

/-! ## How many calls there have been -/

/-- How many calls a burst needs. -/
def callsFor (size count : Nat) : Nat := (count + size - 1) / size

/-- How many calls a burst has had when some time has passed. -/
def callsBy (size interval count elapsed : Nat) : Nat :=
  min (callsFor size count) (elapsed / interval)

theorem lt_callsFor_iff {size : Nat} (fits : 1 ≤ size) (count calls : Nat) :
    calls < callsFor size count ↔ calls * size < count := by
  rw [callsFor, ← Nat.succ_le_iff, Nat.le_div_iff_mul_le (by omega), Nat.succ_mul]
  omega

section Calls

variable {size interval count elapsed later : Nat}

/-- With writes left, each interval has had its call. -/
theorem callsBy_eq_div (fits : 1 ≤ size)
    (left : callsBy size interval count elapsed * size < count) :
    callsBy size interval count elapsed = elapsed / interval := by
  have fewer := (lt_callsFor_iff fits _ _).mpr left
  unfold callsBy at fewer ⊢
  omega

/-- Without writes left no later time has another call. -/
theorem callsBy_of_done (fits : 1 ≤ size)
    (done : count ≤ callsBy size interval count elapsed * size)
    (order : elapsed ≤ later) :
    callsBy size interval count later = callsBy size interval count elapsed := by
  have all := mt (lt_callsFor_iff fits _ _).mp (Nat.not_lt.mpr done)
  have more : elapsed / interval ≤ later / interval := Nat.div_le_div_right order
  unfold callsBy at all ⊢
  omega

/-- Before the interval is over no call comes. -/
theorem callsBy_of_lt (running : later < (elapsed / interval + 1) * interval)
    (order : elapsed ≤ later) :
    callsBy size interval count later = callsBy size interval count elapsed := by
  have same : later / interval = elapsed / interval := by
    have more : elapsed / interval ≤ later / interval := Nat.div_le_div_right order
    have notMore : later / interval < elapsed / interval + 1 :=
      Nat.div_lt_of_lt_mul (by rwa [Nat.mul_comm])
    omega
  rw [callsBy, callsBy, same]

/-- At the end of the interval the next call comes. -/
theorem callsBy_next (fits : 1 ≤ size) (positive : 0 < interval)
    (left : callsBy size interval count elapsed * size < count) :
    callsBy size interval count ((callsBy size interval count elapsed + 1) * interval) =
      callsBy size interval count elapsed + 1 := by
  have fewer := (lt_callsFor_iff fits _ _).mpr left
  conv_lhs => rw [callsBy, Nat.mul_div_cancel _ positive]
  omega

end Calls

/-! ## The burst -/

namespace Timeline

/-- The ticket of the first write of the burst. -/
def firstTicket (start : Timeline) : Nat := start.processor.accepted.length

/-- The timeline after a number of calls, when these changes have come to `start`. -/
structure Served (start : Timeline) (changes : List (String × Patch)) (calls : Nat) (t : Timeline) :
    Prop where
  quiet : t.Quiet
  config : t.processor.config = start.processor.config
  plans : t.plans = start.plans
  sinkCalls : t.sinkCalls = start.sinkCalls + calls
  /-- The identifiers that each call has handed over. -/
  received : t.shelf.received = start.shelf.received ++
    (slices start.processor.config.batchSize calls changes).map (·.map Prod.fst)
  documents : Shelf.applyChanges (changes.take (calls * start.processor.config.batchSize))
    start.shelf.documents = .ok t.shelf.documents
  accepted : t.processor.accepted = start.processor.accepted ++ numbered start.firstTicket 0 changes
  queue : t.processor.queue =
    (numbered start.firstTicket 0 changes).drop (calls * start.processor.config.batchSize)
  /-- The tickets of each batch. -/
  batches : t.processor.batches = start.processor.batches ++
    (slices start.processor.config.batchSize calls (numbered start.firstTicket 0 changes)).map
      (·.map Write.ticket)
  deliveries : t.processor.deliveries = start.processor.deliveries ++
    (numbered start.firstTicket 1 changes).take (calls * start.processor.config.batchSize)
  timer : t.processor.timer =
    if calls * start.processor.config.batchSize < changes.length then
      .counting (start.clock + (calls + 1) * start.processor.config.interval)
    else .off

/-- Every call of the store succeeds at once, and it can apply all changes. -/
structure SucceedsAtOnce (start : Timeline) (changes : List (String × Patch)) : Prop where
  plan : ∀ calls, start.sinkCalls ≤ calls → { start with sinkCalls := calls }.nextPlan = .success
  applies : ∃ documents, Shelf.applyChanges changes start.shelf.documents = .ok documents

theorem SucceedsAtOnce.of_append {start : Timeline} {first later : List (String × Patch)}
    (succeeds : start.SucceedsAtOnce (first ++ later)) : start.SucceedsAtOnce first := by
  obtain ⟨_, applied⟩ := succeeds.applies
  obtain ⟨middle, taken, _⟩ := Shelf.applyChanges_append.mp applied
  exact ⟨succeeds.plan, middle, taken⟩

section Served

variable {start t : Timeline} {changes : List (String × Patch)} {calls : Nat}

theorem Served.queue_length (served : start.Served changes calls t) :
    t.processor.queue.length = changes.length - calls * start.processor.config.batchSize := by
  rw [served.queue, List.length_drop, length_numbered]

/-- The next batch is the next slice of the burst. -/
theorem Served.nextBatch (served : start.Served changes calls t) : t.processor.nextBatch =
    slice start.processor.config.batchSize calls (numbered start.firstTicket 1 changes) := by
  rw [← map_attempts_numbered, slice_map, slice, ← served.queue, ← served.config]
  rfl

/-- The store can apply the next batch. -/
theorem Served.applies_next (served : start.Served changes calls t)
    (succeeds : start.SucceedsAtOnce changes) : ∃ documents,
      Shelf.applyChanges (t.processor.nextBatch.map Write.change) t.shelf.documents =
      .ok documents ∧
        Shelf.applyChanges (changes.take ((calls + 1) * start.processor.config.batchSize))
          start.shelf.documents = .ok documents := by
  have changesEq : t.processor.nextBatch.map Write.change =
      slice start.processor.config.batchSize calls changes := by
    rw [served.nextBatch, ← slice_map, map_change_numbered]
  obtain ⟨last, all⟩ := succeeds.applies
  rw [← List.take_append_drop ((calls + 1) * start.processor.config.batchSize) changes] at all
  obtain ⟨documents, applied, _⟩ := Shelf.applyChanges_append.mp all
  refine ⟨documents, ?_, applied⟩
  rw [take_succ_mul] at applied
  obtain ⟨found, before, taken⟩ := Shelf.applyChanges_append.mp applied
  rw [served.documents] at before
  cases before
  rw [changesEq]
  exact taken

/-- A batch that is delivered leaves the rest of the burst. -/
theorem Served.delivered_queue (served : start.Served changes calls t) :
    t.processor.delivered.queue =
    (numbered start.firstTicket 0 changes).drop
    ((calls + 1) * start.processor.config.batchSize) := by
  rw [Nat.succ_mul, ← List.drop_drop, ← served.queue, ← served.config]
  rfl

/-- A flush of the timer counts again if the burst goes on. -/
theorem Served.timer_afterFlush (served : start.Served changes calls t)
    (documents : List (String × Fields)) :
    (t.afterFlush (start.clock + (calls + 1) * start.processor.config.interval)
      documents).processor.timer =
      if (calls + 1) * start.processor.config.batchSize < changes.length then
        .counting (start.clock + (calls + 1 + 1) * start.processor.config.interval)
      else .off := by
  have emptyIff : t.processor.delivered.queue = [] ↔
      ¬ (calls + 1) * start.processor.config.batchSize < changes.length := by
    rw [served.delivered_queue, List.drop_eq_nil_iff, length_numbered, Nat.not_lt]
  have next : start.clock + (calls + 1) * start.processor.config.interval +
      t.processor.config.interval =
      start.clock + (calls + 1 + 1) * start.processor.config.interval := by
    rw [served.config, Nat.succ_mul (calls + 1), Nat.add_assoc]
  have timer : (t.afterFlush (start.clock + (calls + 1) * start.processor.config.interval)
      documents).processor.timer = if t.processor.delivered.queue = [] then .off
        else .counting (start.clock + (calls + 1) * start.processor.config.interval +
          t.processor.config.interval) := rfl
  rw [timer, next]
  by_cases remain : (calls + 1) * start.processor.config.batchSize < changes.length
  · rw [if_neg (mt emptyIff.mp (not_not.mpr remain)), if_pos remain]
  · rw [if_pos (emptyIff.mpr remain), if_neg remain]

/-- One more call is served by a flush of the timer. -/
theorem Served.afterFlush (served : start.Served changes calls t)
    {documents : List (String × Fields)}
    (applied : Shelf.applyChanges (changes.take ((calls + 1) * start.processor.config.batchSize))
      start.shelf.documents = .ok documents) :
    start.Served changes (calls + 1) (t.afterFlush
      (start.clock + (calls + 1) * start.processor.config.interval) documents) where
  quiet := ⟨rfl, served.quiet.line, served.quiet.ended, rfl, rfl, served.quiet.accepting⟩
  config := served.config
  plans := served.plans
  sinkCalls := congrArg (· + 1) served.sinkCalls
  received := by
    have ids : t.processor.nextBatch.map Write.id =
        (slice start.processor.config.batchSize calls changes).map Prod.fst := by
      rw [served.nextBatch, ← slice_map, map_id_numbered, slice_map]
    rw [slices_succ, List.map_append, List.map_singleton, ← List.append_assoc,
      ← served.received, ← ids]
    rfl
  documents := applied
  accepted := served.accepted
  queue := served.delivered_queue
  batches := by
    have tickets : t.processor.nextBatch.map Write.ticket =
        (slice start.processor.config.batchSize calls (numbered start.firstTicket 0 changes)).map
          Write.ticket := by
      rw [served.nextBatch, ← map_attempts_numbered, slice_map, List.map_map]
      rfl
    rw [slices_succ, List.map_append, List.map_singleton, ← List.append_assoc, ←
      served.batches, ← tickets]
    rfl
  deliveries := by
    rw [take_succ_mul, ← List.append_assoc, ← served.deliveries, ← served.nextBatch]
    rfl
  timer := served.timer_afterFlush documents

/-- A call that takes the next slice. -/
theorem Served.next (served : start.Served changes calls t) (time : start.HasTime)
    (succeeds : start.SucceedsAtOnce changes) {due : Nat}
    (counting : t.processor.timer = .counting due) (inTime : t.clock ≤ due) :
    start.Served changes (calls + 1) (t.nextStep due) ∧ (t.nextStep due).clock = due := by
  have remain : calls * start.processor.config.batchSize < changes.length ∧
      due = start.clock + (calls + 1) * start.processor.config.interval := by
    have timer := served.timer
    rw [counting] at timer
    split at timer
    · rename_i remain
      exact ⟨remain, Timer.counting.inj timer⟩
    · cases timer
  obtain ⟨remain, rfl⟩ := remain
  have waiting : t.processor.queue ≠ [] := by
    apply List.ne_nil_of_length_pos
    rw [served.queue_length]
    omega
  have hasTime : t.HasTime := by
    unfold HasTime
    rw [served.config]
    exact time
  have plan : t.nextPlan = .success := by
    have planned := succeeds.plan (start.sinkCalls + calls) (Nat.le_add_right _ _)
    unfold nextPlan at planned ⊢
    rw [served.plans, served.sinkCalls]
    exact planned
  obtain ⟨documents, taken, applied⟩ := served.applies_next succeeds
  rw [served.quiet.nextStep counting waiting hasTime plan taken, Nat.max_eq_right inTime]
  exact ⟨served.afterFlush applied, rfl⟩

/-- How many calls the changes have had when some time has passed since `start`. -/
def callsAfter (start : Timeline) (changes : List (String × Patch)) (elapsed : Nat) : Nat :=
  callsBy start.processor.config.batchSize start.processor.config.interval changes.length elapsed

/-- The timeline has had its calls, and the clock shows the time that has passed. -/
structure OnSchedule (start : Timeline) (changes : List (String × Patch)) (elapsed : Nat)
    (t : Timeline) : Prop where
  clock : t.clock = start.clock + elapsed
  served : start.Served changes (start.callsAfter changes elapsed) t

variable {elapsed later : Nat}

/-- Time in which no call comes changes the clock only. -/
theorem OnSchedule.wait (onSchedule : start.OnSchedule changes elapsed t) (order : elapsed ≤ later)
    (same : start.callsAfter changes later = start.callsAfter changes elapsed) :
    start.OnSchedule changes later { t with clock := max t.clock (start.clock + later) } := by
  have clock := onSchedule.clock
  constructor
  · exact Nat.max_eq_right (by omega)
  · rw [same]
    exact { onSchedule.served with quiet := { onSchedule.served.quiet with } }

/-- Time that passes brings each call when it is due; `fuel` bounds the calls. -/
theorem OnSchedule.passUntil (time : start.HasTime) (succeeds : start.SucceedsAtOnce changes)
    (positive : 0 < start.processor.config.interval) {fuel : Nat}
    (onSchedule : start.OnSchedule changes elapsed t) (order : elapsed ≤ later)
    (enough : t.processor.queue.length < fuel) :
    start.OnSchedule changes later (t.passUntil fuel (start.clock + later)) := by
  have fits := start.processor.config.one_le_batchSize
  induction fuel generalizing t elapsed with
  | zero => cases enough
  | succ fuel ih =>
      have served := onSchedule.served
      have clock := onSchedule.clock
      have length := served.queue_length
      simp only [Timeline.passUntil, served.quiet.isBusy, Bool.false_eq_true, if_false,
        served.quiet.nextEvent?, timerDue?, served.timer]
      by_cases remain : start.callsAfter changes elapsed * start.processor.config.batchSize <
          changes.length
      · have counting := served.timer
        rw [if_pos remain] at counting
        have perInterval : start.callsAfter changes elapsed =
            elapsed / start.processor.config.interval := callsBy_eq_div fits remain
        have before : elapsed < (start.callsAfter changes elapsed + 1) *
            start.processor.config.interval := by
          rw [perInterval]
          exact (Nat.div_lt_iff_lt_mul positive).mp (Nat.lt_succ_self _)
        simp only [if_pos remain]
        split
        · rename_i reached
          obtain ⟨next, clockNext⟩ := served.next time succeeds counting (by omega)
          have callsNext : start.callsAfter changes ((start.callsAfter changes elapsed + 1) *
              start.processor.config.interval) = start.callsAfter changes elapsed + 1 :=
            callsBy_next fits positive remain
          have lengthNext := next.queue_length
          have taken := Nat.add_one_mul (start.callsAfter changes elapsed)
            start.processor.config.batchSize
          exact ih ⟨clockNext, by rwa [callsNext]⟩ (by omega) (by omega)
        · rename_i running
          apply onSchedule.wait order
          apply callsBy_of_lt _ order
          rw [← perInterval]
          omega
      · simp only [if_neg remain]
        exact onSchedule.wait order (callsBy_of_done fits (Nat.not_lt.mp remain) order)

/-- The fuel of a sleep is enough for every write that waits. -/
theorem Served.length_lt_fuel (served : start.Served changes calls t) :
    t.processor.queue.length < 2 * t.fuel := by
  have each : ∀ left ∈ (t.processor.queue ++ t.processor.flight).map
      (fun w => t.processor.config.maxAttempts + 1 - w.attempts), 1 ≤ left := by
    intro left leftMem
    obtain ⟨w, wMem, rfl⟩ := List.mem_map.mp leftMem
    rw [served.quiet.flight, List.append_nil, served.queue] at wMem
    obtain ⟨_, _, rfl⟩ := List.mem_map.mp (List.mem_of_mem_drop wMem)
    exact Nat.succ_le_succ (Nat.zero_le _)
  have enough := List.length_le_sum_of_one_le _ each
  simp only [List.length_map, List.length_append] at enough
  simp only [fuel]
  omega

theorem OnSchedule.sleep (time : start.HasTime) (succeeds : start.SucceedsAtOnce changes)
    (positive : 0 < start.processor.config.interval)
    (onSchedule : start.OnSchedule changes elapsed t)
    (ms : Nat) : start.OnSchedule changes (elapsed + ms) (t.sleep ms) := by
  have passed := onSchedule.passUntil time succeeds positive (Nat.le_add_right elapsed ms)
    onSchedule.served.length_lt_fuel
  rw [Timeline.sleep, onSchedule.clock, Nat.add_assoc]
  exact passed

/-- A write that comes before any call; the first one starts the timer. -/
theorem Served.queued (served : start.Served changes 0 t)
    (first : changes = [] → t.clock = start.clock) (id : String) (patch : Patch) :
    start.Served (changes ++ [(id, patch)]) 0 { t with
      coalescer := { t.coalescer with processor := t.processor.queued t.clock id patch } } := by
  have ticket : t.processor.accepted.length = start.firstTicket + changes.length := by
    rw [served.accepted, List.length_append, length_numbered, firstTicket]
  have timer : (if t.processor.timer = .off then
      .counting (t.clock + t.processor.config.interval) else t.processor.timer) =
      Timer.counting (start.clock + (0 + 1) * start.processor.config.interval) := by
    rw [served.timer, served.config, Nat.zero_mul, Nat.zero_add, Nat.one_mul]
    cases changes with
    | nil => simp [first rfl]
    | cons change rest => simp
  exact { served with
    quiet := { served.quiet with }
    received := by simpa [slices] using served.received
    documents := by simpa using served.documents
    accepted := by
      rw [numbered_concat, ← List.append_assoc, ← served.accepted, ← ticket]
      rfl
    queue := by
      have queue := served.queue
      rw [Nat.zero_mul, List.drop_zero] at queue ⊢
      rw [numbered_concat, ← queue, ← ticket]
      rfl
    batches := by
      have batches := served.batches
      simp only [slices, List.range_zero, List.map_nil, List.append_nil] at batches ⊢
      exact batches
    deliveries := by
      have deliveries := served.deliveries
      rw [Nat.zero_mul, List.take_zero, List.append_nil] at deliveries ⊢
      exact deliveries
    timer := by
      rw [Nat.zero_mul, if_pos (by simp)]
      exact timer }

/-- A write that comes within the first interval is accepted. -/
theorem OnSchedule.enqueue (onSchedule : start.OnSchedule changes elapsed t)
    (window : elapsed < start.processor.config.interval) (first : changes = [] → elapsed = 0)
    (room : ∀ limit ∈ start.processor.config.capacity, changes.length < limit) (id : String)
    (patch : Patch) :
    ∃ u, t.enqueue id patch = .ok u ∧ start.OnSchedule (changes ++ [(id, patch)]) elapsed u := by
  have served := onSchedule.served
  have noCall (some : List (String × Patch)) : start.callsAfter some elapsed = 0 := by
    simp [callsAfter, callsBy, Nat.div_eq_of_lt window]
  rw [noCall] at served
  have notFull : t.processor.isFull = false := by
    have length := served.queue_length
    unfold Processor.isFull
    rw [served.config]
    split
    · rename_i limit limited
      have fits := room limit limited
      simp only [decide_eq_false_iff_not, Nat.not_le]
      omega
    · rfl
  have accepted : t.coalescer.processor.enqueue t.clock id patch =
      .ok (t.processor.queued t.clock id patch) :=
    Processor.enqueue_eq_ok_iff.mpr
      ⟨served.quiet.accepting, notFull, (Processor.arm_accept t.clock id patch t.processor).symm⟩
  refine ⟨{ t with coalescer := { t.coalescer with
    processor := t.processor.queued t.clock id patch } }, ?_, ⟨onSchedule.clock, ?_⟩⟩
  · simp only [Timeline.enqueue, Coalescer.enqueue, accepted]
    rfl
  · rw [noCall]
    apply served.queued
    intro isFirst
    rw [onSchedule.clock, first isFirst, Nat.add_zero]

end Served

end Timeline

/-! ## Whole bursts -/

/-- What happens to a timeline from outside. -/
inductive Happening where
  | passes (ms : Nat)
  | arrives (id : String) (patch : Patch)

namespace Happening

/-- How much time passes in all. -/
def elapsed : List Happening → Nat
  | [] => 0
  | .passes ms :: rest => ms + elapsed rest
  | .arrives _ _ :: rest => elapsed rest

/-- The changes that arrive, each with the time that has passed by then. -/
def arrivals (past : Nat) : List Happening → List (Nat × String × Patch)
  | [] => []
  | .passes ms :: rest => arrivals (past + ms) rest
  | .arrives id patch :: rest => (past, id, patch) :: arrivals past rest

/-- The changes that arrive. -/
def changes (script : List Happening) : List (String × Patch) := (arrivals 0 script).map Prod.snd

end Happening

namespace Timeline

open Happening

/-- Lets things happen, unless a write is refused. -/
def live : List Happening → Timeline → Except Refusal Timeline
  | [], t => .ok t
  | .passes ms :: rest, t => live rest (t.sleep ms)
  | .arrives id patch :: rest, t => do live rest (← t.enqueue id patch)

/-- Quiet, with nothing to do and no timer. -/
structure Idle (t : Timeline) : Prop where
  quiet : t.Quiet
  queue : t.processor.queue = []
  timer : t.processor.timer = .off

variable {start t : Timeline}

theorem Idle.onSchedule (idle : start.Idle) : start.OnSchedule [] 0 start := by
  have none : start.callsAfter [] 0 = 0 := by simp [callsAfter, callsBy]
  refine ⟨rfl, ?_⟩
  rw [none]
  exact {
    quiet := idle.quiet
    config := rfl
    plans := rfl
    sinkCalls := rfl
    received := by simp [slices]
    documents := by
      rw [List.take_nil]
      rfl
    accepted := by simp [numbered]
    queue := by simp [numbered, idle.queue]
    batches := by simp [slices]
    deliveries := by simp [numbered]
    timer := by simp [idle.timer] }

/-- A script of arrivals within the first interval and of time that passes keeps to the schedule. -/
theorem OnSchedule.live (time : start.HasTime) {script : List Happening}
    {known : List (String × Patch)}
    {past : Nat} (onSchedule : start.OnSchedule known past t) (begun : known ≠ [])
    (window : ∀ arrival ∈ arrivals past script, arrival.1 < start.processor.config.interval)
    (positive : 0 < start.processor.config.interval)
    (room : ∀ limit ∈ start.processor.config.capacity,
      (known ++ (arrivals past script).map Prod.snd).length ≤ limit)
    (succeeds : start.SucceedsAtOnce (known ++ (arrivals past script).map Prod.snd)) :
    ∃ u, t.live script = .ok u ∧ start.OnSchedule (known ++ (arrivals past script).map Prod.snd)
      (past + elapsed script) u := by
  induction script generalizing t known past with
  | nil => exact ⟨t, rfl, by simpa [arrivals, elapsed] using onSchedule⟩
  | cons happening rest ih =>
      cases happening with
      | passes ms =>
          have slept := onSchedule.sleep time succeeds.of_append positive ms
          obtain ⟨u, lived, later⟩ := ih slept begun window room succeeds
          rw [Nat.add_assoc] at later
          exact ⟨u, lived, later⟩
      | arrives id patch =>
          rw [arrivals, List.map_cons, List.append_cons] at room succeeds ⊢
          have space : ∀ limit ∈ start.processor.config.capacity, known.length < limit := by
            intro limit limited
            have fits := room limit limited
            simp only [List.length_append, List.length_singleton] at fits
            omega
          obtain ⟨next, queued, onScheduleNext⟩ := onSchedule.enqueue
            (window (past, id, patch) List.mem_cons_self) (fun none => absurd none begun)
            space id patch
          obtain ⟨u, lived, later⟩ := ih onScheduleNext (by simp)
            (fun arrival arrivalMem => window arrival (List.mem_cons_of_mem _ arrivalMem))
            room succeeds
          refine ⟨u, ?_, later⟩
          rw [Timeline.live, queued]
          exact lived

/-- While writes remain the timer runs. -/
theorem Served.stateWord {known : List (String × Patch)} {calls : Nat}
    (served : start.Served known calls t) : t.processor.stateWord =
      if calls < callsFor start.processor.config.batchSize known.length then "armed"
        else "idle" := by
  have iff := lt_callsFor_iff start.processor.config.one_le_batchSize known.length calls
  rw [Processor.stateWord, served.quiet.accepting, served.timer]
  by_cases remain : calls * start.processor.config.batchSize < known.length
  · simp [remain, iff.mpr remain]
  · simp [remain, mt iff.mp remain]

/-- A burst drains on schedule. A write comes to an idle coalescer whose store succeeds at once, and
more writes come before the interval of the timer is over, in all no more than may wait. Then,
whatever time has passed, every write has been accepted; the call of each number has been made
exactly if there is a slice of the burst for it and its number of intervals has passed; and the
calls have handed over the slices in order, all of them delivered. The processor is armed until the
last call and idle with an empty queue from then on. -/
theorem burst_drains_on_schedule (start : Timeline) (id : String) (patch : Patch)
    (rest : List Happening) (idle : start.Idle) (time : start.HasTime)
    (window : ∀ arrival ∈ arrivals 0 (.arrives id patch :: rest),
      arrival.1 < start.processor.config.interval)
    (room : ∀ limit ∈ start.processor.config.capacity,
      (changes (.arrives id patch :: rest)).length ≤ limit)
    (succeeds : start.SucceedsAtOnce (changes (.arrives id patch :: rest))) :
    let burst := changes (.arrives id patch :: rest)
    let size := start.processor.config.batchSize
    let interval := start.processor.config.interval
    let calls := callsBy size interval burst.length (elapsed rest)
    ∃ t, start.live (.arrives id patch :: rest) = .ok t ∧
      start.OnSchedule burst (elapsed rest) t ∧
      (∀ number, start.sinkCalls + number ≤ t.sinkCalls ↔
        number ≤ callsFor size burst.length ∧ number * interval ≤ elapsed rest) ∧
      t.processor.stateWord = (if calls < callsFor size burst.length then "armed" else "idle") ∧
      (calls = callsFor size burst.length → t.processor.queue = []) := by
  intro burst size interval calls
  have positive : 0 < interval :=
    Nat.lt_of_le_of_lt (Nat.zero_le _) (window (0, id, patch) List.mem_cons_self)
  have space : ∀ limit ∈ start.processor.config.capacity, 0 < limit := fun limit limited =>
    Nat.lt_of_lt_of_le (Nat.succ_pos _) (room limit limited)
  obtain ⟨first, queued, onScheduleFirst⟩ :=
    idle.onSchedule.enqueue positive (fun _ => rfl) space id patch
  obtain ⟨t, lived, onSchedule⟩ := onScheduleFirst.live time (List.cons_ne_nil _ _)
    (fun arrival arrivalMem => window arrival (List.mem_cons_of_mem _ arrivalMem)) positive
    room succeeds
  rw [Nat.zero_add] at onSchedule
  refine ⟨t, ?_, onSchedule, ?_, onSchedule.served.stateWord, ?_⟩
  · rw [Timeline.live, queued]
    exact lived
  · intro number
    rw [onSchedule.served.sinkCalls, ← Nat.le_div_iff_mul_le positive, Nat.add_le_add_iff_left]
    exact Nat.le_min
  · intro all
    have done : ¬ calls * size < burst.length := by
      rw [← lt_callsFor_iff start.processor.config.one_le_batchSize]
      exact Nat.not_lt.mpr (Nat.le_of_eq all.symm)
    apply List.eq_nil_of_length_eq_zero
    rw [onSchedule.served.queue_length]
    exact Nat.sub_eq_zero_of_le (Nat.not_lt.mp done)

/-- Batches of two, ten milliseconds apart. -/
def pairs : Config :=
  { Config.standard with
    batchSize := 2
    interval := 10
    capacity := some 3
    one_le_batchSize := Coalescer.smallBatches.one_le_batchSize
    one_le_capacity := by simp }

/-- Nothing has happened, and the store has no plans but to succeed. -/
def untouched : Timeline := .begin "writes" pairs .working []

/-- Three writes come while the timer counts, the last of them as late as possible. -/
def spread : List Happening :=
  [.passes 4, .arrives "b" (.ofFields []), .passes 5, .arrives "c" (.ofFields []), .passes 11]

/-- Twenty milliseconds after the first write both calls have been made: one batch
of two and one of one. -/
theorem spread_drains_on_schedule : ∃ t,
    untouched.live (.arrives "a" (.ofFields []) :: spread) = .ok t ∧ t.clock = 20 ∧
      t.shelf.received = [["a", "b"], ["c"]] ∧ t.processor.stateWord = "idle" := by
  have quiet : untouched.Quiet :=
    ⟨rfl, rfl, by simp [untouched, begin, Coalescer.idle], rfl, rfl, rfl⟩
  have idle : untouched.Idle := ⟨quiet, rfl, rfl⟩
  have time : untouched.HasTime := by
    intro timeout given
    cases given
    decide
  have succeeds : untouched.SucceedsAtOnce (changes (.arrives "a" (.ofFields []) :: spread)) :=
    ⟨fun _ _ => rfl, _, rfl⟩
  obtain ⟨t, lived, onSchedule, -, word, -⟩ :=
    burst_drains_on_schedule untouched "a" (.ofFields []) spread
    idle time (by decide) (by decide) succeeds
  exact ⟨t, lived, onSchedule.clock, onSchedule.served.received, word⟩

end Timeline

end Outreach.Writes
