import Outreach.Proofs.Writes.Callers

/-!
# Quiescence after a stop

A call of `stop` drains the queue and looks at nothing else. When it returns the queue is
empty, and as long as no call of `flush` has a batch in flight at that moment, nothing is left
to do and nothing ever happens again: every accepted write has been delivered or given up. With
such a batch in flight the call returns too early, and writes of the batch may come back to a
queue that nobody drains.
-/

namespace Outreach.Writes

/-- Nothing waits, nothing is in flight, and every accepted write was delivered or given up. -/
structure Processor.Quiet (p : Processor) : Prop where
  queue : p.queue = []
  flight : p.flight = []
  done : ((p.deliveries ++ p.deadLetters.map DeadLetter.write).map Write.fresh).Perm p.accepted

theorem Processor.SameWork.quiet {p q : Processor} (same : p.SameWork q) (quiet : p.Quiet) :
    q.Quiet := by
  rw [same]
  exact ⟨quiet.queue, quiet.flight, quiet.done⟩

namespace Coalescer

/-- Whatever happens later, the processor is quiet and takes no batch again. -/
def StaysQuiet (s : Coalescer) : Prop :=
  ∀ later, (s.run later).processor.Quiet ∧ (s.run later).processor.batches = s.processor.batches

/-- The first call of `stop`. -/
def firstStop? (s : Coalescer) : Option Call := s.calls.find? (·.kind = .stop)

/-- The first call of `stop` has returned. -/
def StopReturned (s : Coalescer) : Prop := ∃ call ∈ s.firstStop?, call.status = .finished

instance (s : Coalescer) : Decidable s.StopReturned :=
  inferInstanceAs (Decidable (∃ call ∈ s.firstStop?, call.status = .finished))

/-- A call of `flush` has a batch in flight. -/
def FlushFlying (s : Coalescer) : Prop :=
  ∃ call ∈ s.calls, call.kind = .flush ∧ s.holder = some (.call call.number)

instance (s : Coalescer) : Decidable s.FlushFlying :=
  inferInstanceAs (Decidable (∃ call ∈ s.calls, call.kind = .flush ∧ _ = _))

variable {s : Coalescer}

/-! ## A stopped processor without work -/

/-- Stopped, and without work. -/
structure Resting (s : Coalescer) : Prop where
  guarded : s.Guarded
  stopped : s.processor.stopped = true
  queue : s.processor.queue = []
  holder : s.holder = none

section Stopped

variable (s : Coalescer)

@[simp]
theorem timerReturns_stopped (now : Nat) (result : FlushResult) :
    (s.timerReturns now result).processor.stopped = s.processor.stopped := by
  unfold timerReturns
  split <;> rfl

@[simp]
theorem drainOn_stopped (number : Nat) :
    (s.drainOn number).processor.stopped = s.processor.stopped := by
  unfold drainOn
  split <;> simp

@[simp]
theorem callReturns_stopped (number : Nat) (result : FlushResult) :
    (s.callReturns number result).processor.stopped = s.processor.stopped := by
  cases result with
  | none => rfl
  | some report =>
      simp only [callReturns]
      split
      · split <;> simp
      · rfl

@[simp]
theorem deliver_stopped (now : Nat) (caller : Caller) (result : FlushResult) :
    (s.deliver now caller result).processor.stopped = s.processor.stopped := by
  cases caller <;> simp [deliver]

end Stopped

/-- A stop is for good. -/
theorem step_stopped (stopped : s.processor.stopped = true) (step : Step) :
    (s.step step).processor.stopped = true := by
  cases step with
  | enqueue now id patch =>
      have refused : s.processor.enqueue now id patch = .error (.stopped s.processor.name) := by
        simp [Processor.enqueue, stopped]
      rw [step_enqueue_of_error refused]
      exact stopped
  | start now kind =>
      cases kind with
      | flush =>
          simp only [step, start, startFlush]
          split <;> simpa using stopped
      | stop => simp [step, start, startStop, stopped]
  | resume number =>
      simp only [step, resume]
      split
      · split <;> simpa using stopped
      · exact stopped
  | fire =>
      simp only [step, fire]
      split <;> simpa using stopped
  | turn now =>
      simp only [step, turn]
      split
      · split <;> simpa [Processor.take] using stopped
      · exact stopped
  | finish now outcome letters =>
      simp only [step, finish]
      split
      · exact stopped
      · simpa [Processor.settle, Processor.lose, Processor.bury, Processor.land] using stopped

/-- Stopped and without work, a step finds nothing to do. -/
theorem Resting.worked_eq (resting : s.Resting) (step : Step) : s.worked step = s.processor := by
  cases step with
  | enqueue now id patch => simp [worked, Processor.enqueue, resting.stopped]
  | finish now outcome letters => simp [worked, resting.holder]
  | start | resume | fire | turn => rfl

theorem Resting.step (resting : s.Resting) (step : Step) :
    (s.step step).Resting ∧ s.processor.SameWork (s.step step).processor := by
  have reaches := step_reaches resting.guarded step
  rw [resting.worked_eq step] at reaches
  have same : s.processor.SameWork (s.step step).processor := by
    cases reaches with
    | waits same _ => exact same
    | @takes q same _ waiting _ _ =>
        rw [same] at waiting
        exact absurd resting.queue waiting
  have queue : (s.step step).processor.queue = [] := by
    rw [same]
    exact resting.queue
  have flight : (s.step step).processor.flight = [] := by
    rw [same]
    exact resting.guarded.mp resting.holder
  exact ⟨⟨reaches.guarded, step_stopped resting.stopped step, queue,
    reaches.guarded.mpr flight⟩, same⟩

theorem Resting.run (resting : s.Resting) (later : List Step) :
    s.processor.SameWork (s.run later).processor := by
  have both : (s.run later).Resting ∧ s.processor.SameWork (s.run later).processor := by
    apply run_keeps (P := fun _ => True)
      (I := fun t => t.Resting ∧ s.processor.SameWork t.processor) ?_ (fun _ _ => trivial)
    · exact ⟨resting, .refl _⟩
    · intro t step _ before
      obtain ⟨next, same⟩ := before.1.step step
      exact ⟨next, before.2.trans same⟩
  exact both.2

/-- At rest, a processor that has lost no write stays quiet. -/
theorem Resting.staysQuiet (resting : s.Resting) (accounted : s.processor.Accounted)
    (lost : s.processor.lost = []) : s.StaysQuiet := by
  have flight : s.processor.flight = [] := resting.guarded.mp resting.holder
  have done := accounted.places_perm
  simp only [Processor.places, resting.queue, flight, lost, List.map_nil, List.append_nil,
    List.nil_append] at done
  intro later
  have same := resting.run later
  constructor
  · exact same.quiet ⟨resting.queue, flight, done⟩
  · rw [same]

/-! ## When the first call of `stop` returns -/

theorem firstStop?_eq_some {call : Call} (first : s.firstStop? = some call) :
    call ∈ s.calls ∧ call.kind = .stop :=
  ⟨List.mem_of_find?_eq_some first, by simpa using List.find?_some first⟩

/-- A call of `stop` is the first one, or it is over. -/
theorem Orderly.eq_firstStop_or_finished (orderly : s.Orderly) {first other : Call}
    (firstEq : s.firstStop? = some first) (otherMem : other ∈ s.calls)
    (otherStop : other.kind = .stop) : other = first ∨ other.status = .finished := by
  obtain ⟨firstStop, before, after, callsEq, noneBefore⟩ :=
    List.find?_eq_some_iff_append.mp firstEq
  have ended := orderly.firstOpen
  rw [callsEq, List.pairwise_append, List.pairwise_cons] at ended
  rw [callsEq] at otherMem
  rcases List.mem_append.mp otherMem with otherBefore | otherAfter
  · have notStop := noneBefore other otherBefore
    simp [otherStop] at notStop
  · rcases List.mem_cons.mp otherAfter with same | otherAfter
    · exact Or.inl same
    · exact Or.inr (ended.2.1.1 other otherAfter (by simpa using firstStop) otherStop)

theorem exists_firstStop? {call : Call} (callMem : call ∈ s.calls) (isStop : call.kind = .stop) :
    ∃ first, s.firstStop? = some first := by
  apply Option.isSome_iff_exists.mp
  simp only [firstStop?, List.find?_isSome]
  exact ⟨call, callMem, by simp [isStop]⟩

theorem updateCall_firstStop? {number : Nat} {change : Call → Call}
    (sameKind : ∀ call, (change call).kind = call.kind) :
    (s.updateCall number change).firstStop? =
      s.firstStop?.map fun call => if call.number = number then change call else call := by
  simp only [firstStop?, updateCall, List.find?_map, Function.comp_def, apply_ite Call.kind,
    sameKind, ite_self]

/-- A change of a call that ends no call of `stop` does not make the first one return. -/
theorem StopReturned.of_updateCall {number : Nat} {change : Call → Call}
    (returned : (s.updateCall number change).StopReturned)
    (sameKind : ∀ call, (change call).kind = call.kind)
    (ends : ∀ call ∈ s.calls, call.number = number → call.kind = .stop →
      (change call).status = .finished → call.status = .finished) : s.StopReturned := by
  obtain ⟨call, callMem, finished⟩ := returned
  rw [updateCall_firstStop? sameKind, Option.mem_def, Option.map_eq_some_iff] at callMem
  obtain ⟨first, firstEq, rfl⟩ := callMem
  obtain ⟨firstMem, firstStop⟩ := firstStop?_eq_some firstEq
  have before : first.status = .finished := by
    split at finished
    · rename_i numberEq
      exact ends first firstMem numberEq firstStop finished
    · exact finished
  exact ⟨first, firstEq, before⟩

theorem stopReturned_of_calls_eq {t : Coalescer} (callsEq : t.calls = s.calls) :
    t.StopReturned ↔ s.StopReturned := by
  simp only [StopReturned, firstStop?, callsEq]

theorem stopReturned_reported {number : Nat} {report : Report}
    (returned : (s.reported number report).StopReturned) : s.StopReturned :=
  returned.of_updateCall (fun _ => rfl) fun _ _ _ _ finished => finished

/-- A call that drains the queue returns only when it finds it empty. -/
theorem stopReturned_drainOn {number : Nat} (returned : (s.drainOn number).StopReturned) :
    s.StopReturned ∨ s.processor.queue = [] := by
  unfold drainOn at returned
  split at returned
  · rename_i empty
    exact Or.inr (by simpa using empty)
  · rw [stopReturned_of_calls_eq (joinLine_calls _ _)] at returned
    left
    apply returned.of_updateCall (fun _ => rfl)
    intro call _ _ _ finished
    cases finished

theorem stopReturned_timerReturns {now : Nat} {report : Report}
    (returned : (s.timerReturns now (some report)).StopReturned) : s.StopReturned := by
  unfold timerReturns at returned
  split at returned
  · obtain ⟨call, callMem, finished⟩ := returned
    simp only [firstStop?, wakeAfterTimer, List.find?_map, Function.comp_def,
      apply_ite Call.kind, ite_self, Option.mem_def, Option.map_eq_some_iff] at callMem
    obtain ⟨first, firstEq, rfl⟩ := callMem
    split at finished
    · cases finished
    · exact ⟨first, firstEq, finished⟩
  · exact returned

/-- A report makes the first call of `stop` return only when it is its own and
the queue is empty. -/
theorem stopReturned_deliver {now : Nat} {caller : Caller} {report : Report} (orderly : s.Orderly)
    (waits : s.Waits caller) (returned : (s.deliver now caller (some report)).StopReturned) :
    s.StopReturned ∨ s.processor.queue = [] ∧
      ∃ call ∈ s.calls, call.kind = .stop ∧ caller = .call call.number := by
  cases caller with
  | timer => exact Or.inl (stopReturned_timerReturns returned)
  | call number =>
      obtain ⟨call, callMem, rfl, _⟩ := waits
      simp only [deliver, callReturns_some orderly callMem] at returned
      split at returned
      · rename_i isStop
        rcases stopReturned_drainOn returned with before | empty
        · exact Or.inl (stopReturned_reported before)
        · exact Or.inr ⟨empty, call, callMem, isStop, rfl⟩
      · rename_i notStop
        have reportedOrderly := reported_orderly call.number report orderly
        have reportedMem := mem_calls_reported report callMem
        left
        apply stopReturned_reported
        apply returned.of_updateCall (fun _ => rfl)
        intro other otherMem sameNumber otherStop _
        rw [reportedOrderly.eq_of_number_eq otherMem reportedMem sameNumber] at otherStop
        exact absurd otherStop notStop

theorem drainOn_of_queue_empty (number : Nat) (empty : s.processor.queue = []) :
    (s.drainOn number).processor.queue = [] ∧ (s.drainOn number).holder = s.holder := by
  simp [drainOn, empty]

/-- With an empty queue no flush begins when a result is handed over. -/
theorem deliver_of_queue_empty {now : Nat} {caller : Caller} {result : FlushResult}
    (empty : s.processor.queue = []) :
    (s.deliver now caller result).processor.queue = [] ∧
      (s.deliver now caller result).holder = s.holder := by
  cases caller with
  | timer =>
      simp only [deliver, timerReturns]
      split <;> simp [empty]
  | call number =>
      cases result with
      | none => simp [deliver, callReturns, empty]
      | some report =>
          simp only [deliver, callReturns]
          split
          · split
            · apply drainOn_of_queue_empty
              exact empty
            · simp [empty]
          · simp [empty]

/-- What a step finds and leaves when it makes the first call of `stop` return. -/
structure Returns (s t : Coalescer) : Prop where
  queue : t.processor.queue = []
  holder : t.holder = none ↔ ¬ s.FlushFlying

/-- When nobody holds the turn, no call of `flush` has a batch in flight. -/
theorem not_flushFlying_of_unheld (unheld : s.holder = none) : ¬ s.FlushFlying := by
  rintro ⟨call, _, _, held⟩
  rw [unheld] at held
  cases held

/-- At most one call of `stop` is not over. -/
theorem Orderly.openStop_unique (orderly : s.Orderly) {call other : Call} (callMem : call ∈ s.calls)
    (otherMem : other ∈ s.calls) (callStop : call.kind = .stop) (otherStop : other.kind = .stop)
    (callOpen : call.status ≠ .finished) (otherOpen : other.status ≠ .finished) :
    call = other := by
  obtain ⟨first, firstEq⟩ := exists_firstStop? callMem callStop
  have callFirst := orderly.eq_firstStop_or_finished firstEq callMem callStop
  have otherFirst := orderly.eq_firstStop_or_finished firstEq otherMem otherStop
  rw [callFirst.resolve_right callOpen, otherFirst.resolve_right otherOpen]

/-- While a call of `stop` may go on, only calls of `flush` hold the turn. -/
theorem Orderly.flushFlying_of_held (orderly : s.Orderly) {call : Call} (callMem : call ∈ s.calls)
    (ready : call.status = .ready) (held : s.holder ≠ none) : s.FlushFlying := by
  obtain ⟨isStop, off⟩ := orderly.ready call callMem ready
  obtain ⟨caller, holderEq⟩ := Option.ne_none_iff_exists'.mp held
  have waits : s.Waits caller := orderly.waits caller (by simp [callers, holderEq])
  cases caller with
  | timer =>
      have flushing : s.processor.timer = .flushing := waits
      rw [off] at flushing
      cases flushing
  | call number =>
      obtain ⟨other, otherMem, rfl, inLine⟩ := waits
      cases otherKind : other.kind with
      | flush => exact ⟨other, otherMem, otherKind, holderEq⟩
      | stop =>
          -- Of two open calls of `stop` one would be in line and the other ready.
          have same := orderly.openStop_unique callMem otherMem isStop otherKind
            (by simp [ready]) (by simp [inLine])
          rw [same, inLine] at ready
          cases ready

theorem turn_of_line {now : Nat} {caller : Caller} {rest : List Caller} (unheld : s.holder = none)
    (lineEq : s.line = caller :: rest) : s.turn now =
      if s.processor.queue.isEmpty then deliver now caller (some .empty) { s with line := rest }
      else { s with processor := s.processor.take, holder := some caller, line := rest } := by
  simp only [turn, unheld, lineEq]

/-- Who returns in its turn finds an empty queue and nothing in flight. -/
theorem turn_returns {now : Nat} (waiting : ¬ s.StopReturned)
    (returned : (s.turn now).StopReturned) : s.Returns (s.turn now) := by
  cases held : s.holder with
  | some caller =>
      simp only [turn, held] at returned
      exact absurd returned waiting
  | none =>
      cases lineEq : s.line with
      | nil =>
          simp only [turn, held, lineEq] at returned
          exact absurd returned waiting
      | cons caller rest =>
          rw [turn_of_line held lineEq] at returned ⊢
          split at returned
          · rename_i empty
            have left : ({ s with line := rest } : Coalescer).processor.queue = [] := by
              simpa using empty
            obtain ⟨queue, holder⟩ := deliver_of_queue_empty left
            rw [if_pos empty]
            exact ⟨queue, iff_of_true (holder.trans held) (not_flushFlying_of_unheld held)⟩
          · exact absurd returned waiting

theorem finish_of_held {now : Nat} {outcome : SinkOutcome} {letters : LetterStore} {caller : Caller}
    (held : s.holder = some caller) : s.finish now outcome letters =
      deliver now caller (s.processor.settle letters outcome).1
        { s with processor := (s.processor.settle letters outcome).2, holder := none } := by
  simp only [finish, held]

/-- Who returns at the end of a flight has held the turn itself. -/
theorem finish_returns {now : Nat} {outcome : SinkOutcome} (orderly : s.Orderly)
    (waiting : ¬ s.StopReturned) (returned : (s.finish now outcome .working).StopReturned) :
    s.Returns (s.finish now outcome .working) := by
  cases held : s.holder with
  | none =>
      simp only [finish, held] at returned
      exact absurd returned waiting
  | some caller =>
      rw [finish_of_held held] at returned ⊢
      have settled := settle_orderly orderly held .working outcome
      have waits : s.Waits caller := orderly.waits caller (by simp [callers, held])
      rcases stopReturned_deliver settled ((waits_congr rfl rfl caller).mpr waits) returned with
        before | ⟨empty, call, callMem, isStop, rfl⟩
      · exact absurd before waiting
      · obtain ⟨queue, holder⟩ := deliver_of_queue_empty empty
        have notFlying : ¬ s.FlushFlying := by
          rintro ⟨other, otherMem, isFlush, otherHeld⟩
          rw [held] at otherHeld
          have sameNumber : call.number = other.number := by simpa using otherHeld
          rw [orderly.eq_of_number_eq callMem otherMem sameNumber, isFlush] at isStop
          cases isStop
        exact ⟨queue, iff_of_true holder notFlying⟩

/-- A call that may go on returns when it finds the queue empty, whatever is in flight then. -/
theorem resume_returns {number : Nat} (orderly : s.Orderly) (waiting : ¬ s.StopReturned)
    (returned : (s.resume number).StopReturned) : s.Returns (s.resume number) := by
  unfold resume at returned ⊢
  split
  · rename_i call found
    simp only [found] at returned
    split
    · rename_i ready
      rw [if_pos ready] at returned
      have callMem : call ∈ s.calls := List.mem_of_find?_eq_some found
      rcases stopReturned_drainOn returned with before | empty
      · exact absurd before waiting
      · obtain ⟨queue, holder⟩ := drainOn_of_queue_empty number empty
        constructor
        · exact queue
        · rw [holder]
          constructor
          · exact not_flushFlying_of_unheld
          · intro notFlying
            by_contra held
            exact notFlying (orderly.flushFlying_of_held callMem ready held)
    · rename_i notReady
      rw [if_neg notReady] at returned
      exact absurd returned waiting
  · rename_i missing
    simp only [missing] at returned
    exact absurd returned waiting

theorem addCall_firstStop? (kind : CallKind) (status : CallStatus) (s : Coalescer) :
    (s.addCall kind status).firstStop? = s.firstStop?.or
      (if kind = .stop then some ⟨s.nextNumber, kind, status, []⟩ else none) := by
  cases kind <;> simp [firstStop?, addCall, List.find?_append]

/-- A call of `flush` that starts does not make a call of `stop` return. -/
theorem startFlush_returned {now : Nat} (orderly : s.Orderly)
    (returned : (s.startFlush now).StopReturned) : s.StopReturned := by
  have before : (s.addCall .flush .inLine).StopReturned → s.StopReturned := by
    simp [StopReturned, addCall_firstStop?]
  simp only [startFlush] at returned
  split at returned
  · rcases stopReturned_deliver (addFlush_orderly orderly) addFlush_waits returned with
      addedReturned | ⟨_, call, callMem, isStop, numberEq⟩
    · exact before addedReturned
    · have newMem : (⟨s.nextNumber, .flush, .inLine, []⟩ : Call) ∈
          (s.addCall .flush .inLine).calls := List.mem_append_right _ (List.mem_singleton_self _)
      have sameNumber : call.number = s.nextNumber := by simpa using numberEq.symm
      rw [(addFlush_orderly orderly).eq_of_number_eq callMem newMem sameNumber] at isStop
      cases isStop
  · exact before ((stopReturned_of_calls_eq (joinLine_calls _ _)).mp returned)

theorem firstStop?_of_not_stopped (orderly : s.Orderly) (accepting : s.processor.stopped = false) :
    s.firstStop? = none := by
  simp only [firstStop?, List.find?_eq_none, decide_eq_true_eq]
  exact fun call callMem => (orderly.status_of_not_stopped accepting callMem).1

/-- The first call of `stop` has not returned while it has just started. -/
theorem not_stopReturned_addCall {status : CallStatus} (noStop : s.firstStop? = none)
    (goesOn : status ≠ .finished) : ¬ (s.addCall .stop status).StopReturned := by
  simp [StopReturned, addCall_firstStop?, noStop, goesOn]

/-- The first call of `stop` returns at once when it finds no timer, and then nothing to do. -/
theorem startStop_returns (orderly : s.Orderly) (waiting : ¬ s.StopReturned)
    (returned : s.startStop.StopReturned) : s.Returns s.startStop := by
  simp only [startStop] at returned ⊢
  split at returned
  · rename_i stopped
    obtain ⟨call, callMem, isStop⟩ := orderly.stopped_iff.mp stopped
    obtain ⟨first, firstEq⟩ := exists_firstStop? callMem isStop
    simp only [StopReturned, addCall_firstStop?, firstEq, Option.some_or] at returned
    exact absurd (by simpa only [StopReturned, firstEq] using returned) waiting
  · rename_i goesOn
    rw [if_neg goesOn]
    have accepting : s.processor.stopped = false := by simpa using goesOn
    have noStop := firstStop?_of_not_stopped orderly accepting
    split at returned
    · rename_i off
      have idle : s.processor.queue = [] ∧ s.holder = none := by
        simpa [accepting, show s.processor.timer = .off from off] using orderly.armed
      obtain ⟨queue, holder⟩ := drainOn_of_queue_empty s.nextNumber
        (s := ({ s with processor := { s.processor with stopped := true } }).addCall .stop .inLine)
        idle.1
      exact ⟨queue, iff_of_true (holder.trans idle.2) (not_flushFlying_of_unheld idle.2)⟩
    · exact absurd returned (not_stopReturned_addCall noStop (by simp))
    · exact absurd returned (not_stopReturned_addCall noStop (by simp))

/-- When a step makes the first call of `stop` return, the queue is empty, and a batch is in flight
exactly when it is that of a call of `flush`. -/
theorem step_returns {step : Step} (stores : step.StoresLetters) (orderly : s.Orderly)
    (waiting : ¬ s.StopReturned) (returned : (s.step step).StopReturned) :
    s.Returns (s.step step) := by
  cases step with
  | enqueue now id patch =>
      have callsEq : (s.step (.enqueue now id patch)).calls = s.calls := by
        cases queued : s.processor.enqueue now id patch with
        | error refusal => rw [step_enqueue_of_error queued]
        | ok p => rw [step_enqueue_of_ok queued]
      exact absurd ((stopReturned_of_calls_eq callsEq).mp returned) waiting
  | start now kind =>
      cases kind with
      | flush => exact absurd (startFlush_returned orderly returned) waiting
      | stop => exact startStop_returns orderly waiting returned
  | resume number => exact resume_returns orderly waiting returned
  | fire =>
      have callsEq : s.fire.calls = s.calls := by
        unfold fire
        split <;> simp
      exact absurd ((stopReturned_of_calls_eq callsEq).mp returned) waiting
  | turn now => exact turn_returns waiting returned
  | finish now outcome letters =>
      have works : letters = .working := stores
      subst works
      exact finish_returns orderly waiting returned

/-- Once the first call of `stop` has returned, a coalescer without a batch in flight is at rest. -/
theorem Returns.resting {t : Coalescer} (returns : s.Returns t) (orderly : t.Orderly)
    (guarded : t.Guarded) (returned : t.StopReturned) (unheld : t.holder = none) : t.Resting := by
  obtain ⟨call, callMem, _⟩ := returned
  have stopped := orderly.stopped_iff.mpr ⟨call, firstStop?_eq_some callMem⟩
  exact ⟨guarded, stopped, returns.queue, unheld⟩

/-- Quiescence after a stop, for every run whose dead letters are stored. When a step makes the
first call of `stop` return, the queue is empty; and from then on nothing is ever in flight or
queued again, with every accepted write delivered or given up, exactly when no call of `flush` had a
batch in flight at that step. -/
theorem stop_quiesces_iff (name : String) (config : Config) (steps : List Step) (step : Step)
    (stores : ∀ next ∈ steps ++ [step], next.StoresLetters)
    (waiting : ¬ ((idle name config).run steps).StopReturned)
    (returned : ((idle name config).run (steps ++ [step])).StopReturned) :
    ((idle name config).run (steps ++ [step])).processor.queue = [] ∧
      (((idle name config).run (steps ++ [step])).StaysQuiet ↔
        ¬ ((idle name config).run steps).FlushFlying) := by
  have orderly : ((idle name config).run steps).Orderly :=
    run_orderly name config fun next nextMem => stores next (List.mem_append_left _ nextMem)
  have lastOrderly : ((idle name config).run (steps ++ [step])).Orderly :=
    run_orderly name config stores
  have guarded := run_guarded name config (steps ++ [step])
  have returns : ((idle name config).run steps).Returns
      ((idle name config).run (steps ++ [step])) := by
    rw [run_concat] at returned ⊢
    exact step_returns (stores step (by simp)) orderly waiting returned
  constructor
  · exact returns.queue
  · rw [← returns.holder]
    constructor
    · intro quiet
      exact guarded.mpr (quiet []).1.flight
    · intro unheld
      have resting := returns.resting lastOrderly guarded returned unheld
      exact resting.staysQuiet (run_accounted name config (steps ++ [step]))
        (run_lost (idle_guarded name config) stores)

/-- A call of `stop` finds a write behind a batch in flight, and drains it with
the batch that fails. -/
def drainedStop : List Step :=
  [.enqueue 0 "a" (.ofFields []), .start 0 .flush, .enqueue 1 "b" (.ofFields []), .start 1 .stop,
    .resume 1, .finish 2 (.raised "down") .working, .turn 2]

theorem drainedStop_staysQuiet :
    ¬ ((idle "writes" smallBatches).run drainedStop).StopReturned ∧
      ((idle "writes" smallBatches).run
        (drainedStop ++ [.finish 3 (.returned ⟨2, 0, []⟩) .working])).StopReturned ∧
      ((idle "writes" smallBatches).run
        (drainedStop ++ [.finish 3 (.returned ⟨2, 0, []⟩) .working])).StaysQuiet := by
  have quiesces := stop_quiesces_iff "writes" smallBatches drainedStop
    (.finish 3 (.returned ⟨2, 0, []⟩) .working) (by decide) (by decide) (by decide)
  exact ⟨by decide, by decide, quiesces.2.mpr (by decide)⟩

/-- A call of `flush` has taken the only write when `stop` is called. -/
def overtakenStop : List Step :=
  [.enqueue 0 "a" (.ofFields []), .start 0 .flush, .start 0 .stop]

/-- The call of `stop` returns while the batch is in flight, and the write comes back to the queue
when the store fails: it is neither delivered nor given up. -/
theorem overtakenStop_not_quiet :
    let s := (idle "writes" smallBatches).run overtakenStop
    let t := s.step (.resume 1)
    (∀ step ∈ overtakenStop ++ [.resume 1], step.StoresLetters) ∧
      ¬ s.StopReturned ∧ t.StopReturned ∧ t.processor.flight ≠ [] ∧
      (t.step (.finish 30 (.raised "down") .working)).processor.queue ≠ [] ∧ ¬ t.StaysQuiet := by
  have flying : (((idle "writes" smallBatches).run overtakenStop).step
      (.resume 1)).processor.flight ≠ [] := by decide
  exact ⟨by decide, by decide, by decide, flying, by decide,
    fun quiet => flying (quiet []).1.flight⟩

end Coalescer

end Outreach.Writes
