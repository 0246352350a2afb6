import Outreach.Proofs.Writes.Timer

/-!
# Dead letters that cannot be stored

A flush hands its dead letters over group by group, after the writes with attempts left have gone
back to the queue. When a group cannot be stored the flush fails, and the writes of this group and
of the groups after it are in no place any more: they are lost. What else is left behind depends on
who asked for the flush. The timer goes away with its own flush and leaves the queue without a
timer; a call of `stop` fails with its own flush or with that of the timer, and no later call of
`stop` drains what is left.
-/

namespace Outreach.Writes

namespace Processor

/-- The tickets of the dead letters that could not be stored. -/
def lostTickets (p : Processor) : List Nat := p.lost.map fun letter => letter.write.ticket

/-- A lost write is in no place. -/
theorem Accounted.notMem_places {p : Processor} (accounted : p.Accounted) {ticket : Nat}
    (lost : ticket ∈ p.lostTickets) : ticket ∉ p.places.map Write.ticket := by
  have distinct : ((p.places ++ p.lost.map DeadLetter.write).map Write.ticket).Nodup :=
    accounted.tickets_perm.symm.nodup List.nodup_range
  rw [List.map_append, List.map_map] at distinct
  exact fun placed => List.disjoint_of_nodup_append distinct placed lost

/-- No change brings a lost write back. -/
theorem Change.mem_lostTickets {p q : Processor} (change : Change p q) {ticket : Nat}
    (lost : ticket ∈ p.lostTickets) : ticket ∈ q.lostTickets := by
  cases change with
  | mark timer stopped => exact lost
  | accept id patch => exact lost
  | settle letters outcome flying =>
      rw [lostTickets, settle_lost, List.map_append]
      exact List.mem_append_left _ lost
  | take landed waiting => exact lost

/-- A ticket belongs to one of the writes in flight and in the queue. -/
theorem InOrder.eq_of_ticket_eq {p : Processor} (ordered : p.InOrder) {first second : Write}
    (firstMem : first ∈ p.flight ++ p.queue) (secondMem : second ∈ p.flight ++ p.queue)
    (sameTicket : first.ticket = second.ticket) : first = second := by
  have distinct : ((p.flight ++ p.queue).map Write.ticket).Nodup :=
    ordered.imp fun less => Nat.ne_of_lt less
  exact List.inj_on_of_nodup_map distinct firstMem secondMem sameTicket

section Settle

variable {p : Processor} (letters : LetterStore) {outcome : SinkOutcome} {w : Write}

/-- A write that the end of its flight does not deliver is one that the outcome fails. -/
theorem fails_of_notMem_deliveries (flying : w ∈ p.flight)
    (undelivered : w.ticket ∉ (p.settle letters outcome).2.deliveries.map Write.ticket) :
    outcome.fails w = true := by
  rw [settle_deliveries, deliveriesOf_eq_filter, List.map_append] at undelivered
  by_contra succeeds
  apply undelivered
  apply List.mem_append_right
  exact List.mem_map_of_mem (List.mem_filter.mpr ⟨flying, by simpa using succeeds⟩)

/-- A write of the batch that was not delivered is back in the queue exactly if
it has attempts left. -/
theorem mem_queue_settle_iff (ordered : p.InOrder) (flying : w ∈ p.flight)
    (undelivered : w.ticket ∉ (p.settle letters outcome).2.deliveries.map Write.ticket) :
    w.ticket ∈ (p.settle letters outcome).2.queue.map Write.ticket ↔
      p.hasAttemptsLeft w = true := by
  have fails := fails_of_notMem_deliveries letters flying undelivered
  rw [settle_queue, retries_failuresOf]
  constructor
  · intro queued
    obtain ⟨other, otherMem, sameTicket⟩ := List.mem_map.mp queued
    have waiting : other ∈ p.flight ++ p.queue := by
      rcases List.mem_append.mp otherMem with returning | behind
      · exact List.mem_append_left _ (List.mem_of_mem_filter (List.mem_of_mem_filter returning))
      · exact List.mem_append_right _ behind
    have same := ordered.eq_of_ticket_eq waiting (List.mem_append_left _ flying) sameTicket
    rcases List.mem_append.mp otherMem with returning | behind
    · rw [← same]
      exact (List.mem_filter.mp returning).2
    · -- The write is in flight, so it cannot also stand in the queue behind the batch.
      unfold InOrder at ordered
      rw [List.map_append, List.pairwise_append] at ordered
      have less := ordered.2.2 w.ticket (List.mem_map_of_mem flying) other.ticket
        (List.mem_map_of_mem behind)
      omega
  · intro attemptsLeft
    apply List.mem_map_of_mem
    apply List.mem_append_left
    exact List.mem_filter.mpr ⟨List.mem_filter.mpr ⟨flying, fails⟩, attemptsLeft⟩

/-- A write of the batch without attempts left that was neither delivered nor stored is lost. -/
theorem mem_lostTickets_settle (flying : w ∈ p.flight) (spent : p.hasAttemptsLeft w = false)
    (undelivered : w.ticket ∉ (p.settle letters outcome).2.deliveries.map Write.ticket)
    (unstored : w.ticket ∉ (p.settle letters outcome).2.deadTickets) :
    w.ticket ∈ (p.settle letters outcome).2.lostTickets := by
  have fails := fails_of_notMem_deliveries letters flying undelivered
  have givenUp : w ∈ (lettersOf (p.exhausted (failuresOf p.flight outcome))).map
      DeadLetter.write := by
    rw [(p.map_write_exhausted p.flight outcome).mem_iff]
    simp [flying, fails, spent]
  obtain ⟨letter, letterMem, rfl⟩ := List.mem_map.mp givenUp
  rw [← letters.stored_append_refused (p.exhausted _), lettersOf_append] at letterMem
  rw [deadTickets, settle_deadLetters, List.map_append] at unstored
  rw [lostTickets, settle_lost, List.map_append]
  rcases List.mem_append.mp letterMem with stored | refused
  · exact absurd (List.mem_append_right _ (List.mem_map_of_mem stored)) unstored
  · exact List.mem_append_right _ (List.mem_map_of_mem refused)

/-- When groups are refused, a write of the batch without attempts left is lost. -/
theorem exists_mem_lostTickets_settle
    (refused : letters.refused (p.exhausted (failuresOf p.flight outcome)) ≠ []) :
    ∃ w ∈ p.flight, p.hasAttemptsLeft w = false ∧
      w.ticket ∈ (p.settle letters outcome).2.lostTickets := by
  obtain ⟨group, groupMem⟩ := List.exists_mem_of_ne_nil _ refused
  have grouped := letters.refused_subset _ groupMem
  obtain ⟨w, wMem⟩ := List.exists_mem_of_ne_nil _ (ne_nil_of_mem_groupByReason grouped)
  have letterMem {groups : List (String × List Write)} (mem : group ∈ groups) :
      ⟨w, group.1⟩ ∈ lettersOf groups :=
    List.mem_flatMap.mpr ⟨group, mem, List.mem_map_of_mem wMem⟩
  have givenUp : w ∈ (p.flight.filter outcome.fails).filter fun w => !p.hasAttemptsLeft w := by
    rw [← (p.map_write_exhausted p.flight outcome).mem_iff]
    exact List.mem_map_of_mem (letterMem grouped)
  simp only [List.mem_filter, Bool.not_eq_true'] at givenUp
  refine ⟨w, givenUp.1.1, givenUp.2, ?_⟩
  rw [lostTickets, settle_lost, List.map_append]
  exact List.mem_append_right _ (List.mem_map_of_mem (letterMem groupMem))

end Settle

end Processor

namespace Coalescer

variable {s : Coalescer}

theorem run_mem_lostTickets (guarded : s.Guarded) {ticket : Nat}
    (lost : ticket ∈ s.processor.lostTickets) (later : List Step) :
    ticket ∈ (s.run later).processor.lostTickets :=
  (run_induction (I := fun p => ticket ∈ p.lostTickets) (fun change => change.mem_lostTickets)
    later guarded lost).2

/-- A call of `stop` after the first is over at once and does nothing else. -/
theorem step_stop_of_stopped (stopped : s.processor.stopped = true) (now : Nat) :
    s.step (.start now .stop) = s.addCall .stop .finished := by
  simp [step, start, startStop, stopped]

theorem run_stopped (stopped : s.processor.stopped = true) (later : List Step) :
    (s.run later).processor.stopped = true :=
  run_keeps (P := fun _ => True) (I := fun t => t.processor.stopped = true)
    (fun {_ step} _ stopped => step_stopped stopped step) (fun _ _ => trivial) stopped

/-! ## A flush that fails -/

/-- The call fails together with a flush of the caller: the flush is its own, or the call waits for
that of the timer. -/
def Call.failsWith (caller : Caller) (c : Call) : Bool :=
  match caller with
  | .timer => c.status = .awaitingTimer
  | .call number => c.number = number

/-- A flush that fails takes no new batch. The timer goes away with its own, and the failure reaches
the calls that wait for the flush. -/
theorem deliver_none (now : Nat) (caller : Caller) (s : Coalescer) :
    s.deliver now caller none = { s with
      processor := { s.processor with
        timer := if caller = .timer then .off else s.processor.timer }
      calls := s.calls.map fun c =>
        if Call.failsWith caller c then { c with status := .failed } else c } := by
  cases caller with
  | timer => simp [deliver, timerReturns, wakeAfterTimer, Call.failsWith]
  | call number => simp [deliver, callReturns, updateCall, Call.failsWith]

theorem finish_of_refused {now : Nat} {outcome : SinkOutcome} {letters : LetterStore}
    {caller : Caller} (held : s.holder = some caller)
    (refused :
      letters.refused (s.processor.exhausted (failuresOf s.processor.flight outcome)) ≠ []) :
    s.finish now outcome letters = deliver now caller none
      { s with processor := (s.processor.settle letters outcome).2, holder := none } := by
  rw [finish_of_held held]
  simp [Processor.settle, refused]

/-! ## A stopped coalescer that nobody flushes -/

/-- Stopped, with nothing in flight and nobody who waits. -/
structure Deserted (s : Coalescer) : Prop where
  stopped : s.processor.stopped = true
  unheld : s.holder = none
  line : s.line = []
  ended : ∀ call ∈ s.calls, call.isOver = true
  timer : ∀ due, s.processor.timer ≠ .counting due

/-- Without a call of `flush` nothing happens to the writes any more. -/
theorem Deserted.step (deserted : s.Deserted) {step : Step} (asks : step.AsksNoFlush) :
    (s.step step).Deserted ∧ (s.step step).processor = s.processor := by
  have unchanged (same : s.step step = s) :
      (s.step step).Deserted ∧ (s.step step).processor = s.processor := by
    rw [same]
    exact ⟨deserted, rfl⟩
  cases step with
  | enqueue now id patch =>
      have refused : s.processor.enqueue now id patch = .error (.stopped s.processor.name) := by
        simp [Processor.enqueue, deserted.stopped]
      exact unchanged (step_enqueue_of_error refused)
  | start now kind =>
      cases kind with
      | flush => exact absurd asks not_false
      | stop =>
          rw [step_stop_of_stopped deserted.stopped]
          refine ⟨{ deserted with ended := ?_ }, rfl⟩
          intro call callMem
          rcases List.mem_append.mp callMem with before | last
          · exact deserted.ended call before
          · rw [List.mem_singleton.mp last]
            rfl
  | resume number =>
      apply unchanged
      simp only [Coalescer.step, resume]
      split
      · rename_i call found
        have ended := deserted.ended call (List.mem_of_find?_eq_some found)
        have notReady : call.status ≠ .ready := by
          intro ready
          simp [Call.isOver, ready] at ended
        rw [if_neg notReady]
      · rfl
  | fire =>
      apply unchanged
      simp only [Coalescer.step, fire]
      split
      · rename_i due counting
        exact absurd counting (deserted.timer due)
      · rfl
  | turn now =>
      apply unchanged
      simp [Coalescer.step, turn, deserted.unheld, deserted.line]
  | finish now outcome letters =>
      apply unchanged
      simp only [Coalescer.step, finish, deserted.unheld]

theorem Deserted.run (deserted : s.Deserted) {later : List Step}
    (asks : ∀ step ∈ later, step.AsksNoFlush) : (s.run later).processor = s.processor := by
  have both : (s.run later).Deserted ∧ (s.run later).processor = s.processor := by
    apply run_keeps (P := Step.AsksNoFlush)
      (I := fun t => t.Deserted ∧ t.processor = s.processor) ?_ asks ⟨deserted, rfl⟩
    intro t step asksStep before
    obtain ⟨next, same⟩ := before.1.step asksStep
    exact ⟨next, same.trans before.2⟩
  exact both.2

/-! ## What is left behind -/

/-- What a flush of the caller, begun at `s` and failed at `t`, leaves behind. -/
structure LeavesBehind (caller : Caller) (s t : Coalescer) : Prop where
  /-- A write of the batch that was not delivered is back in the queue exactly if
  it has attempts left. -/
  back : ∀ w ∈ s.processor.flight, w.ticket ∉ t.processor.deliveries.map Write.ticket →
    (w.ticket ∈ t.processor.queue.map Write.ticket ↔ s.processor.hasAttemptsLeft w = true)
  /-- A write of the batch without attempts left that was neither delivered nor stored is in no
  place, now and for ever. -/
  gone : ∀ w ∈ s.processor.flight, w.ticket ∉ t.processor.deliveries.map Write.ticket →
    w.ticket ∉ t.processor.deadTickets → s.processor.hasAttemptsLeft w = false →
    ∀ later, w.ticket ∉ (t.run later).processor.places.map Write.ticket
  /-- There is such a write. -/
  loses : ∃ w ∈ s.processor.flight, s.processor.hasAttemptsLeft w = false ∧
    ∀ later, w.ticket ∉ (t.run later).processor.places.map Write.ticket
  /-- The timer goes away with its own flush and with no other. -/
  timer : t.processor.timer = if caller = .timer then .off else s.processor.timer
  /-- The failure reaches the call whose flush it was, or the calls that wait for the timer. -/
  calls : t.calls = s.calls.map fun c =>
    if Call.failsWith caller c then { c with status := .failed } else c
  /-- After a stop, a call of `stop` changes no write and is over at once, now and for ever. -/
  stop : t.processor.stopped = true → ∀ later now,
    (t.run later).step (.start now .stop) = (t.run later).addCall .stop .finished
  /-- What is left in the queue then stays there until a call of `flush`, unless a
  call still waits. -/
  stays : t.processor.stopped = true → t.line = [] → (∀ call ∈ t.calls, call.isOver = true) →
    ∀ later, (∀ step ∈ later, step.AsksNoFlush) →
      (t.run later).processor.queue = t.processor.queue

/-- Dead letters that cannot be stored. Whenever they cannot, in a flush of the timer or of a call,
at whatever group of them: the writes of the batch with attempts left are back in the queue, and
every other write of the batch that was neither delivered nor stored is lost for good; there is one.
A timer is still there afterwards unless the flush was its own: then the queue stands without a
timer. And after a stop no later call of `stop` drains it. -/
theorem refused_letters_are_lost (name : String) (config : Config) (steps : List Step) (now : Nat)
    (outcome : SinkOutcome) (letters : LetterStore) (caller : Caller)
    (held : ((idle name config).run steps).holder = some caller)
    (refused : letters.refused (((idle name config).run steps).processor.exhausted
      (failuresOf ((idle name config).run steps).processor.flight outcome)) ≠ []) :
    let s := (idle name config).run steps
    let t := s.step (.finish now outcome letters)
    LeavesBehind caller s t ∧
      ((∀ step ∈ steps, step.StoresLetters) → s.processor.stopped = false →
        (t.processor.stateWord = "armed" ↔ caller ≠ .timer)) := by
  intro s t
  have guarded : s.Guarded := run_guarded name config steps
  have ordered : s.processor.InOrder := run_inOrder name config steps
  have runEq (later : List Step) : t.run later =
      (idle name config).run (steps ++ [.finish now outcome letters] ++ later) := by
    rw [run_append, run_concat]
  have tGuarded : t.Guarded := (step_reaches guarded _).guarded
  have tEq : t = deliver now caller none
      { s with processor := (s.processor.settle letters outcome).2, holder := none } :=
    finish_of_refused held refused
  rw [deliver_none] at tEq
  have work : (s.processor.settle letters outcome).2.SameWork t.processor := by
    rw [tEq]
    rfl
  have nowhere {ticket : Nat} (lost : ticket ∈ (s.processor.settle letters outcome).2.lostTickets)
      (later : List Step) : ticket ∉ (t.run later).processor.places.map Write.ticket := by
    have accounted : (t.run later).processor.Accounted := by
      rw [runEq later]
      exact run_accounted name config _
    apply accounted.notMem_places
    apply run_mem_lostTickets tGuarded
    rw [work]
    exact lost
  have timer : t.processor.timer = if caller = .timer then .off else s.processor.timer := by
    rw [tEq]
    rfl
  have stopped : t.processor.stopped = s.processor.stopped := by
    rw [tEq]
    rfl
  refine ⟨⟨?_, ?_, ?_, timer, ?_, ?_, ?_⟩, ?_⟩
  · intro w flying undelivered
    rw [work] at undelivered ⊢
    exact Processor.mem_queue_settle_iff letters ordered flying undelivered
  · intro w flying undelivered unstored spent
    rw [work] at undelivered unstored
    exact nowhere (Processor.mem_lostTickets_settle letters flying spent undelivered unstored)
  · obtain ⟨w, flying, spent, lost⟩ := Processor.exists_mem_lostTickets_settle letters refused
    exact ⟨w, flying, spent, nowhere lost⟩
  · rw [tEq]
  · intro stoppedLast later moment
    exact step_stop_of_stopped (run_stopped stoppedLast later) moment
  · intro stoppedLast alone ended later asks
    have placed : t.TimerPlaced := step_timerPlaced _ (run_timerPlaced name config steps)
    have deserted : t.Deserted :=
      { stopped := stoppedLast
        unheld := by rw [tEq]
        line := alone
        ended := ended
        timer := by
          intro due counting
          rw [placed.counting due counting] at stoppedLast
          cases stoppedLast }
    rw [deserted.run asks]
  · intro stores accepting
    have orderly : s.Orderly := run_orderly name config stores
    have runs : s.processor.timer ≠ .off := by
      intro off
      have unheld := guarded.mpr (orderly.idle_of_off guarded accepting off).2
      rw [show s.holder = some caller from held] at unheld
      cases unheld
    rw [Processor.stateWord_of_accepting (stopped.trans accepting), timer]
    by_cases own : caller = .timer <;> simp [own, runs]

/-- A write has failed once, and another one waits behind it. -/
def failedOnce : List Step :=
  [.enqueue 0 "a" (.ofFields []), .start 1 .flush, .finish 2 (.raised "down") .working,
    .enqueue 3 "b" (.ofFields [])]

/-- The timer's flush fails for both: one write is lost, and the other waits without a timer. -/
theorem failedOnce_leaves_behind :
    let s := (idle "writes" smallBatches).run (failedOnce ++ [.fire])
    let t := s.step (.finish 4 (.raised "down") .failing)
    s.holder = some .timer ∧ LeavesBehind .timer s t ∧
      t.processor.queue.map Write.ticket = [1] ∧ t.processor.stateWord = "idle" := by
  have held : ((idle "writes" smallBatches).run (failedOnce ++ [.fire])).holder = some .timer := by
    decide
  have refused := refused_letters_are_lost "writes" smallBatches (failedOnce ++ [.fire]) 4
    (.raised "down") .failing .timer
  have left := refused held (by decide)
  exact ⟨held, left.1, by decide, by decide⟩

/-- Nothing of the write that is out of attempts is left, whoever has asked for the flush; after the
timer's flush the other write has no timer, and after that of a call of `stop` the next such call
leaves it where it is. -/
theorem failedOnce_not_kept :
    let timed := (idle "writes" smallBatches).run
      (failedOnce ++ [.fire, .finish 4 (.raised "down") .failing])
    let stopped := (idle "writes" smallBatches).run
      (failedOnce ++ [.start 3 .stop, .resume 1, .finish 4 (.raised "down") .failing])
    let again := stopped.step (.start 5 .stop)
    (0 ∉ timed.processor.places.map Write.ticket ∧ timed.processor.stopped = false ∧
        timed.processor.queue.map Write.ticket = [1] ∧ timed.processor.timer = .off) ∧
      (0 ∉ stopped.processor.places.map Write.ticket ∧
        stopped.processor.queue.map Write.ticket = [1] ∧
        again.calls.map Call.status = [.finished, .failed, .finished] ∧
        again.processor.queue.map Write.ticket = [1] ∧ again.processor.flight.length = 0) := by
  decide

end Coalescer

end Outreach.Writes
