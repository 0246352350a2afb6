import Outreach.Proofs.Store.Deliveries
import Outreach.Proofs.Writes.Waiting

/-!
# A table that gives up nothing by accident

A batch may fail as a whole and be tried again. As long as its writes have attempts left, they wait
as they did before, so such a failure leaves no trace: every write waits until the table has taken
it or refused it.
-/

namespace Outreach.Store

open Writes (Write Coalescer Step LetterStore)

/-- A step that queues nothing, of a coalescer over a table that fails with a batch only while all
its writes have attempts left. -/
inductive SteadyStep (s : Coalescer) (t : Table) : Coalescer → Table → Prop
  | work (step : Step) (goesOn : ¬ step.EndsFlight) (queuesNot : ¬ QueuesWrite step) :
      SteadyStep s t (s.step step) t
  /-- The batch fails, or runs out of time, before anything is applied, and will be tried again. -/
  | fail (now : Nat) (reason : String) (letters : LetterStore)
      (left : ∀ w ∈ s.processor.flight, s.processor.hasAttemptsLeft w = true) :
      SteadyStep s t (s.step (.finish now (.raised reason) letters)) t
  /-- The table takes the batch in flight. -/
  | apply (now : Nat) (clock : Clock) (letters : LetterStore) {next : Table}
      {result : Writes.BulkResult} (flying : s.processor.flight ≠ [])
      (upserted : t.upsert clock s.processor.flight = (next, .ok result)) :
      SteadyStep s t (s.step (.finish now (.returned result) letters)) next

variable {s s' : Coalescer} {t t' : Table}

theorem SteadyStep.tableStep (step : SteadyStep s t s' t') : TableStep s t s' t' := by
  cases step with
  | work step goesOn queuesNot => exact .work step goesOn queuesNot
  | fail now reason letters left => exact .fail now reason letters
  | apply now clock letters flying upserted => exact .apply now clock letters flying upserted

/-- A batch that the table does not give up is a steady step. -/
theorem SteadyStep.sink (now : Nat) (clock : Clock) (letters : LetterStore)
    (flying : s.processor.flight ≠ [])
    (taken : (t.upsert clock s.processor.flight).2.isOk = true) :
    SteadyStep s t (s.step (.finish now (t.sink clock s.processor.flight).1 letters))
      (t.sink clock s.processor.flight).2 := by
  cases upserted : t.upsert clock s.processor.flight with
  | mk next outcome =>
      rw [upserted] at taken
      cases outcome with
      | error why => cases taken
      | ok result =>
          simp only [Table.sink, upserted]
          exact .apply now clock letters flying upserted

/-- A step that queues nothing and ends no flight leaves everything waiting as it was. -/
theorem step_waiting_of_goesOn (guarded : s.Guarded) {step : Step} (goesOn : ¬ step.EndsFlight)
    (queuesNot : ¬ QueuesWrite step) : (s.step step).processor.waiting = s.processor.waiting := by
  rw [Coalescer.step_waiting guarded]
  cases step with
  | enqueue => exact absurd trivial queuesNot
  | finish => exact absurd trivial goesOn
  | start | resume | fire | turn => rfl

/-- A batch that fails with attempts left waits as it did before. -/
theorem step_waiting_of_raised (guarded : s.Guarded) (now : Nat) (reason : String)
    (letters : LetterStore)
    (left : ∀ w ∈ s.processor.flight, s.processor.hasAttemptsLeft w = true) :
    (s.step (.finish now (.raised reason) letters)).processor.waiting = s.processor.waiting := by
  rw [Coalescer.step_waiting guarded]
  simp only [Coalescer.worked]
  split
  · rfl
  · exact Writes.Processor.settle_raised_waiting letters reason left

/-- Of a batch that has ended, only writes of the batch come back, to the head of the queue. -/
theorem step_waiting_of_returned (guarded : s.Guarded) (now : Nat) (result : Writes.BulkResult)
    (letters : LetterStore) (flying : s.processor.flight ≠ []) :
    ∃ back, back.Sublist s.processor.flight ∧
      (s.step (.finish now (.returned result) letters)).processor.waiting =
        (back ++ s.processor.queue).map Write.change := by
  have held : s.holder ≠ none := mt guarded.mp flying
  have waitingEq := Coalescer.step_waiting guarded (.finish now (.returned result) letters)
  simp only [Coalescer.worked, if_neg held, Writes.Processor.settle_waiting] at waitingEq
  exact ⟨_, s.processor.retries_sublist s.processor.flight (.returned result), waitingEq⟩

/-- What a steady step does: everything waits as it did before, or the table has taken the batch,
and some writes of the batch may have come back. -/
inductive Advances (s : Coalescer) (t : Table) (s' : Coalescer) : Table → Prop
  | waits (waitingEq : s'.processor.waiting = s.processor.waiting)
      (deliveriesEq : s'.processor.deliveries = s.processor.deliveries) : Advances s t s' t
  | batch {clock : Clock} {marked : List (Write × Bool)} {final : Session}
      {back : List Write} (markedEq : marked.map Prod.fst = s.processor.flight)
      (takesAll : (Session.start t).TakesAll clock marked final)
      (deliveriesEq : s'.processor.deliveries = s.processor.deliveries ++ acceptedOf marked)
      (comesBack : back.Sublist s.processor.flight)
      (waitingEq : s'.processor.waiting = (back ++ s.processor.queue).map Write.change) :
      Advances s t s' final.table

theorem SteadyStep.advances (step : SteadyStep s t s' t') (regular : Regular s) :
    Advances s t s' t' := by
  cases step with
  | work step goesOn queuesNot =>
      exact .waits (step_waiting_of_goesOn regular.guarded goesOn queuesNot)
        (regular.step_goesOn goesOn).2
  | fail now reason letters left =>
      exact .waits (step_waiting_of_raised regular.guarded now reason letters left)
        (Coalescer.step_finish_raised regular.guarded now reason letters regular.byId).2
  | @apply now clock letters next result flying upserted =>
      rcases regular.takesBatch now letters flying upserted with
        ⟨marked, final, markedEq, takesAll, rfl, -, deliveriesEq⟩
      rcases step_waiting_of_returned regular.guarded now result letters flying with
        ⟨back, comesBack, waitingEq⟩
      exact .batch markedEq takesAll deliveriesEq comesBack waitingEq

end Outreach.Store
