import Outreach.Proofs.Writes.Conservation

/-!
# What waits to be handed over

The changes in flight and those in the queue behind them wait, in the order in which they are handed
over. Taking a batch moves none of them. Only the end of a flight takes some away, and what comes
back comes back to the head.
-/

namespace Outreach.Writes

namespace Processor

variable {p q : Processor}

/-- The changes that wait: those of the batch in flight, and then those of the queue. -/
def waiting (p : Processor) : List (String × Patch) := (p.flight ++ p.queue).map Write.change

theorem enqueue_waiting {now : Nat} {id : String} {patch : Patch}
    (queued : p.enqueue now id patch = .ok q) : q.waiting = p.waiting ++ [(id, patch)] := by
  obtain ⟨_, _, rfl⟩ := enqueue_eq_ok_iff.mp queued
  rw [arm_sameWork now _]
  simp [waiting, accept, nextWrite, Write.change]

theorem take_waiting (landed : p.flight = []) : p.take.waiting = p.waiting := by
  have batch : p.take.flight.map Write.change =
      (p.queue.take p.config.batchSize).map Write.change := by
    rw [show p.take.flight = p.nextBatch from rfl, nextBatch, List.map_map]
    rfl
  unfold waiting
  rw [List.map_append, batch, landed, List.nil_append, ← List.map_append]
  exact congrArg _ (List.take_append_drop p.config.batchSize p.queue)

theorem settle_waiting (letters : LetterStore) (outcome : SinkOutcome) (p : Processor) :
    (p.settle letters outcome).2.waiting =
      (p.retries (failuresOf p.flight outcome) ++ p.queue).map Write.change := by
  simp [waiting]

/-- A batch that fails with attempts left waits as it did before. -/
theorem settle_raised_waiting (letters : LetterStore) (reason : String)
    (left : ∀ w ∈ p.flight, p.hasAttemptsLeft w = true) :
    (p.settle letters (.raised reason)).2.waiting = p.waiting := by
  have all : p.retries (failuresOf p.flight (.raised reason)) = p.flight := by
    rw [retries_failuresOf]
    simpa [SinkOutcome.fails] using left
  rw [settle_waiting, all, waiting]

end Processor

namespace Coalescer

variable {s t : Coalescer} {p : Processor}

/-- Nothing but the work of a step changes what waits. -/
theorem Reaches.waiting_eq (reaches : Reaches p t) : t.processor.waiting = p.waiting := by
  cases reaches with
  | waits same _ => rw [same]; rfl
  | takes same landed _ taken _ =>
      rw [taken, Processor.take_waiting landed, same]
      rfl

theorem step_waiting (guarded : s.Guarded) (step : Step) :
    (s.step step).processor.waiting = (s.worked step).waiting :=
  (step_reaches guarded step).waiting_eq

end Coalescer

end Outreach.Writes
