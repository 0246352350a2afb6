import Outreach.Proofs.Writes.Conservation

/-!
# Flushes in turn

Tickets are given in the order of acceptance, so a list of writes is in that order when its tickets
increase. The batch in flight followed by the queue is always in that order: a batch is taken from
the head of the queue, and what comes back to the head is a part of the batch that keeps its order.
With the conservation of writes it follows that nothing overtakes an earlier write.
-/

namespace Outreach.Writes

namespace Processor

/-- The batch in flight and then the queue, in the order of acceptance. -/
def InOrder (p : Processor) : Prop :=
  ((p.flight ++ p.queue).map Write.ticket).Pairwise (· < ·)

theorem Accounted.tickets_perm {p : Processor} (accounted : p.Accounted) :
    ((p.places ++ p.lost.map DeadLetter.write).map Write.ticket).Perm
      (List.range p.accepted.length) := by
  rw [← accounted.tickets]
  simpa only [List.map_map, Function.comp_def, Write.fresh_ticket] using
    accounted.places_perm.map Write.ticket

/-- Every waiting write has a ticket that was given. -/
theorem Accounted.ticket_lt {p : Processor} (accounted : p.Accounted) {ticket : Nat}
    (ticketMem : ticket ∈ (p.flight ++ p.queue).map Write.ticket) :
    ticket < p.accepted.length := by
  apply List.mem_range.mp
  apply accounted.tickets_perm.subset
  simp only [List.map_append, List.mem_append, places] at ticketMem ⊢
  tauto

theorem accept_inOrder {p : Processor} (id : String) (patch : Patch) (accounted : p.Accounted)
    (ordered : p.InOrder) : (p.accept id patch).InOrder := by
  simp only [InOrder, accept, ← List.append_assoc]
  rw [List.map_append, List.pairwise_append]
  refine ⟨ordered, by simp, ?_⟩
  intro ticket ticketMem next nextMem
  have nextEq : next = p.accepted.length := by simpa [nextWrite] using nextMem
  rw [nextEq]
  exact accounted.ticket_lt ticketMem

/-- Writes that come back to the head of the queue keep their order. -/
theorem settle_inOrder {p : Processor} (letters : LetterStore) (outcome : SinkOutcome)
    (ordered : p.InOrder) : (p.settle letters outcome).2.InOrder := by
  have returning := (p.retries_sublist p.flight outcome).append_right p.queue
  exact ordered.sublist (returning.map Write.ticket)

@[simp]
theorem map_ticket_nextBatch (p : Processor) :
    p.nextBatch.map Write.ticket = (p.queue.take p.config.batchSize).map Write.ticket := by
  rw [nextBatch, List.map_map]
  rfl

theorem take_inOrder {p : Processor} (landed : p.flight = []) (ordered : p.InOrder) :
    p.take.InOrder := by
  have parts := List.take_append_drop p.config.batchSize p.queue
  unfold InOrder at ordered ⊢
  rw [landed, List.nil_append, ← parts] at ordered
  simpa [take] using ordered

/-- Every change keeps the order of the waiting writes. -/
theorem Change.inOrder {p q : Processor} (change : Change p q) (accounted : p.Accounted)
    (ordered : p.InOrder) : q.InOrder := by
  cases change with
  | mark timer stopped => exact ordered
  | accept id patch => exact accept_inOrder id patch accounted ordered
  | settle letters outcome _ => exact settle_inOrder letters outcome ordered
  | take landed _ => exact take_inOrder landed ordered

/-- The flight holds the oldest writes of a queue, as many as fit into a batch, and no others. -/
structure TakenFrom (found : List Write) (batchSize : Nat) (p : Processor) : Prop where
  nonempty : found ≠ []
  flight : p.flight.map Write.ticket =
    (found.map Write.ticket).take (min batchSize found.length)
  queue : p.queue = found.drop (min batchSize found.length)

theorem take_takenFrom {p : Processor} (waiting : p.queue ≠ []) :
    TakenFrom p.queue p.config.batchSize p.take where
  nonempty := waiting
  flight := by
    have flight : p.take.flight.map Write.ticket = _ := p.map_ticket_nextBatch
    rw [flight, List.map_take, List.take_eq_take_min, List.length_map]
  queue := List.drop_eq_drop_min

/-- Whatever was accepted before a write in flight stands before it in the
batch, or is done with. -/
theorem earlier_done {p : Processor} (accounted : p.Accounted) (ordered : p.InOrder)
    {before after : List Write} {w : Write} (flightEq : p.flight = before ++ w :: after)
    {ticket : Nat} (earlier : ticket < w.ticket) :
    ticket ∈ before.map Write.ticket ∨ ticket ∈ p.deliveries.map Write.ticket ∨
      ticket ∈ p.deadLetters.map (·.write.ticket) ∨ ticket ∈ p.lost.map (·.write.ticket) := by
  have given : ticket < p.accepted.length := by
    have wGiven : w.ticket < p.accepted.length := accounted.ticket_lt (by simp [flightEq])
    omega
  have somewhere : ticket ∈ (p.places ++ p.lost.map DeadLetter.write).map Write.ticket :=
    accounted.tickets_perm.symm.subset (List.mem_range.mpr given)
  -- Behind the write in flight, in the batch or in the queue, all tickets are greater than its own.
  have behind : ∀ other ∈ (after ++ p.queue).map Write.ticket, w.ticket < other := by
    unfold InOrder at ordered
    rw [flightEq, List.append_assoc, List.map_append, List.cons_append, List.map_cons] at ordered
    exact (List.pairwise_cons.mp (List.pairwise_append.mp ordered).2.1).1
  have notBehind : ticket ∉ (after ++ p.queue).map Write.ticket := fun ticketMem =>
    absurd (behind ticket ticketMem) (by omega)
  have notSame : ticket ≠ w.ticket := by omega
  simp only [places, flightEq, List.map_append, List.map_cons, List.map_map, List.mem_append,
    List.mem_cons, Function.comp_def] at somewhere notBehind ⊢
  tauto

end Processor

namespace Coalescer

variable {s : Coalescer}

/-- The writes of every run are accounted for and in order. -/
theorem run_inOrder (name : String) (config : Config) (steps : List Step) :
    ((idle name config).run steps).processor.InOrder := by
  have both := (run_induction (I := fun p => p.Accounted ∧ p.InOrder)
    (fun change holds => ⟨change.accounted holds.1, change.inOrder holds.1 holds.2⟩) steps
    (idle_guarded name config) ⟨Processor.idle_accounted name config, List.Pairwise.nil⟩).2
  exact both.2

theorem run_config (name : String) (config : Config) (steps : List Step) :
    ((idle name config).run steps).processor.config = config := by
  refine (run_induction (I := fun p => p.config = config) ?_ steps
    (idle_guarded name config) rfl).2
  intro p q change configEq
  cases change <;> exact configEq

/-- A step that takes a batch takes the oldest writes of the queue that it finds. -/
theorem step_takenFrom (guarded : s.Guarded) (step : Step) :
    (s.step step).processor.batches = s.processor.batches ∨
      (s.step step).processor.batches =
          s.processor.batches ++ [(s.step step).processor.flight.map Write.ticket] ∧
        (s.step step).processor.TakenFrom (s.worked step).queue s.processor.config.batchSize := by
  have workedBatches : (s.worked step).batches = s.processor.batches :=
    worked_view_eq Processor.batches (fun _ _ _ => rfl) (fun _ _ _ => rfl) (fun _ _ _ => rfl) step
  have workedConfig : (s.worked step).config = s.processor.config :=
    worked_view_eq Processor.config (fun _ _ _ => rfl) (fun _ _ _ => rfl) (fun _ _ _ => rfl) step
  cases step_reaches guarded step with
  | waits same _ =>
      left
      rw [same, ← workedBatches]
  | @takes q same landed waiting taken _ =>
      right
      have queueEq : q.queue = (s.worked step).queue := by rw [same]
      have configEq : q.config = s.processor.config := by rw [same, ← workedConfig]
      have batchesEq : q.batches = s.processor.batches := by rw [same, ← workedBatches]
      have oldest := Processor.take_takenFrom waiting
      rw [queueEq, configEq] at oldest
      rw [taken]
      refine ⟨?_, oldest⟩
      rw [← batchesEq]
      rfl

/-- In every run at most one batch is with the store, the batch in flight and the queue behind it
stand in the order of acceptance, and a step that takes a batch takes the oldest writes of the
queue, as many as fit. So whatever was accepted before a write in flight has been delivered or given
up by then, or stands before it in its batch. -/
theorem run_flushes_in_turn (name : String) (config : Config) (steps : List Step) :
    let s := (idle name config).run steps
    let p := s.processor
    (p.batches = p.landed ++ p.openBatches ∧ p.openBatches.length ≤ 1) ∧
      p.accepted.map Write.ticket = List.range p.accepted.length ∧
      ((p.flight ++ p.queue).map Write.ticket).Pairwise (· < ·) ∧
      (∀ step, (s.step step).processor.batches = p.batches ∨
        (s.step step).processor.batches =
            p.batches ++ [(s.step step).processor.flight.map Write.ticket] ∧
          (s.step step).processor.TakenFrom (s.worked step).queue config.batchSize ∧
          ((s.worked step).queue.map Write.ticket).Pairwise (· < ·)) ∧
      (∀ before w after, p.flight = before ++ w :: after → ∀ ticket < w.ticket,
        ticket ∈ before.map Write.ticket ∨ ticket ∈ p.deliveries.map Write.ticket ∨
          ticket ∈ p.deadLetters.map (·.write.ticket) ∨ ticket ∈ p.lost.map (·.write.ticket)) ∧
      (p.lost = [] ∨ ∃ step ∈ steps, ¬ step.StoresLetters) := by
  intro s p
  have guarded : s.Guarded := run_guarded name config steps
  have accounted : p.Accounted := run_accounted name config steps
  have ordered : p.InOrder := run_inOrder name config steps
  have configEq : p.config = config := run_config name config steps
  refine ⟨⟨accounted.batches, ?_⟩, accounted.tickets, ordered, ?_, ?_, ?_⟩
  · unfold Processor.openBatches
    split <;> simp
  · intro step
    rcases step_takenFrom guarded step with same | ⟨batches, oldest⟩
    · exact Or.inl same
    · right
      refine ⟨batches, configEq ▸ oldest, ?_⟩
      have workedOrdered : (s.worked step).Accounted ∧ (s.worked step).InOrder :=
        changes_keep (I := fun p => p.Accounted ∧ p.InOrder)
          (fun change holds => ⟨change.accounted holds.1, change.inOrder holds.1 holds.2⟩)
          (worked_changes guarded step) ⟨accounted, ordered⟩
      exact workedOrdered.2.sublist ((List.sublist_append_right _ _).map Write.ticket)
  · intro before w after flightEq ticket earlier
    exact Processor.earlier_done accounted ordered flightEq earlier
  · by_cases stores : ∀ step ∈ steps, step.StoresLetters
    · exact Or.inl (run_lost (idle_guarded name config) stores)
    · right
      simpa using stores

end Coalescer

end Outreach.Writes
