import Mathlib.Algebra.Order.BigOperators.Group.List
import Mathlib.Algebra.Order.Ring.Nat
import Mathlib.Data.List.Nodup
import Outreach.Proofs.Writes.Order

/-!
# Attempts

Every batch that a write is in costs it one attempt. So the attempts of a waiting write are the
batches that it has been in, and there is at least one left: `Counted` says this, and every change
of a processor keeps it. A write is given up when the batch fails that takes its last attempt, and
at no other moment.

`attemptsAhead` adds up what the waiting writes have left. A batch takes from it as many
attempts as it has writes, and only a newly accepted write adds to it, so it bounds how many
batches are still to come.
-/

namespace Outreach.Writes

namespace Processor

@[simp]
theorem attemptsOf_take (p : Processor) (ticket : Nat) : p.take.attemptsOf ticket =
    p.attemptsOf ticket + (p.nextBatch.map Write.ticket).count ticket := by
  simp [attemptsOf, take]

/-- The attempts of a write are the batches that it has been in, and a waiting
write has one left. -/
structure Counted (p : Processor) : Prop where
  waiting : ∀ w ∈ p.queue, w.attempts < p.config.maxAttempts
  counts : ∀ w ∈ p.flight ++ p.queue, p.attemptsOf w.ticket = w.attempts
  bounded : ∀ ticket, p.attemptsOf ticket ≤ p.config.maxAttempts
  unknown : ∀ ticket, p.accepted.length ≤ ticket → p.attemptsOf ticket = 0

theorem idle_counted (name : String) (config : Config) : (idle name config).Counted where
  waiting := by simp [idle]
  counts := by simp [idle]
  bounded := by simp [attemptsOf, idle]
  unknown := by simp [attemptsOf, idle]

theorem accept_counted {p : Processor} (id : String) (patch : Patch) (counted : p.Counted) :
    (p.accept id patch).Counted where
  waiting := by
    intro w wMem
    rcases List.mem_append.mp wMem with before | last
    · exact counted.waiting w before
    · rw [List.mem_singleton.mp last]
      exact p.config.one_le_maxAttempts
  counts := by
    intro w wMem
    simp only [accept, ← List.append_assoc] at wMem
    rcases List.mem_append.mp wMem with before | last
    · exact counted.counts w before
    · rw [List.mem_singleton.mp last]
      exact counted.unknown p.accepted.length (le_refl _)
  bounded := counted.bounded
  unknown := by
    intro ticket beyond
    apply counted.unknown ticket
    simp only [accept, List.length_append, List.length_singleton] at beyond
    omega

/-- Writes that come back have attempts left. -/
theorem settle_counted {p : Processor} (letters : LetterStore) (outcome : SinkOutcome)
    (counted : p.Counted) : (p.settle letters outcome).2.Counted where
  waiting := by
    intro w wMem
    rw [settle_queue] at wMem
    rcases List.mem_append.mp wMem with returning | queued
    · rw [retries_failuresOf] at returning
      exact of_decide_eq_true (List.mem_filter.mp returning).2
    · exact counted.waiting w queued
  counts := by
    intro w wMem
    apply counted.counts w
    exact ((p.retries_sublist p.flight outcome).append_right p.queue).subset wMem
  bounded := counted.bounded
  unknown := counted.unknown

section Take

variable {p : Processor}

theorem mem_nextBatch {w : Write} : w ∈ p.nextBatch ↔
    ∃ v ∈ p.queue.take p.config.batchSize, { v with attempts := v.attempts + 1 } = w :=
  List.mem_map

/-- A write that is taken counts one more batch. -/
theorem attemptsOf_take_of_mem (landed : p.flight = []) (ordered : p.InOrder) (counted : p.Counted)
    {w : Write} (wMem : w ∈ p.queue.take p.config.batchSize) :
    p.take.attemptsOf w.ticket = w.attempts + 1 := by
  have distinct : (p.nextBatch.map Write.ticket).Nodup := by
    unfold InOrder at ordered
    rw [landed, List.nil_append] at ordered
    rw [map_ticket_nextBatch]
    exact (ordered.sublist ((List.take_sublist _ _).map _)).imp fun less => Nat.ne_of_lt less
  have taken : w.ticket ∈ p.nextBatch.map Write.ticket := by
    rw [map_ticket_nextBatch]
    exact List.mem_map_of_mem wMem
  have before := counted.counts w (List.mem_append_right _ (List.mem_of_mem_take wMem))
  rw [attemptsOf_take, List.count_eq_one_of_mem distinct taken, before]

/-- A write that stays in the queue is in no new batch. -/
theorem attemptsOf_take_of_mem_drop (landed : p.flight = []) (ordered : p.InOrder) {w : Write}
    (wMem : w ∈ p.queue.drop p.config.batchSize) :
    p.take.attemptsOf w.ticket = p.attemptsOf w.ticket := by
  have apart : w.ticket ∉ p.nextBatch.map Write.ticket := by
    unfold InOrder at ordered
    rw [landed, List.nil_append, ← List.take_append_drop p.config.batchSize p.queue,
      List.map_append, List.pairwise_append] at ordered
    rw [map_ticket_nextBatch]
    intro taken
    have less := ordered.2.2 w.ticket taken w.ticket (List.mem_map_of_mem wMem)
    omega
  rw [attemptsOf_take, List.count_eq_zero.mpr apart, Nat.add_zero]

theorem take_counted (landed : p.flight = []) (accounted : p.Accounted) (ordered : p.InOrder)
    (counted : p.Counted) : p.take.Counted where
  waiting := fun w wMem => counted.waiting w (List.mem_of_mem_drop wMem)
  counts := by
    intro w wMem
    rcases List.mem_append.mp wMem with taken | stays
    · obtain ⟨v, vMem, rfl⟩ := mem_nextBatch.mp taken
      exact attemptsOf_take_of_mem landed ordered counted vMem
    · rw [attemptsOf_take_of_mem_drop landed ordered stays]
      exact counted.counts w (List.mem_append_right _ (List.mem_of_mem_drop stays))
  bounded := by
    intro ticket
    by_cases taken : ticket ∈ p.nextBatch.map Write.ticket
    · rw [map_ticket_nextBatch] at taken
      obtain ⟨w, wMem, rfl⟩ := List.mem_map.mp taken
      rw [attemptsOf_take_of_mem landed ordered counted wMem]
      exact counted.waiting w (List.mem_of_mem_take wMem)
    · rw [attemptsOf_take, List.count_eq_zero.mpr taken]
      exact counted.bounded ticket
  unknown := by
    intro ticket beyond
    have notTaken : ticket ∉ p.nextBatch.map Write.ticket := by
      rw [map_ticket_nextBatch]
      intro taken
      obtain ⟨w, wMem, rfl⟩ := List.mem_map.mp taken
      have queued : w ∈ p.flight ++ p.queue :=
        List.mem_append_right _ (List.mem_of_mem_take wMem)
      have known := accounted.ticket_lt (List.mem_map_of_mem queued)
      exact absurd known (Nat.not_lt.mpr beyond)
    rw [attemptsOf_take, List.count_eq_zero.mpr notTaken]
    exact counted.unknown ticket beyond

end Take

/-- Every change keeps the count of attempts. -/
theorem Change.counted {p q : Processor} (change : Change p q) (accounted : p.Accounted)
    (ordered : p.InOrder) (counted : p.Counted) : q.Counted := by
  cases change with
  | mark timer stopped => exact { counted with }
  | accept id patch => exact accept_counted id patch counted
  | settle letters outcome _ => exact settle_counted letters outcome counted
  | take landed _ => exact take_counted landed accounted ordered counted

/-- The places, the order and the attempts of the writes are kept. -/
structure WellKept (p : Processor) : Prop where
  accounted : p.Accounted
  ordered : p.InOrder
  counted : p.Counted

theorem idle_wellKept (name : String) (config : Config) : (idle name config).WellKept :=
  ⟨idle_accounted name config, List.Pairwise.nil, idle_counted name config⟩

theorem Change.wellKept {p q : Processor} (change : Change p q) (kept : p.WellKept) : q.WellKept :=
  ⟨change.accounted kept.accounted, change.inOrder kept.accounted kept.ordered,
    change.counted kept.accounted kept.ordered kept.counted⟩

/-! ## Giving up -/

/-- The tickets of the dead letters. -/
def deadTickets (p : Processor) : List Nat := p.deadLetters.map fun letter => letter.write.ticket

/-- With nothing queued, in flight or lost, every accepted write was delivered or given up. -/
theorem Accounted.ticket_done {p : Processor} (accounted : p.Accounted) (lost : p.lost = [])
    (empty : p.queue = []) (landed : p.flight = []) {ticket : Nat}
    (known : ticket < p.accepted.length) :
    ticket ∈ p.deliveries.map Write.ticket ∨ ticket ∈ p.deadTickets := by
  have place := accounted.tickets_perm.symm.subset (List.mem_range.mpr known)
  simpa [places, deadTickets, lost, empty, landed] using place

/-- The end of a flight gives up the writes that failed in the batch of their last attempt. -/
theorem mem_deadTickets_settle {p : Processor} (counted : p.Counted) (outcome : SinkOutcome)
    (ticket : Nat) : ticket ∈ (p.settle .working outcome).2.deadTickets ↔
      ticket ∈ p.deadTickets ∨ ∃ w ∈ p.flight, w.ticket = ticket ∧ outcome.fails w = true ∧
        p.attemptsOf ticket = p.config.maxAttempts := by
  have last : ∀ w ∈ p.flight, (p.hasAttemptsLeft w = false ↔
      p.attemptsOf w.ticket = p.config.maxAttempts) := by
    intro w wMem
    have counts := counted.counts w (List.mem_append_left _ wMem)
    have bounded := counted.bounded w.ticket
    simp only [hasAttemptsLeft, decide_eq_false_iff_not]
    omega
  have exhausted := (p.map_write_exhausted p.flight outcome).map Write.ticket
  rw [List.map_map] at exhausted
  rw [deadTickets, settle_deadLetters, List.map_append, List.mem_append]
  apply or_congr Iff.rfl
  rw [show (fun letter : DeadLetter => letter.write.ticket) =
    Write.ticket ∘ DeadLetter.write from rfl, LetterStore.stored, exhausted.mem_iff]
  simp only [List.mem_map, List.mem_filter, Bool.not_eq_true']
  constructor
  · rintro ⟨w, ⟨⟨wMem, fails⟩, spent⟩, rfl⟩
    exact ⟨w, wMem, rfl, fails, (last w wMem).mp spent⟩
  · rintro ⟨w, wMem, rfl, fails, spent⟩
    exact ⟨w, ⟨⟨wMem, fails⟩, (last w wMem).mpr spent⟩, rfl⟩

/-! ## What is left to spend -/

/-- How many attempts the writes in flight and in the queue have left. -/
def attemptsAhead (p : Processor) : Nat :=
  ((p.flight ++ p.queue).map fun w => p.config.maxAttempts - w.attempts).sum

theorem attemptsAhead_of_landed {p : Processor} (landed : p.flight = []) :
    p.attemptsAhead = p.attemptsLeft := by
  rw [attemptsAhead, landed, List.nil_append, attemptsLeft]

/-- Counting an attempt for each of some writes takes one from what each has left. -/
theorem sum_attempts_succ {limit : Nat} (writes : List Write)
    (left : ∀ w ∈ writes, w.attempts < limit) :
    (writes.map fun w => limit - (w.attempts + 1)).sum + writes.length =
      (writes.map fun w => limit - w.attempts).sum := by
  induction writes with
  | nil => rfl
  | cons w rest ih =>
      have later := ih fun v vMem => left v (List.mem_cons_of_mem w vMem)
      have first := left w List.mem_cons_self
      simp only [List.map_cons, List.sum_cons, List.length_cons]
      omega

/-- A batch spends one attempt for each of its writes. -/
theorem attemptsAhead_take {p : Processor} (landed : p.flight = []) (counted : p.Counted) :
    p.take.attemptsAhead + p.nextBatch.length = p.attemptsAhead := by
  have spent := sum_attempts_succ (p.queue.take p.config.batchSize)
    fun w wMem => counted.waiting w (List.mem_of_mem_take wMem)
  have parts : (p.queue.map fun w => p.config.maxAttempts - w.attempts).sum =
      ((p.queue.take p.config.batchSize).map fun w => p.config.maxAttempts - w.attempts).sum +
        ((p.queue.drop p.config.batchSize).map fun w => p.config.maxAttempts - w.attempts).sum := by
    rw [← List.sum_append, ← List.map_append, List.take_append_drop]
  rw [attemptsAhead_of_landed landed, attemptsLeft, parts, ← spent]
  simp only [attemptsAhead, take, nextBatch, List.map_append, List.sum_append, List.map_map,
    List.length_map, Function.comp_def]
  omega

theorem length_batches_take (p : Processor) : p.take.batches.length = p.batches.length + 1 := by
  simp [take]

/-- A new write comes with all its attempts. -/
theorem attemptsAhead_accept (id : String) (patch : Patch) (p : Processor) :
    (p.accept id patch).attemptsAhead = p.attemptsAhead + p.config.maxAttempts := by
  simp [attemptsAhead, accept, nextWrite, Nat.add_assoc]

theorem length_accepted_accept (id : String) (patch : Patch) (p : Processor) :
    (p.accept id patch).accepted.length = p.accepted.length + 1 := by
  simp [accept]

theorem attemptsAhead_settle_le (letters : LetterStore) (outcome : SinkOutcome) (p : Processor) :
    (p.settle letters outcome).2.attemptsAhead ≤ p.attemptsAhead := by
  have returning := ((p.retries_sublist p.flight outcome).append_right p.queue).map
    fun w => p.config.maxAttempts - w.attempts
  exact returning.sum_le_sum fun _ _ => Nat.zero_le _

/-- From `p` to `q` every batch has spent an attempt that was ahead, or that came
with a new write. -/
def Spends (p q : Processor) : Prop :=
  q.config = p.config ∧
    q.batches.length + q.attemptsAhead + p.config.maxAttempts * p.accepted.length ≤
      p.batches.length + p.attemptsAhead + p.config.maxAttempts * q.accepted.length

theorem Spends.refl (p : Processor) : p.Spends p := ⟨rfl, le_refl _⟩

theorem Spends.trans {p q r : Processor} (first : p.Spends q) (second : q.Spends r) :
    p.Spends r := by
  obtain ⟨sameFirst, spendsFirst⟩ := first
  obtain ⟨sameSecond, spendsSecond⟩ := second
  rw [sameFirst] at spendsSecond
  exact ⟨sameSecond.trans sameFirst, by omega⟩

theorem Change.spends {p q : Processor} (change : Change p q) (counted : p.Counted) :
    p.Spends q := by
  refine ⟨by cases change <;> rfl, ?_⟩
  cases change with
  | mark timer stopped => exact le_refl _
  | accept id patch =>
      have sameBatches : (p.accept id patch).batches = p.batches := rfl
      rw [length_accepted_accept, attemptsAhead_accept, sameBatches, Nat.mul_succ]
      omega
  | settle letters outcome _ =>
      have settled := attemptsAhead_settle_le letters outcome p
      have sameBatches := settle_batches letters outcome p
      have sameAccepted : (p.settle letters outcome).2.accepted = p.accepted := rfl
      rw [sameBatches, sameAccepted]
      omega
  | take landed waiting =>
      have spent := attemptsAhead_take landed counted
      have nonempty : 0 < p.nextBatch.length := List.length_pos_iff.mpr (take_flight_ne_nil waiting)
      have sameAccepted : p.take.accepted = p.accepted := rfl
      rw [length_batches_take, sameAccepted]
      omega

end Processor

/-! ## Runs -/

namespace Coalescer

variable {s : Coalescer}

theorem run_wellKept (name : String) (config : Config) (steps : List Step) :
    ((idle name config).run steps).processor.WellKept :=
  (run_induction Processor.Change.wellKept steps (idle_guarded name config)
    (Processor.idle_wellKept name config)).2

/-- Between two moments of a run every batch has spent an attempt. -/
theorem run_spends (guarded : s.Guarded) (kept : s.processor.WellKept) (steps : List Step) :
    s.processor.Spends (s.run steps).processor :=
  (run_induction (I := fun q => q.WellKept ∧ s.processor.Spends q)
    (fun change holds => ⟨change.wellKept holds.1,
      holds.2.trans (change.spends holds.1.counted)⟩) steps guarded ⟨kept, .refl _⟩).2.2

/-- A run that accepts nothing takes at most one batch for each attempt that was left. -/
theorem length_batches_run_le (guarded : s.Guarded) (kept : s.processor.WellKept)
    (landed : s.processor.flight = []) (steps : List Step)
    (refuses : (s.run steps).processor.accepted.length = s.processor.accepted.length) :
    (s.run steps).processor.batches.length ≤
      s.processor.batches.length + s.processor.attemptsLeft := by
  have spent := (run_spends guarded kept steps).2
  rw [refuses, Processor.attemptsAhead_of_landed landed] at spent
  omega

/-- A step whose dead letters are stored gives a write up exactly when it ends the flight of the
last batch that the write may be in, and the outcome fails it. -/
theorem step_mem_deadTickets (guarded : s.Guarded) (counted : s.processor.Counted) {step : Step}
    (stores : step.StoresLetters) (ticket : Nat) :
    ticket ∈ (s.step step).processor.deadTickets ↔ ticket ∈ s.processor.deadTickets ∨
      ∃ now outcome letters, step = .finish now outcome letters ∧ ∃ w ∈ s.processor.flight,
        w.ticket = ticket ∧ outcome.fails w = true ∧
          s.processor.attemptsOf ticket = s.processor.config.maxAttempts := by
  have same : (s.step step).processor.deadTickets = (s.worked step).deadTickets :=
    (step_reaches guarded step).view_eq Processor.deadTickets (fun _ _ _ => rfl) fun _ => rfl
  rw [same]
  cases step with
  | finish now outcome letters =>
      have works : letters = .working := stores
      subst works
      simp only [worked]
      split
      · rename_i unheld
        simp [guarded.mp unheld]
      · rw [Processor.mem_deadTickets_settle counted]
        simp
  | enqueue now id patch =>
      simp only [worked]
      split
      · rename_i p queued
        obtain ⟨_, _, rfl⟩ := Processor.enqueue_eq_ok_iff.mp queued
        rw [Processor.arm_sameWork now _]
        simp [Processor.deadTickets, Processor.accept]
      · simp
  | start | resume | fire | turn => simp [worked]

end Coalescer

end Outreach.Writes
