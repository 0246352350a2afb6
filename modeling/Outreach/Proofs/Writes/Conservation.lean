import Outreach.Proofs.Writes.Steps

/-!
# Conservation of writes

Every write that a processor accepts can be found in exactly one place at every moment of every run:
in the queue, in flight, among the delivered writes, among the dead letters, or, where dead letters
could not be stored, among the lost ones. The counters agree with the places. The invariant is
`Accounted`; it is kept by each of the four changes of a processor, whatever the store answers.
-/

namespace Outreach.Writes

/-- What a write changes. -/
def Write.change (w : Write) : String × Patch := (w.id, w.patch)

@[simp]
theorem Write.fresh_change (w : Write) : w.fresh.change = w.change := rfl

@[simp]
theorem Write.fresh_ticket (w : Write) : w.fresh.ticket = w.ticket := rfl

@[simp]
theorem Write.fresh_id (w : Write) : w.fresh.id = w.id := rfl

/-- What writes change says for whom they are. -/
theorem map_fst_change (writes : List Write) :
    (writes.map Write.change).map Prod.fst = writes.map Write.id := by
  rw [List.map_map]
  rfl

namespace Processor

/-- The places where an accepted write can be. -/
def places (p : Processor) : List Write :=
  p.queue ++ p.flight ++ p.deliveries ++ p.deadLetters.map DeadLetter.write

/-- The batches that the store is working on, by their tickets. -/
def openBatches (p : Processor) : List (List Nat) :=
  if p.flight = [] then [] else [p.flight.map Write.ticket]

/-- Every accepted write is in one place, and the counters agree with the places. -/
structure Accounted (p : Processor) : Prop where
  places_perm : ((p.places ++ p.lost.map DeadLetter.write).map Write.fresh).Perm p.accepted
  tickets : p.accepted.map Write.ticket = List.range p.accepted.length
  delivered : p.tally.delivered = p.deliveries.length
  deadLettered : p.tally.deadLettered = p.deadLetters.length
  completed : p.tally.delivered + p.tally.retried + p.tally.deadLettered + p.lost.length =
    (p.landed.map List.length).sum
  batches : p.batches = p.landed ++ p.openBatches
  nonempty : [] ∉ p.landed

theorem idle_accounted (name : String) (config : Config) : (idle name config).Accounted where
  places_perm := List.Perm.refl []
  tickets := rfl
  delivered := rfl
  deadLettered := rfl
  completed := rfl
  batches := rfl
  nonempty := List.not_mem_nil

/-- A flight that ends moves its writes to other places and keeps each of them. -/
theorem settle_places (letters : LetterStore) (outcome : SinkOutcome) (p : Processor) :
    ((p.settle letters outcome).2.places ++
        (p.settle letters outcome).2.lost.map DeadLetter.write).Perm
      (p.places ++ p.lost.map DeadLetter.write) := by
  classical
  have split := letters.stored_append_refused (p.exhausted (failuresOf p.flight outcome))
  have parts := p.parts_perm p.flight outcome
  rw [← split, lettersOf_append, List.map_append] at parts
  rw [List.perm_iff_count] at parts ⊢
  intro w
  have same := parts w
  simp only [places, settle_queue, settle_flight, settle_deliveries, settle_deadLetters,
    settle_lost, List.map_append, List.count_append, List.count_nil] at same ⊢
  omega

theorem settle_accounted {p : Processor} (letters : LetterStore) (outcome : SinkOutcome)
    (flying : p.flight ≠ []) (accounted : p.Accounted) :
    (p.settle letters outcome).2.Accounted where
  places_perm := ((settle_places letters outcome p).map Write.fresh).trans accounted.places_perm
  tickets := accounted.tickets
  delivered := by
    have delivered := accounted.delivered
    simp only [settle_deliveries, List.length_append, ← delivered]
    rfl
  deadLettered := by
    have deadLettered := accounted.deadLettered
    simp only [settle_deadLetters, List.length_append, ← deadLettered]
    rfl
  completed := by
    have split := letters.stored_append_refused (p.exhausted (failuresOf p.flight outcome))
    have parts := (p.parts_perm p.flight outcome).length_eq
    rw [← split, lettersOf_append] at parts
    have completed := accounted.completed
    simp only [List.length_append, List.length_map] at parts
    simp only [settle, lose, bury, land, List.length_append, List.map_append, List.sum_append,
      List.map_cons, List.map_nil, List.sum_cons, List.sum_nil, List.length_map]
    omega
  batches := by
    have batches := accounted.batches
    simp only [openBatches, flying, if_false] at batches
    simp [openBatches, batches]
  nonempty := by
    simp [accounted.nonempty, flying]

theorem accept_accounted {p : Processor} (id : String) (patch : Patch) (accounted : p.Accounted) :
    (p.accept id patch).Accounted where
  places_perm := by
    have moved : ((p.accept id patch).places ++ p.lost.map DeadLetter.write).Perm
        (p.places ++ p.lost.map DeadLetter.write ++ [p.nextWrite id patch]) := by
      classical
      rw [List.perm_iff_count]
      intro w
      simp only [places, accept, List.count_append]
      omega
    apply (moved.map Write.fresh).trans
    rw [List.map_append]
    exact accounted.places_perm.append_right _
  tickets := by
    have tickets := accounted.tickets
    simp [accept, nextWrite, tickets, List.range_succ]
  delivered := accounted.delivered
  deadLettered := accounted.deadLettered
  completed := accounted.completed
  batches := accounted.batches
  nonempty := accounted.nonempty

/-- A batch has the writes that it took from the queue, up to the attempt that is counted. -/
theorem map_fresh_nextBatch (p : Processor) :
    p.nextBatch.map Write.fresh = (p.queue.take p.config.batchSize).map Write.fresh := by
  rw [nextBatch, List.map_map]
  rfl

theorem take_accounted {p : Processor} (landed : p.flight = []) (waiting : p.queue ≠ [])
    (accounted : p.Accounted) : p.take.Accounted where
  places_perm := by
    have queueParts := List.take_append_drop p.config.batchSize p.queue
    have before := accounted.places_perm
    simp only [places, landed, List.append_nil, List.map_append] at before
    rw [← queueParts, List.map_append] at before
    simp only [places, take, List.map_append, map_fresh_nextBatch]
    exact (((List.perm_append_comm.append_right _).append_right _).append_right _).trans before
  tickets := accounted.tickets
  delivered := accounted.delivered
  deadLettered := accounted.deadLettered
  completed := accounted.completed
  batches := by
    have batches := accounted.batches
    have flying := take_flight_ne_nil waiting
    simp only [openBatches, landed, if_true, List.append_nil] at batches
    simp only [openBatches, flying, if_false]
    simp [take, batches]
  nonempty := accounted.nonempty

/-- Every change keeps every write in one place. -/
theorem Change.accounted {p q : Processor} (change : Change p q) (accounted : p.Accounted) :
    q.Accounted := by
  cases change with
  | mark timer stopped => exact { accounted with }
  | accept id patch => exact accept_accounted id patch accounted
  | settle letters outcome flying => exact settle_accounted letters outcome flying accounted
  | take landed waiting => exact take_accounted landed waiting accounted

/-- The changes of accepted writes are those of the writes in their places. -/
theorem Accounted.changes_perm {p : Processor} (accounted : p.Accounted) :
    ((p.places ++ p.lost.map DeadLetter.write).map Write.change).Perm
      (p.accepted.map Write.change) := by
  simpa only [List.map_map, Function.comp_def, Write.fresh_change] using
    accounted.places_perm.map Write.change

theorem Accounted.change_mem_of_flight {p : Processor} (accounted : p.Accounted) {w : Write}
    (wMem : w ∈ p.flight) : w.change ∈ p.accepted.map Write.change := by
  apply accounted.changes_perm.subset
  apply List.mem_map_of_mem
  simp [places, wMem]

end Processor

/-! ## Runs -/

/-- If the step ends a flight, its dead letters are all stored. -/
def Step.StoresLetters : Step → Prop
  | .finish _ _ letters => letters = .working
  | _ => True

instance : DecidablePred Step.StoresLetters
  | .finish _ _ letters => inferInstanceAs (Decidable (letters = .working))
  | .enqueue .. | .start .. | .resume .. | .fire | .turn .. => isTrue trivial

namespace Coalescer

/-- The change that a step queues, unless it is refused. -/
def queuedBy (step : Step) (s : Coalescer) : List (String × Patch) :=
  match step with
  | .enqueue now id patch => match s.enqueue now id patch with
    | .ok _ => [(id, patch)]
    | .error _ => []
  | _ => []

/-- The changes that a run queues, in order. -/
def queuedIn : List Step → Coalescer → List (String × Patch)
  | [], _ => []
  | step :: rest, s => s.queuedBy step ++ queuedIn rest (s.step step)

variable {s : Coalescer}

theorem step_accepted (guarded : s.Guarded) (step : Step) :
    (s.step step).processor.accepted.map Write.change =
      s.processor.accepted.map Write.change ++ s.queuedBy step := by
  rw [(step_reaches guarded step).view_eq Processor.accepted (fun _ _ _ => rfl) fun _ => rfl]
  cases step with
  | enqueue now id patch =>
      simp only [worked, queuedBy, enqueue]
      cases queued : s.processor.enqueue now id patch with
      | error refusal => simp [bind, Except.bind]
      | ok p =>
          obtain ⟨_, _, rfl⟩ := Processor.enqueue_eq_ok_iff.mp queued
          rw [Processor.arm_sameWork now _]
          simp [bind, Except.bind, Processor.accept, Processor.nextWrite, Write.change]
  | finish now outcome letters =>
      simp only [worked, queuedBy, List.append_nil]
      split <;> rfl
  | start | resume | fire | turn => simp [worked, queuedBy]

/-- The accepted writes of a run are the changes that it queued, in the same order. -/
theorem run_accepted (guarded : s.Guarded) (steps : List Step) :
    (s.run steps).processor.accepted.map Write.change =
      s.processor.accepted.map Write.change ++ s.queuedIn steps := by
  induction steps generalizing s with
  | nil => simp [run, queuedIn]
  | cons step rest ih =>
      have later := ih (step_reaches guarded step).guarded
      rw [step_accepted guarded step, List.append_assoc] at later
      exact later

theorem step_lost (guarded : s.Guarded) {step : Step} (stores : step.StoresLetters) :
    (s.step step).processor.lost = s.processor.lost := by
  rw [(step_reaches guarded step).view_eq Processor.lost (fun _ _ _ => rfl) fun _ => rfl]
  cases step with
  | enqueue now id patch =>
      simp only [worked]
      cases queued : s.processor.enqueue now id patch with
      | error refusal => rfl
      | ok p =>
          obtain ⟨_, _, rfl⟩ := Processor.enqueue_eq_ok_iff.mp queued
          rw [Processor.arm_sameWork now _]
          rfl
  | finish now outcome letters =>
      have works : letters = .working := stores
      subst works
      simp only [worked]
      split
      · rfl
      · simp [LetterStore.refused, lettersOf]
  | start | resume | fire | turn => rfl

/-- While dead letters can be stored no write is lost. -/
theorem run_lost (guarded : s.Guarded) {steps : List Step}
    (stores : ∀ step ∈ steps, step.StoresLetters) :
    (s.run steps).processor.lost = s.processor.lost := by
  have kept := run_keeps (I := fun t => t.Guarded ∧ t.processor.lost = s.processor.lost)
    (fun {t step} storesStep before => ⟨(step_reaches before.1 step).guarded,
      (step_lost before.1 storesStep).trans before.2⟩) stores ⟨guarded, rfl⟩
  exact kept.2

theorem run_accounted (name : String) (config : Config) (steps : List Step) :
    ((idle name config).run steps).processor.Accounted :=
  (run_induction Processor.Change.accounted steps (idle_guarded name config)
    (Processor.idle_accounted name config)).2

/-- In every run whose dead letters are stored, each accepted change is in exactly one place, and
only once: in the queue, in flight, among the delivered writes or among the dead letters. The
counters agree with the places, and the writes of all flights that have ended are those delivered,
tried again or given up. -/
theorem run_conserves_writes (name : String) (config : Config) (steps : List Step)
    (stores : ∀ step ∈ steps, step.StoresLetters) :
    let start := idle name config
    let p := (start.run steps).processor
    (p.places.map fun w => (w.change, w.ticket)).Perm (start.queuedIn steps).zipIdx ∧
      (start.queuedIn steps).length =
        p.queue.length + p.flight.length + p.tally.delivered + p.tally.deadLettered ∧
      p.tally.delivered + p.tally.retried + p.tally.deadLettered =
        (p.landed.map List.length).sum ∧
      p.batches = p.landed ++ p.openBatches ∧ [] ∉ p.landed := by
  intro start p
  have accounted : p.Accounted := run_accounted name config steps
  have accepted : p.accepted.map Write.change = start.queuedIn steps :=
    run_accepted (idle_guarded name config) steps
  have lost : p.lost = [] := run_lost (idle_guarded name config) stores
  have places := accounted.places_perm
  rw [lost, List.map_nil, List.append_nil] at places
  refine ⟨?_, ?_, ?_, accounted.batches, accounted.nonempty⟩
  · have numbered : p.accepted.map (fun w => (w.change, w.ticket)) =
        (start.queuedIn steps).zipIdx := by
      rw [← accepted, List.zipIdx_eq_zip_range', List.length_map, ← List.range_eq_range',
        ← accounted.tickets, List.zip_map']
    rw [← numbered]
    simpa [Function.comp_def] using places.map fun w => (w.change, w.ticket)
  · have total := places.length_eq
    simp only [Processor.places, List.length_map, List.length_append] at total
    rw [← accepted, List.length_map, ← total, accounted.delivered, accounted.deadLettered]
  · simpa [lost] using accounted.completed

/-- Batches of two, and two attempts for each write. -/
def smallBatches : Config := ⟨2, 5000, some 10, 2, none, by decide, by decide, by simp⟩

/-- A store names the second write of a batch twice, and one that it does not know, while two
callers flush; the write is given up at its second failure. -/
def rejectedRun : List Step :=
  let rejecting : SinkOutcome :=
    .returned ⟨1, 0, [⟨some 1, "b", "bad"⟩, ⟨none, "foreign", "unknown"⟩, ⟨some 1, "b", "worse"⟩]⟩
  [.enqueue 0 "a" (.ofFields []), .enqueue 0 "b" (.ofFields []), .start 0 .flush, .start 0 .flush,
    .enqueue 1 "c" (.ofFields []), .finish 2 rejecting .working, .turn 2,
    .finish 3 rejecting .working, .enqueue 4 "d" (.ofFields [])]

theorem rejectedRun_conserves_writes :
    (∀ step ∈ rejectedRun, step.StoresLetters) ∧
      ∃ p, p = ((idle "writes" smallBatches).run rejectedRun).processor ∧
        4 = p.queue.length + p.flight.length + p.tally.delivered + p.tally.deadLettered ∧
        p.tally.deadLettered = 1 ∧
        p.tally.delivered + p.tally.retried + p.tally.deadLettered =
          (p.landed.map List.length).sum := by
  have stores : ∀ step ∈ rejectedRun, step.StoresLetters := by decide
  have conserved := run_conserves_writes "writes" smallBatches rejectedRun stores
  exact ⟨stores, _, rfl, conserved.2.1, by decide, conserved.2.2.1⟩

end Coalescer

end Outreach.Writes
