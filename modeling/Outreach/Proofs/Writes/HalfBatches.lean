import Outreach.Proofs.Writes.Attempts
import Outreach.Proofs.Writes.Transparency

/-!
# Batches that are applied by half

A shelf applies a batch write by write. When a patch cannot be applied the call ends with a fault,
and what was applied before it stays. The coalescer takes the whole batch for failed and hands it
over again. So once a call has faulted behind its first write, a document is no longer what its
delivered writes make of it: a write counts once when it is delivered, and once more for every
faulted call that came past it.
-/

namespace Outreach.Writes

/-! ## One call -/

namespace Shelf

/-- The writes of a batch that a call applies: those before the first one that faults. -/
def appliedOf : List Write → List (String × Fields) → List Write
  | [], _ => []
  | w :: rest, documents =>
    match applyWrite w documents with
    | .error _ => []
    | .ok next => w :: appliedOf rest next

theorem appliedOf_of_ok {w : Write} {rest : List Write} {documents next : List (String × Fields)}
    (applied : applyWrite w documents = .ok next) :
    appliedOf (w :: rest) documents = w :: appliedOf rest next := by
  simp only [appliedOf, applied]

theorem appliedOf_of_error {w : Write} {rest : List Write} {documents : List (String × Fields)}
    {fault : AddFault} (faulted : applyWrite w documents = .error fault) :
    appliedOf (w :: rest) documents = [] := by
  simp only [appliedOf, faulted]

/-- However a call ends, its documents are those that the applied writes alone lead to, and no write
before the fault is passed over. -/
theorem applyWrites_cases (writes : List Write) (documents : List (String × Fields))
    (before : BulkResult) :
    (∃ after, applyWrites (appliedOf writes documents) documents before =
        ((applyWrites writes documents before).1, .ok after)) ∧
      ((∃ after, (applyWrites writes documents before).2 = .ok after ∧
          after.failed = before.failed ∧ appliedOf writes documents = writes) ∨
        ∃ fault w rest, (applyWrites writes documents before).2 = .error fault ∧
          applyWrite w (applyWrites writes documents before).1 = .error fault ∧
          writes = appliedOf writes documents ++ w :: rest) := by
  induction writes generalizing documents before with
  | nil => exact ⟨⟨before, rfl⟩, Or.inl ⟨before, rfl, rfl, rfl⟩⟩
  | cons w rest ih =>
      cases first : applyWrite w documents with
      | error fault =>
          rw [appliedOf_of_error first]
          simp only [applyWrites, first]
          exact ⟨⟨before, rfl⟩, Or.inr ⟨fault, w, rest, rfl, first, rfl⟩⟩
      | ok next =>
          rw [appliedOf_of_ok first]
          simp only [applyWrites, first]
          -- The counts are those of the call with this write counted; rejections stay as they are.
          generalize counted : (if Keyed.has w.id documents = true then
            { before with modified := before.modified + 1 }
            else { before with inserted := before.inserted + 1 }) = result
          have sameFailed : result.failed = before.failed := by
            rw [← counted]
            split <;> rfl
          obtain ⟨applied, ends⟩ := ih next result
          refine ⟨applied, ?_⟩
          rcases ends with ⟨after, ok, failed, whole⟩ | ⟨fault, v, others, error, faulted, split⟩
          · exact Or.inl ⟨after, ok, failed.trans sameFailed, congrArg (w :: ·) whole⟩
          · exact Or.inr ⟨fault, v, others, error, faulted, congrArg (w :: ·) split⟩

/-- What a call ends with, as the coalescer sees it. -/
def answer : Except AddFault BulkResult → SinkOutcome
  | .ok result => .returned result
  | .error fault => .raised fault.message

/-- A call that faults leaves the documents where the writes before the fault lead. -/
theorem exists_half_of_error {writes : List Write} {shelf next : Shelf} {fault : AddFault}
    (faulted : shelf.upsert writes = (next, .error fault)) :
    ∃ half w rest result, writes = half ++ w :: rest ∧
      applyWrites half shelf.documents ⟨0, 0, []⟩ = (next.documents, .ok result) ∧
      applyWrite w next.documents = .error fault := by
  simp only [upsert, Prod.mk.injEq] at faulted
  obtain ⟨rfl, errorEq⟩ := faulted
  obtain ⟨⟨result, applied⟩, ends⟩ := applyWrites_cases writes shelf.documents ⟨0, 0, []⟩
  rcases ends with ⟨after, ok, _, _⟩ | ⟨other, w, rest, error, wFaults, split⟩
  · rw [errorEq] at ok
    cases ok
  · rw [errorEq] at error
    cases error
    exact ⟨_, w, rest, result, split, applied, wFaults⟩

end Shelf

/-! ## What a step delivers and lands -/

/-- The delivered writes, and the batches whose flight has ended. -/
def Processor.record (p : Processor) : List Write × List (List Nat) := (p.deliveries, p.landed)

namespace Coalescer

variable {s : Coalescer}

theorem step_record (guarded : s.Guarded) (step : Step) :
    (s.step step).processor.record = (s.worked step).record :=
  (step_reaches guarded step).view_eq Processor.record (fun _ _ _ => rfl) fun _ => rfl

theorem step_record_of_not_endsFlight (guarded : s.Guarded) {step : Step}
    (goesOn : ¬ step.EndsFlight) : (s.step step).processor.record = s.processor.record := by
  rw [step_record guarded]
  cases step with
  | enqueue now id patch =>
      cases queued : s.processor.enqueue now id patch with
      | error refusal => simp only [worked, queued]
      | ok p =>
          obtain ⟨_, _, rfl⟩ := Processor.enqueue_eq_ok_iff.mp queued
          simp only [worked, queued]
          rw [Processor.arm_sameWork now _]
          rfl
  | finish now outcome letters => exact absurd trivial goesOn
  | start | resume | fire | turn => rfl

theorem step_finish_record (guarded : s.Guarded) (flying : s.processor.flight ≠ []) (now : Nat)
    (outcome : SinkOutcome) (letters : LetterStore) :
    (s.step (.finish now outcome letters)).processor.record =
      (s.processor.deliveries ++ deliveriesOf s.processor.flight outcome,
        s.processor.landed ++ [s.processor.flight.map Write.ticket]) := by
  have held : s.holder ≠ none := mt guarded.mp flying
  rw [step_record guarded]
  simp only [worked, if_neg held]
  rfl

/-- With nothing in flight there is nothing to end. -/
theorem step_finish_of_landed (guarded : s.Guarded) (landed : s.processor.flight = []) (now : Nat)
    (outcome : SinkOutcome) (letters : LetterStore) : s.step (.finish now outcome letters) = s := by
  simp [step, finish, guarded.mpr landed]

end Coalescer

/-! ## Runs -/

/-- A coalescer over a shelf, with a record of what the shelf has applied. -/
structure Bench where
  coalescer : Coalescer
  shelf : Shelf
  /-- The writes that were applied, in order, as often as they were. -/
  applied : List Write
  /-- Those of them that were applied by calls that faulted. -/
  halves : List Write

namespace Bench

/-- Nothing has been queued or applied yet. -/
def opening (name : String) (config : Config) (shelf : Shelf) : Bench :=
  ⟨.idle name config, shelf, [], []⟩

/-- The shelf takes the flight in, and the coalescer hears how the call has ended. -/
def call (now : Nat) (letters : LetterStore) (b : Bench) : Bench :=
  let flight := b.coalescer.processor.flight
  let result := (b.shelf.upsert flight).2
  let half := Shelf.appliedOf flight b.shelf.documents
  { coalescer := b.coalescer.step (.finish now (Shelf.answer result) letters)
    shelf := (b.shelf.upsert flight).1
    applied := b.applied ++ half
    halves := if result.isOk then b.halves else b.halves ++ half }

/-- What a coalescer can reach over a shelf that has some documents in the beginning. -/
inductive Reached (name : String) (config : Config) (shelf : Shelf) : Bench → Prop
  | start : Reached name config shelf (opening name config shelf)
  /-- Nothing but the end of a flight has to do with the shelf. -/
  | work {b : Bench} (before : Reached name config shelf b) (step : Step)
      (goesOn : ¬ step.EndsFlight) :
      Reached name config shelf { b with coalescer := b.coalescer.step step }
  /-- The time is over before the shelf is called. -/
  | late {b : Bench} (before : Reached name config shelf b) (now : Nat) (reason : String)
      (letters : LetterStore) :
      Reached name config shelf
        { b with coalescer := b.coalescer.step (.finish now (.raised reason) letters) }
  | call {b : Bench} (before : Reached name config shelf b) (now : Nat) (letters : LetterStore)
      (flying : b.coalescer.processor.flight ≠ []) :
      Reached name config shelf (b.call now letters)

/-- How often a write was applied. -/
def timesApplied (ticket : Nat) (b : Bench) : Nat := (b.applied.map Write.ticket).count ticket

/-- The shelf has the documents that all applications lead to; a write was applied for its delivery
or by a call that faulted, and at most once in each batch that it has been in. -/
structure Tallied (shelf : Shelf) (b : Bench) : Prop where
  documents : ∀ id, applyAll ((b.applied.filter (·.id = id)).map Write.patch)
    (Keyed.get? id shelf.documents) = .ok (Keyed.get? id b.shelf.documents)
  parts : b.applied.Perm (b.coalescer.processor.deliveries ++ b.halves)
  landed : ∀ ticket, b.timesApplied ticket ≤ b.coalescer.processor.landed.flatten.count ticket
  whole : b.halves = [] → b.applied = b.coalescer.processor.deliveries

variable {name : String} {config : Config} {shelf : Shelf} {b : Bench}

theorem Reached.exists_run (reached : Reached name config shelf b) :
    ∃ steps, b.coalescer = (Coalescer.idle name config).run steps := by
  have next (step : Step) {s : Coalescer}
      (ran : ∃ steps, s = (Coalescer.idle name config).run steps) :
      ∃ steps, s.step step = (Coalescer.idle name config).run steps := by
    obtain ⟨steps, rfl⟩ := ran
    exact ⟨steps ++ [step], (Coalescer.run_concat steps step _).symm⟩
  induction reached with
  | start => exact ⟨[], rfl⟩
  | work before step goesOn ih => exact next step ih
  | late before now reason letters ih => exact next (.finish now (.raised reason) letters) ih
  | call before now letters flying ih => exact next (.finish now (Shelf.answer _) letters) ih

theorem Reached.guarded (reached : Reached name config shelf b) : b.coalescer.Guarded := by
  obtain ⟨steps, ran⟩ := reached.exists_run
  rw [ran]
  exact Coalescer.run_guarded name config steps

theorem opening_tallied : (opening name config shelf).Tallied shelf where
  documents := fun _ => rfl
  parts := List.Perm.refl []
  landed := fun _ => le_refl 0
  whole := fun _ => rfl

/-- What is delivered and lands without the shelf leaves the tally as it is. -/
theorem Tallied.of_record_eq (tallied : b.Tallied shelf) {t : Coalescer} (more : List (List Nat))
    (recordEq : t.processor.record =
      (b.coalescer.processor.deliveries, b.coalescer.processor.landed ++ more)) :
    ({ b with coalescer := t } : Bench).Tallied shelf := by
  simp only [Processor.record, Prod.mk.injEq] at recordEq
  obtain ⟨deliveries, landed⟩ := recordEq
  constructor
  case documents => exact tallied.documents
  case parts =>
    rw [deliveries]
    exact tallied.parts
  case landed =>
    intro ticket
    have before := tallied.landed ticket
    simp only [landed, List.flatten_append, List.count_append]
    exact le_add_right before
  case whole =>
    rw [deliveries]
    exact tallied.whole

/-- A call delivers what it applies, which is then the whole flight; or it faults, and what it
applies is half a batch. -/
theorem call_cases (guarded : b.coalescer.Guarded) (flying : b.coalescer.processor.flight ≠ [])
    (now : Nat) (letters : LetterStore) :
    ∃ half, (b.call now letters).applied = b.applied ++ half ∧
      half.Sublist b.coalescer.processor.flight ∧
      (b.call now letters).coalescer.processor.landed =
        b.coalescer.processor.landed ++ [b.coalescer.processor.flight.map Write.ticket] ∧
      ((b.call now letters).coalescer.processor.deliveries =
          b.coalescer.processor.deliveries ++ half ∧ (b.call now letters).halves = b.halves ∨
        (b.call now letters).coalescer.processor.deliveries = b.coalescer.processor.deliveries ∧
          (b.call now letters).halves = b.halves ++ half) := by
  have recordEq := Coalescer.step_finish_record guarded flying now
    (Shelf.answer (b.shelf.upsert b.coalescer.processor.flight).2) letters
  simp only [Processor.record, Prod.mk.injEq] at recordEq
  obtain ⟨deliveries, landed⟩ := recordEq
  refine ⟨Shelf.appliedOf b.coalescer.processor.flight b.shelf.documents, rfl, ?_⟩
  obtain ⟨_, ⟨after, ok, failed, whole⟩ | ⟨fault, w, rest, error, _, split⟩⟩ :=
    Shelf.applyWrites_cases b.coalescer.processor.flight b.shelf.documents ⟨0, 0, []⟩
  · have answered : (b.shelf.upsert b.coalescer.processor.flight).2 = .ok after := ok
    have delivered : deliveriesOf b.coalescer.processor.flight (.returned after) =
        b.coalescer.processor.flight := by
      simp [deliveriesOf, lastReason?, failed]
    rw [answered, Shelf.answer, delivered] at deliveries
    rw [whole]
    refine ⟨List.Sublist.refl _, landed, Or.inl ⟨?_, ?_⟩⟩
    · simpa only [Bench.call, answered, Shelf.answer] using deliveries
    · simp [Bench.call, answered, Except.isOk, Except.toBool]
  · have answered : (b.shelf.upsert b.coalescer.processor.flight).2 = .error fault := error
    rw [answered, Shelf.answer, deliveriesOf, List.append_nil] at deliveries
    refine ⟨(congrArg _ split).mpr (List.sublist_append_left _ _), landed, Or.inr ⟨?_, ?_⟩⟩
    · simpa only [Bench.call, answered, Shelf.answer] using deliveries
    · simp [Bench.call, answered, Except.isOk, Except.toBool]

/-- A call adds what it applies to the tally, be it delivered or not. -/
theorem Tallied.call (tallied : b.Tallied shelf) (guarded : b.coalescer.Guarded)
    (flying : b.coalescer.processor.flight ≠ []) (now : Nat) (letters : LetterStore) :
    (b.call now letters).Tallied shelf := by
  obtain ⟨half, applied, within, landed, ends⟩ := call_cases guarded flying now letters
  constructor
  case documents =>
    intro id
    obtain ⟨⟨counts, halfApplied⟩, _⟩ := Shelf.applyWrites_cases b.coalescer.processor.flight
      b.shelf.documents ⟨0, 0, []⟩
    simp only [Bench.call, List.filter_append, List.map_append, applyAll_append,
      tallied.documents id]
    exact Shelf.applyAll_of_applyWrites halfApplied id
  case landed =>
    intro ticket
    have before := tallied.landed ticket
    have more := (within.map Write.ticket).count_le ticket
    simp only [timesApplied, applied, landed, List.map_append, List.count_append,
      List.flatten_append, List.flatten_singleton] at before ⊢
    omega
  case parts =>
    rw [applied]
    rcases ends with ⟨deliveries, halves⟩ | ⟨deliveries, halves⟩
    · rw [deliveries, halves, List.append_assoc]
      exact ((tallied.parts.append_right half).trans
        (by simpa using List.perm_append_comm.append_left _))
    · rw [deliveries, halves, ← List.append_assoc]
      exact tallied.parts.append_right half
  case whole =>
    intro noHalves
    rw [applied]
    rcases ends with ⟨deliveries, halves⟩ | ⟨deliveries, halves⟩
    · rw [halves] at noHalves
      rw [deliveries, tallied.whole noHalves]
    · rw [halves, List.append_eq_nil_iff] at noHalves
      rw [deliveries, noHalves.2, List.append_nil, tallied.whole noHalves.1]

theorem Reached.tallied (reached : Reached name config shelf b) : b.Tallied shelf := by
  induction reached with
  | start => exact opening_tallied
  | @work b before step goesOn ih =>
      have recordEq := Coalescer.step_record_of_not_endsFlight before.guarded goesOn
      exact ih.of_record_eq [] (by simpa [Processor.record] using recordEq)
  | @late b before now reason letters ih =>
      by_cases landed : b.coalescer.processor.flight = []
      · rw [Coalescer.step_finish_of_landed before.guarded landed]
        exact ih
      · have recordEq := Coalescer.step_finish_record before.guarded landed now (.raised reason)
          letters
        exact ih.of_record_eq _ (by simpa [deliveriesOf] using recordEq)
  | @call b before now letters flying ih =>
      exact ih.call before.guarded flying now letters

/-- What calls that fault do to a shelf. The documents after such a call are those that the writes
before the fault lead to: they are as before only if these writes change nothing. So in every run,
whatever the shelf had in the beginning, each document is what all applications of its writes make
of it. A write was applied once if it was delivered, and once more for each faulted call that came
past it, in all at most as often as it was in a batch; and if no faulted call ever came past a
write, the applied writes are the delivered ones, each of them once. -/
theorem half_batches_stay (name : String) (config : Config) (shelf : Shelf) :
    (∀ (writes : List Write) (found next : Shelf) (fault : AddFault),
      found.upsert writes = (next, .error fault) →
        ∃ half w rest result, writes = half ++ w :: rest ∧
          Shelf.applyWrites half found.documents ⟨0, 0, []⟩ = (next.documents, .ok result) ∧
          Shelf.applyWrite w next.documents = .error fault) ∧
    ∀ b, Reached name config shelf b →
      let p := b.coalescer.processor
      (∀ id, applyAll ((b.applied.filter (·.id = id)).map Write.patch)
        (Keyed.get? id shelf.documents) = .ok (Keyed.get? id b.shelf.documents)) ∧
      (∀ ticket, b.timesApplied ticket =
          (p.deliveries.map Write.ticket).count ticket + (b.halves.map Write.ticket).count ticket ∧
        (p.deliveries.map Write.ticket).count ticket ≤ 1 ∧
        b.timesApplied ticket ≤ p.attemptsOf ticket ∧ p.attemptsOf ticket ≤ config.maxAttempts) ∧
      (b.halves = [] → b.applied = p.deliveries) := by
  constructor
  · intro writes found next fault faulted
    exact Shelf.exists_half_of_error faulted
  · intro b reached p
    have tallied := reached.tallied
    obtain ⟨steps, ran⟩ := reached.exists_run
    have accounted : p.Accounted := by
      simp only [p, ran]
      exact Coalescer.run_accounted name config steps
    have counted : p.Counted := by
      simp only [p, ran]
      exact (Coalescer.run_wellKept name config steps).counted
    have configEq : p.config = config := by
      simp only [p, ran]
      exact Coalescer.run_config name config steps
    refine ⟨tallied.documents, fun ticket => ⟨?_, ?_, ?_, ?_⟩, tallied.whole⟩
    · have parts := (tallied.parts.map Write.ticket).count_eq ticket
      rwa [List.map_append, List.count_append] at parts
    · apply List.nodup_iff_count_le_one.mp
      have distinct := accounted.tickets_perm.symm.nodup List.nodup_range
      refine distinct.sublist (List.Sublist.map _ ?_)
      simp only [Processor.places, List.append_assoc]
      exact (List.sublist_append_left _ _).trans
        ((List.sublist_append_right _ _).trans (List.sublist_append_right _ _))
    · have landed := tallied.landed ticket
      rw [Processor.attemptsOf, accounted.batches, List.flatten_append, List.count_append]
      exact le_add_right landed
    · rw [← configEq]
      exact counted.bounded ticket

/-- Two writes wait, and the patch of the second cannot be applied: it adds to a text. -/
def mixedBatch : List Step :=
  [.enqueue 0 "a" (.ofIncrements [("n", .int 1)]),
    .enqueue 0 "b" ⟨[("v", .text "x")], [("v", .int 1)]⟩]

/-- Two calls of `flush` hand the batch to an empty shelf. -/
def mixedBench : Bench :=
  let queued : Bench :=
    ⟨(Coalescer.idle "writes" Coalescer.smallBatches).run mixedBatch, .empty, [], []⟩
  let first := { queued with coalescer := queued.coalescer.step (.start 1 .flush) }.call 2 .working
  { first with coalescer := first.coalescer.step (.start 3 .flush) }.call 4 .working

theorem mixedBench_reached : Reached "writes" Coalescer.smallBatches .empty mixedBench := by
  have idle : Reached "writes" Coalescer.smallBatches .empty _ := .start
  have queued := (idle.work (.enqueue 0 "a" (.ofIncrements [("n", .int 1)])) not_false).work
    (.enqueue 0 "b" ⟨[("v", .text "x")], [("v", .int 1)]⟩) not_false
  have first := (queued.work (.start 1 .flush) not_false).call 2 .working (List.cons_ne_nil _ _)
  exact (first.work (.start 3 .flush) not_false).call 4 .working (List.cons_ne_nil _ _)

/-- The first write is given up, and has been applied in both of its batches. -/
theorem mixedBench_half_batches_stay :
    Reached "writes" Coalescer.smallBatches .empty mixedBench ∧
      mixedBench.coalescer.processor.deadTickets = [0, 1] ∧
      mixedBench.timesApplied 0 = 0 + (mixedBench.halves.map Write.ticket).count 0 ∧
      applyAll ((mixedBench.applied.filter (·.id = "a")).map Write.patch) none =
        .ok (Keyed.get? "a" mixedBench.shelf.documents) := by
  have stay := (half_batches_stay "writes" Coalescer.smallBatches .empty).2 mixedBench
    mixedBench_reached
  exact ⟨mixedBench_reached, by decide, (stay.2.1 0).1, stay.1 "a"⟩

/-- A call that faults leaves a document behind that was not there, and the retry of its batch
increments it again. -/
theorem mixedBench_not_undone :
    (∃ writes next fault, Shelf.empty.upsert writes = (next, .error fault) ∧
        next.documents = [("a", [("n", .int 1)])] ∧ next.documents ≠ Shelf.empty.documents) ∧
      Reached "writes" Coalescer.smallBatches .empty mixedBench ∧
      mixedBench.coalescer.processor.accepted.length = 2 ∧ mixedBench.timesApplied 0 = 2 ∧
      mixedBench.shelf.documents = [("a", [("n", .int 2)])] := by
  have halfApplied : ∃ writes next fault, Shelf.empty.upsert writes = (next, .error fault) ∧
      next.documents = [("a", [("n", .int 1)])] ∧ next.documents ≠ Shelf.empty.documents :=
    ⟨((Coalescer.idle "writes" Coalescer.smallBatches).run mixedBatch).processor.queue,
      _, _, rfl, rfl, List.cons_ne_nil _ _⟩
  exact ⟨halfApplied, mixedBench_reached, by decide, by decide, rfl⟩

end Bench

end Outreach.Writes
