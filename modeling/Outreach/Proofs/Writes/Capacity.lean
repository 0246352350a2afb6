import Mathlib.Data.List.Induction
import Outreach.Proofs.Writes.Order
import Outreach.Proofs.Writes.Quiescence

/-!
# The capacity of a queue

A full queue takes no new write, but a batch that fails goes back to the head of the queue without
asking whether there is room, and by then new writes may have filled the room it left. `Layered`
says why this does not add up from retry to retry. The queue is a layer of writes that have come
back, and behind it the writes that have never been in a batch. The writes that have come back are
the rest of the last batch, so the next batch takes all of them; and only the other layer grows by
acceptance, up to the capacity.
-/

namespace Outreach.Writes

namespace Processor

/-- The queue is a layer of writes that have come back from a flight and a layer of writes that have
never been in one. What has come back and what is in flight fit into one batch. -/
structure Layered (p : Processor) (limit : Nat) (returned fresh : List Write) : Prop where
  queue : p.queue = returned ++ fresh
  oneBatch : returned.length + p.flight.length ≤ p.config.batchSize
  fits : fresh.length ≤ limit
  untried : ∀ w ∈ fresh, w.attempts = 0
  tried : ∀ w ∈ returned, 0 < w.attempts ∧ w.ticket ∈ p.landed.flatten
  flying : ∀ w ∈ p.flight, 0 < w.attempts

/-- The queue has its two layers. -/
def Bounded (p : Processor) (limit : Nat) : Prop := ∃ returned fresh, p.Layered limit returned fresh

theorem idle_bounded (name : String) (config : Config) (limit : Nat) :
    (idle name config).Bounded limit :=
  ⟨[], [], ⟨rfl, Nat.zero_le _, Nat.zero_le _, by simp, by simp, by simp [idle]⟩⟩

section Layers

variable {p q : Processor} {limit : Nat} {returned fresh : List Write}

theorem SameWork.layered (same : p.SameWork q) (layered : p.Layered limit returned fresh) :
    q.Layered limit returned fresh := by
  rw [same]
  exact ⟨layered.queue, layered.oneBatch, layered.fits, layered.untried, layered.tried,
    layered.flying⟩

/-- A queue with room has room in the layer of the new writes. -/
theorem Layered.accept (layered : p.Layered limit returned fresh) (room : p.queue.length < limit)
    (id : String) (patch : Patch) :
    (p.accept id patch).Layered limit returned (fresh ++ [p.nextWrite id patch]) where
  queue := by
    rw [← List.append_assoc, ← layered.queue]
    rfl
  oneBatch := layered.oneBatch
  fits := by
    rw [layered.queue, List.length_append] at room
    rw [List.length_append, List.length_singleton]
    omega
  untried := by
    intro w wMem
    rcases List.mem_append.mp wMem with before | last
    · exact layered.untried w before
    · rw [List.mem_singleton.mp last]
      rfl
  tried := layered.tried
  flying := layered.flying

/-- The writes that come back stand before those that came back earlier. -/
theorem Layered.settle (layered : p.Layered limit returned fresh) (letters : LetterStore)
    (outcome : SinkOutcome) : (p.settle letters outcome).2.Layered limit
      (p.retries (failuresOf p.flight outcome) ++ returned) fresh where
  queue := by rw [settle_queue, layered.queue, List.append_assoc]
  oneBatch := by
    have fewer := (p.retries_sublist p.flight outcome).length_le
    have before := layered.oneBatch
    have sameConfig : (p.settle letters outcome).2.config = p.config := rfl
    rw [settle_flight, sameConfig, List.length_append, List.length_nil]
    omega
  fits := layered.fits
  untried := layered.untried
  tried := by
    intro w wMem
    rw [settle_landed, List.flatten_append, List.mem_append]
    rcases List.mem_append.mp wMem with back | earlier
    · have flew := (p.retries_sublist p.flight outcome).subset back
      refine ⟨layered.flying w flew, .inr ?_⟩
      simpa using ⟨w, flew, rfl⟩
    · exact ⟨(layered.tried w earlier).1, .inl (layered.tried w earlier).2⟩
  flying := by simp

/-- A batch takes all writes that have come back, and new ones up to its size. -/
theorem Layered.take (layered : p.Layered limit returned fresh) :
    p.take.Layered limit [] (fresh.drop (p.config.batchSize - returned.length)) where
  queue := by
    have oneBatch := layered.oneBatch
    have allReturned : returned.drop p.config.batchSize = [] := List.drop_eq_nil_of_le (by omega)
    simp only [Processor.take, layered.queue, List.drop_append, allReturned, List.nil_append]
  oneBatch := by
    have taken : p.nextBatch.length ≤ p.config.batchSize := by
      rw [nextBatch, List.length_map]
      exact List.length_take_le _ _
    exact Nat.le_trans (Nat.le_of_eq (Nat.zero_add _)) taken
  fits := Nat.le_trans (List.drop_sublist ..).length_le layered.fits
  untried := fun w wMem => layered.untried w (List.mem_of_mem_drop wMem)
  tried := by simp
  flying := by
    intro w wMem
    obtain ⟨v, _, rfl⟩ := List.mem_map.mp wMem
    exact Nat.succ_pos _

/-- The excess over the capacity is no more than what has come back. -/
theorem Layered.length_le (layered : p.Layered limit returned fresh) :
    p.queue.length + p.flight.length ≤ limit + p.config.batchSize := by
  have oneBatch := layered.oneBatch
  have fits := layered.fits
  rw [layered.queue, List.length_append]
  omega

end Layers

theorem isFull_eq_false_iff {p : Processor} {limit : Nat}
    (limited : p.config.capacity = some limit) :
    p.isFull = false ↔ p.queue.length < limit := by
  simp [isFull, limited]

/-- A processor with its next write at the end of the queue, and a timer that runs. -/
def queued (now : Nat) (id : String) (patch : Patch) (p : Processor) : Processor :=
  { p with
    queue := p.queue ++ [⟨p.accepted.length, id, patch, 0⟩]
    accepted := p.accepted ++ [⟨p.accepted.length, id, patch, 0⟩]
    timer := if p.timer = .off then .counting (now + p.config.interval) else p.timer }

theorem arm_accept (now : Nat) (id : String) (patch : Patch) (p : Processor) :
    (p.accept id patch).arm now = p.queued now id patch := by
  cases timer : p.timer <;> simp [arm, accept, queued, nextWrite, timer]

end Processor

namespace Coalescer

variable {s : Coalescer} {limit : Nat}

/-- The work of a step keeps the two layers. -/
theorem worked_bounded (limited : s.processor.config.capacity = some limit)
    (bounded : s.processor.Bounded limit) (step : Step) : (s.worked step).Bounded limit := by
  obtain ⟨returned, fresh, layered⟩ := bounded
  cases step with
  | enqueue now id patch =>
      simp only [worked]
      split
      · rename_i p queued
        obtain ⟨_, notFull, rfl⟩ := Processor.enqueue_eq_ok_iff.mp queued
        have room := (Processor.isFull_eq_false_iff limited).mp notFull
        exact ⟨_, _, (Processor.arm_sameWork now _).layered (layered.accept room id patch)⟩
      · exact ⟨_, _, layered⟩
  | finish now outcome letters =>
      simp only [worked]
      split
      · exact ⟨_, _, layered⟩
      · exact ⟨_, _, layered.settle letters outcome⟩
  | start | resume | fire | turn => exact ⟨_, _, layered⟩

/-- Every step keeps the two layers. -/
theorem step_bounded (guarded : s.Guarded) (limited : s.processor.config.capacity = some limit)
    (bounded : s.processor.Bounded limit) (step : Step) :
    (s.step step).processor.Bounded limit := by
  obtain ⟨returned, fresh, layered⟩ := worked_bounded limited bounded step
  cases step_reaches guarded step with
  | waits same _ => exact ⟨_, _, same.layered layered⟩
  | takes same _ _ taken _ =>
      rw [taken]
      exact ⟨_, _, (same.layered layered).take⟩

theorem run_bounded (name : String) {config : Config} (limited : config.capacity = some limit)
    (steps : List Step) : ((idle name config).run steps).processor.Bounded limit := by
  induction steps using List.reverseRecOn with
  | nil => exact Processor.idle_bounded name config limit
  | append_singleton steps step ih =>
      rw [run_concat]
      apply step_bounded (run_guarded name config steps) ?_ ih
      rw [run_config]
      exact limited

/-! ## When a write is refused -/

/-- A call of `stop` is among the steps. -/
def CallsStop (steps : List Step) : Prop := ∃ now, .start now .stop ∈ steps

/-- Only a call of `stop` stops. -/
theorem step_stopped_iff (step : Step) : (s.step step).processor.stopped = true ↔
    s.processor.stopped = true ∨ ∃ now, step = .start now .stop := by
  constructor
  · intro stopped
    cases step with
    | enqueue now id patch =>
        cases queued : s.processor.enqueue now id patch with
        | error refusal =>
            rw [step_enqueue_of_error queued] at stopped
            exact .inl stopped
        | ok p =>
            rw [step_enqueue_of_ok queued] at stopped
            obtain ⟨_, _, rfl⟩ := Processor.enqueue_eq_ok_iff.mp queued
            rw [Processor.arm_accept] at stopped
            exact .inl stopped
    | start now kind =>
        cases kind with
        | stop => exact .inr ⟨now, rfl⟩
        | flush =>
            left
            simp only [step, start, startFlush] at stopped
            split at stopped <;> simpa using stopped
    | resume number =>
        left
        simp only [step, resume] at stopped
        split at stopped
        · split at stopped <;> simpa using stopped
        · exact stopped
    | fire =>
        left
        simp only [step, fire] at stopped
        split at stopped <;> simpa using stopped
    | turn now =>
        left
        simp only [step, turn] at stopped
        split at stopped
        · split at stopped <;> simpa [Processor.take] using stopped
        · exact stopped
    | finish now outcome letters =>
        left
        simp only [step, finish] at stopped
        split at stopped
        · exact stopped
        · rw [deliver_stopped] at stopped
          exact stopped
  · rintro (stopped | ⟨now, rfl⟩)
    · exact step_stopped stopped step
    · simp only [step, start, startStop]
      split
      · assumption
      · split <;> simp

theorem run_stopped_iff (name : String) (config : Config) (steps : List Step) :
    ((idle name config).run steps).processor.stopped = true ↔ CallsStop steps := by
  induction steps using List.reverseRecOn with
  | nil => simp [CallsStop, run, idle, Processor.idle]
  | append_singleton steps step ih =>
      rw [run_concat, step_stopped_iff, ih]
      simp only [CallsStop, List.mem_append, List.mem_singleton, exists_or]
      simp only [eq_comm]

/-- What a call of `enqueue` does on a coalescer with a capacity, when `stop` has been called or
not. A refusal is a value: the coalescer that was asked is still the same, and a step that is
refused is none. -/
structure AnswersEnqueue (s : Coalescer) (limit : Nat) (stopCalled : Prop) (now : Nat) (id : String)
    (patch : Patch) : Prop where
  stopped : s.enqueue now id patch = .error (.stopped s.processor.name) ↔ stopCalled
  full : s.enqueue now id patch = .error (.full s.processor.name limit) ↔
    ¬ stopCalled ∧ limit ≤ s.processor.queue.length
  queued : ∀ t, s.enqueue now id patch = .ok t ↔ ¬ stopCalled ∧ s.processor.queue.length < limit ∧
    t = { s with processor := s.processor.queued now id patch }
  refused : ∀ refusal, s.enqueue now id patch = .error refusal → s.step (.enqueue now id patch) = s

theorem enqueue_eq (limited : s.processor.config.capacity = some limit) (now : Nat) (id : String)
    (patch : Patch) : s.enqueue now id patch =
      if s.processor.stopped then .error (.stopped s.processor.name)
      else if limit ≤ s.processor.queue.length then .error (.full s.processor.name limit)
      else .ok { s with processor := s.processor.queued now id patch } := by
  unfold enqueue Processor.enqueue
  rw [Processor.arm_accept, Processor.isFull, limited]
  cases s.processor.stopped with
  | true => rfl
  | false => by_cases full : limit ≤ s.processor.queue.length <;> simp [full] <;> rfl

theorem answersEnqueue {stopCalled : Prop} (limited : s.processor.config.capacity = some limit)
    (stops : s.processor.stopped = true ↔ stopCalled) (now : Nat) (id : String) (patch : Patch) :
    s.AnswersEnqueue limit stopCalled now id patch := by
  rw [← stops]
  refine ⟨?_, ?_, ?_, ?_⟩
  · rw [enqueue_eq limited]
    split
    · exact iff_of_true rfl ‹_›
    · refine iff_of_false ?_ ‹_›
      split <;> simp
  · rw [enqueue_eq limited]
    split
    · exact iff_of_false (by simp) fun both => both.1 ‹_›
    · split
      · exact iff_of_true rfl ⟨‹_›, ‹_›⟩
      · exact iff_of_false (by simp) fun both => ‹¬ limit ≤ _› both.2
  · intro t
    rw [enqueue_eq limited]
    split
    · exact iff_of_false (by simp) fun all => all.1 ‹_›
    · rename_i accepting
      split
      · rename_i full
        exact iff_of_false (by simp) fun all => Nat.not_lt.mpr full all.2.1
      · rename_i room
        constructor
        · intro same
          exact ⟨accepting, Nat.not_le.mp room, (Except.ok.inj same).symm⟩
        · rintro ⟨_, _, rfl⟩
          rfl
  · intro refusal refused
    simp only [step, refused]

/-- The queue of a processor with a capacity. In every run the queue and the batch in flight are
together no longer than the capacity and one batch; the queue is longer than the capacity only by
writes that were in a batch whose flight has ended, and have come back. A write is refused as coming
too late exactly when `stop` has been called, and else as one too many exactly when the queue has
reached the capacity; any other write stands, with no attempt spent, at the end of the queue, and
only it and the timer are new. A write that is refused changes nothing. -/
theorem run_keeps_to_capacity (name : String) (config : Config) (limit : Nat)
    (limited : config.capacity = some limit) (steps : List Step) :
    let s := (idle name config).run steps
    s.processor.queue.length + s.processor.flight.length ≤ limit + config.batchSize ∧
      s.processor.Bounded limit ∧
      ∀ now id patch, s.AnswersEnqueue limit (CallsStop steps) now id patch := by
  intro s
  have bounded : s.processor.Bounded limit := run_bounded name limited steps
  have sameConfig : s.processor.config = config := run_config name config steps
  refine ⟨?_, bounded, ?_⟩
  · obtain ⟨returned, fresh, layered⟩ := bounded
    rw [← sameConfig]
    exact layered.length_le
  · intro now id patch
    apply answersEnqueue
    · rw [sameConfig]
      exact limited
    · exact run_stopped_iff name config steps

/-- Room for two writes, in batches of two. -/
def narrow : Config :=
  { Config.standard with
    batchSize := 2
    capacity := some 2
    one_le_batchSize := smallBatches.one_le_batchSize
    one_le_capacity := by simp }

/-- A batch fails while two new writes have filled the room that it left, and the
same happens again. -/
def overfull : List Step :=
  [.enqueue 0 "a" (.ofFields []), .enqueue 0 "b" (.ofFields []), .start 1 .flush,
    .enqueue 2 "c" (.ofFields []), .enqueue 2 "d" (.ofFields []),
    .finish 3 (.raised "down") .working,
    .start 4 .flush, .finish 5 (.raised "down") .working]

/-- Four writes wait where two may, and no fifth comes in; the excess is one batch, however often it
has come back. -/
theorem overfull_keeps_to_capacity :
    let s := (idle "writes" narrow).run overfull
    narrow.capacity = some 2 ∧
      s.processor.queue.map (fun w => (w.id, w.attempts)) =
      [("a", 2), ("b", 2), ("c", 0), ("d", 0)] ∧
      s.processor.Bounded 2 ∧ s.enqueue 6 "e" (.ofFields []) = .error (.full "writes" 2) := by
  have kept := run_keeps_to_capacity "writes" narrow 2 rfl overfull
  refine ⟨rfl, by decide, kept.2.1, (kept.2.2 6 "e" (.ofFields [])).full.mpr ⟨?_, by decide⟩⟩
  simp [CallsStop, overfull]

end Coalescer

end Outreach.Writes
