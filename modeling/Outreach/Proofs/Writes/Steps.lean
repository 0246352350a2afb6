import Mathlib.Logic.Relation
import Outreach.Proofs.Writes.Batch
import Outreach.Writes.Coalescer

/-!
# What one step does

A step of a coalescer moves callers about; what it does to the writes is little. It accepts a write,
or ends the flight, or neither, and after that at most one batch is taken, which needs a flight that
has ended and a queue that is not empty. `step_reaches` says this once for all steps, and every
property of the writes of a run follows from it by `run_induction`.
-/

namespace Outreach.Writes

namespace Processor

/-- `q` has the writes of `p`: only its timer and the mark of having been stopped may differ. -/
def SameWork (p q : Processor) : Prop :=
  q = { p with timer := q.timer, stopped := q.stopped }

theorem SameWork.refl (p : Processor) : p.SameWork p := rfl

theorem SameWork.trans {p q r : Processor} (first : p.SameWork q) (second : q.SameWork r) :
    p.SameWork r := by
  unfold SameWork at first second ⊢
  rw [second, first]

/-- A queue that is not empty gives a batch that is not empty. -/
theorem take_flight_ne_nil {p : Processor} (waiting : p.queue ≠ []) : p.take.flight ≠ [] := by
  have fits := p.config.one_le_batchSize
  have nonempty : p.config.batchSize ≠ 0 := by omega
  simp [take, nextBatch, waiting, nonempty]

/-- A timer that starts changes no write. -/
theorem arm_sameWork (now : Nat) (p : Processor) : p.SameWork (p.arm now) := by
  unfold arm
  split <;> rfl

@[simp]
theorem arm_flight (now : Nat) (p : Processor) : (p.arm now).flight = p.flight := by
  rw [p.arm_sameWork now]

/-- A write is accepted exactly when the processor is neither stopped nor full. -/
theorem enqueue_eq_ok_iff {p q : Processor} {now : Nat} {id : String} {patch : Patch} :
    p.enqueue now id patch = .ok q ↔
      p.stopped = false ∧ p.isFull = false ∧ q = (p.accept id patch).arm now := by
  unfold enqueue
  cases p.stopped <;> cases p.isFull <;> simp [eq_comm]

section Settle

variable (letters : LetterStore) (outcome : SinkOutcome) (p : Processor)

@[simp]
theorem settle_queue : (p.settle letters outcome).2.queue =
    p.retries (failuresOf p.flight outcome) ++ p.queue := rfl

@[simp]
theorem settle_flight : (p.settle letters outcome).2.flight = [] := rfl

@[simp]
theorem settle_deliveries : (p.settle letters outcome).2.deliveries =
    p.deliveries ++ deliveriesOf p.flight outcome := rfl

@[simp]
theorem settle_deadLetters : (p.settle letters outcome).2.deadLetters =
    p.deadLetters ++ lettersOf (letters.stored (p.exhausted (failuresOf p.flight outcome))) := rfl

@[simp]
theorem settle_lost : (p.settle letters outcome).2.lost =
    p.lost ++ lettersOf (letters.refused (p.exhausted (failuresOf p.flight outcome))) := rfl

@[simp]
theorem settle_batches : (p.settle letters outcome).2.batches = p.batches := rfl

@[simp]
theorem settle_landed : (p.settle letters outcome).2.landed =
    p.landed ++ [p.flight.map Write.ticket] := rfl

end Settle

/-- One change of the writes of a processor. -/
inductive Change : Processor → Processor → Prop
  | mark (p : Processor) (timer : Timer) (stopped : Bool) :
      Change p { p with timer := timer, stopped := stopped }
  | accept (p : Processor) (id : String) (patch : Patch) : Change p (p.accept id patch)
  | settle (p : Processor) (letters : LetterStore) (outcome : SinkOutcome)
      (flying : p.flight ≠ []) : Change p (p.settle letters outcome).2
  | take (p : Processor) (landed : p.flight = []) (waiting : p.queue ≠ []) : Change p p.take

theorem SameWork.change {p q : Processor} (same : p.SameWork q) : Change p q := by
  rw [same]
  exact .mark p q.timer q.stopped

end Processor

namespace Coalescer

/-- A batch is in flight exactly while a caller holds the turn. -/
def Guarded (s : Coalescer) : Prop := s.holder = none ↔ s.processor.flight = []

/-- From the writes of `p` the coalescer `t` is reached by taking at most one batch. -/
inductive Reaches (p : Processor) (t : Coalescer) : Prop
  | waits (same : p.SameWork t.processor) (guarded : t.Guarded)
  | takes {q : Processor} (same : p.SameWork q) (landed : q.flight = []) (waiting : q.queue ≠ [])
      (taken : t.processor = q.take) (held : t.holder ≠ none)

theorem Reaches.guarded {p : Processor} {t : Coalescer} (reaches : Reaches p t) : t.Guarded := by
  cases reaches with
  | waits _ guarded => exact guarded
  | takes _ _ waiting taken held =>
      have flying := Processor.take_flight_ne_nil waiting
      rw [← taken] at flying
      exact iff_of_false held flying

/-- Taking a batch changes nothing that neither taking nor the timer changes. -/
theorem Reaches.view_eq {α : Type} (view : Processor → α)
    (markView : ∀ p timer stopped, view { p with timer := timer, stopped := stopped } = view p)
    (takeView : ∀ p, view p.take = view p) {p : Processor} {t : Coalescer} (reaches : Reaches p t) :
    view t.processor = view p := by
  cases reaches with
  | waits same _ => rw [same, markView]
  | takes same _ _ taken _ => rw [taken, takeView, same, markView]

/-! ## Calls and writes are apart -/

section Frames

variable (s : Coalescer) (number : Nat) (change : Call → Call)

@[simp]
theorem updateCall_processor : (s.updateCall number change).processor = s.processor := rfl

@[simp]
theorem updateCall_holder : (s.updateCall number change).holder = s.holder := rfl

@[simp]
theorem addCall_processor (kind : CallKind) (status : CallStatus) :
    (s.addCall kind status).processor = s.processor := rfl

@[simp]
theorem wakeAfterTimer_processor (result : FlushResult) :
    (s.wakeAfterTimer result).processor = s.processor := rfl

@[simp]
theorem wakeAfterTimer_holder (result : FlushResult) :
    (s.wakeAfterTimer result).holder = s.holder := rfl

end Frames

/-! ## Parts of a step -/

section Parts

variable {p : Processor} {s : Coalescer}

theorem joinLine_reaches (caller : Caller) (same : p.SameWork s.processor) (guarded : s.Guarded) :
    Reaches p (s.joinLine caller) := by
  unfold joinLine
  split
  · rename_i free
    obtain ⟨unheld, _, waiting⟩ := free
    exact .takes same (guarded.mp unheld) (by simpa using waiting) rfl (by simp)
  · exact .waits same guarded

theorem timerReturns_reaches (now : Nat) (result : FlushResult) (same : p.SameWork s.processor)
    (guarded : s.Guarded) : Reaches p (s.timerReturns now result) := by
  unfold timerReturns
  split <;> exact .waits (same.trans rfl) guarded

theorem drainOn_reaches (number : Nat) (same : p.SameWork s.processor) (guarded : s.Guarded) :
    Reaches p (s.drainOn number) := by
  unfold drainOn
  split
  · exact .waits same guarded
  · exact joinLine_reaches _ same guarded

theorem callReturns_reaches (number : Nat) (result : FlushResult) (same : p.SameWork s.processor)
    (guarded : s.Guarded) : Reaches p (s.callReturns number result) := by
  cases result with
  | none => exact .waits same guarded
  | some report =>
      simp only [callReturns]
      split
      · split
        · exact drainOn_reaches number same guarded
        · exact .waits same guarded
      · exact .waits same guarded

theorem deliver_reaches (now : Nat) (caller : Caller) (result : FlushResult)
    (same : p.SameWork s.processor) (guarded : s.Guarded) :
    Reaches p (s.deliver now caller result) := by
  cases caller with
  | timer => exact timerReturns_reaches now result same guarded
  | call number => exact callReturns_reaches number result same guarded

end Parts

/-! ## Whole steps -/

/-- The processor after the part of a step that comes before any batch is taken. -/
def worked (step : Step) (s : Coalescer) : Processor :=
  match step with
  | .enqueue now id patch => match s.processor.enqueue now id patch with
    | .ok p => p
    | .error _ => s.processor
  | .finish _ outcome letters =>
    if s.holder = none then s.processor else (s.processor.settle letters outcome).2
  | _ => s.processor

variable {s : Coalescer}

/-- The work of a step changes nothing that its three kinds of work do not change. -/
theorem worked_view_eq {α : Type} (view : Processor → α)
    (markView : ∀ p timer stopped, view { p with timer := timer, stopped := stopped } = view p)
    (acceptView : ∀ p id patch, view (p.accept id patch) = view p)
    (settleView : ∀ p letters outcome, view (p.settle letters outcome).2 = view p)
    (step : Step) : view (s.worked step) = view s.processor := by
  cases step with
  | enqueue now id patch =>
      simp only [worked]
      split
      · rename_i p queued
        obtain ⟨_, _, rfl⟩ := Processor.enqueue_eq_ok_iff.mp queued
        rw [Processor.arm_sameWork now _, markView, acceptView]
      · rfl
  | finish now outcome letters =>
      simp only [worked]
      split
      · rfl
      · exact settleView _ _ _
  | start | resume | fire | turn => rfl

theorem turn_reaches (now : Nat) (guarded : s.Guarded) : Reaches s.processor (s.turn now) := by
  unfold turn
  split
  · rename_i caller rest unheld lineEq
    split
    · exact deliver_reaches now caller _ (.refl _) guarded
    · rename_i waiting
      exact .takes (.refl _) (guarded.mp unheld) (by simpa using waiting) rfl (by simp)
  · exact .waits (.refl _) guarded

theorem finish_reaches (now : Nat) (outcome : SinkOutcome) (letters : LetterStore)
    (guarded : s.Guarded) :
    Reaches (s.worked (.finish now outcome letters)) (s.finish now outcome letters) := by
  unfold finish worked
  cases held : s.holder with
  | none => exact .waits (.refl _) (by simpa [held] using guarded)
  | some caller =>
      exact deliver_reaches now caller _ (.refl _) (iff_of_true rfl rfl)

theorem fire_reaches (guarded : s.Guarded) : Reaches s.processor s.fire := by
  unfold fire
  split
  · exact joinLine_reaches _ rfl guarded
  · exact .waits (.refl _) guarded

theorem start_reaches (now : Nat) (kind : CallKind) (guarded : s.Guarded) :
    Reaches s.processor (s.start now kind) := by
  cases kind with
  | flush =>
      simp only [start, startFlush]
      split
      · exact deliver_reaches now _ _ (.refl _) guarded
      · exact joinLine_reaches _ (.refl _) guarded
  | stop =>
      simp only [start, startStop]
      split
      · exact .waits (.refl _) guarded
      · split
        · exact drainOn_reaches _ rfl guarded
        · exact .waits rfl guarded
        · exact .waits rfl guarded

theorem resume_reaches (number : Nat) (guarded : s.Guarded) :
    Reaches s.processor (s.resume number) := by
  unfold resume
  split
  · split
    · exact drainOn_reaches number (.refl _) guarded
    · exact .waits (.refl _) guarded
  · exact .waits (.refl _) guarded

theorem step_enqueue_of_error {now : Nat} {id : String} {patch : Patch} {refusal : Refusal}
    (refused : s.processor.enqueue now id patch = .error refusal) :
    s.step (.enqueue now id patch) = s := by
  simp only [step, enqueue, refused]
  rfl

theorem step_enqueue_of_ok {now : Nat} {id : String} {patch : Patch} {p : Processor}
    (queued : s.processor.enqueue now id patch = .ok p) :
    s.step (.enqueue now id patch) = { s with processor := p } := by
  simp only [step, enqueue, queued]
  rfl

theorem enqueue_reaches (now : Nat) (id : String) (patch : Patch) (guarded : s.Guarded) :
    Reaches (s.worked (.enqueue now id patch)) (s.step (.enqueue now id patch)) := by
  cases queued : s.processor.enqueue now id patch with
  | error refusal =>
      rw [step_enqueue_of_error queued]
      simp only [worked, queued]
      exact .waits (.refl _) guarded
  | ok p =>
      rw [step_enqueue_of_ok queued]
      simp only [worked, queued]
      obtain ⟨_, _, rfl⟩ := Processor.enqueue_eq_ok_iff.mp queued
      exact .waits (.refl _) (by simpa [Guarded, Processor.accept] using guarded)

/-- What a step does to the writes: its own work, and after that at most one batch is taken. -/
theorem step_reaches (guarded : s.Guarded) (step : Step) :
    Reaches (s.worked step) (s.step step) := by
  cases step with
  | enqueue now id patch => exact enqueue_reaches now id patch guarded
  | start now kind => exact start_reaches now kind guarded
  | resume number => exact resume_reaches number guarded
  | fire => exact fire_reaches guarded
  | turn now => exact turn_reaches now guarded
  | finish now outcome letters => exact finish_reaches now outcome letters guarded

/-! ## Runs -/

open Relation

/-- The work of a step is a sequence of changes. -/
theorem worked_changes (guarded : s.Guarded) (step : Step) :
    ReflTransGen Processor.Change s.processor (s.worked step) := by
  cases step with
  | enqueue now id patch =>
      simp only [worked]
      split
      · rename_i p queued
        obtain ⟨_, _, rfl⟩ := Processor.enqueue_eq_ok_iff.mp queued
        exact (ReflTransGen.single (.accept _ id patch)).tail
          (Processor.arm_sameWork now _).change
      · exact .refl
  | finish now outcome letters =>
      simp only [worked]
      split
      · exact .refl
      · rename_i held
        exact .single (.settle _ letters outcome (mt guarded.mpr held))
  | start | resume | fire | turn => exact .refl

theorem Reaches.changes {p : Processor} {t : Coalescer} (reaches : Reaches p t) :
    ReflTransGen Processor.Change p t.processor := by
  cases reaches with
  | waits same _ => exact .single same.change
  | takes same landed waiting taken _ =>
      rw [taken]
      exact (ReflTransGen.single same.change).tail (.take _ landed waiting)

theorem run_concat (steps : List Step) (step : Step) (s : Coalescer) :
    s.run (steps ++ [step]) = (s.run steps).step step :=
  List.foldl_concat ..

theorem run_append (first later : List Step) (s : Coalescer) :
    s.run (first ++ later) = (s.run first).run later :=
  List.foldl_append ..

theorem changes_keep {I : Processor → Prop}
    (kept : ∀ {p q : Processor}, Processor.Change p q → I p → I q)
    {p q : Processor} (changes : ReflTransGen Processor.Change p q) (holds : I p) : I q := by
  induction changes with
  | refl => exact holds
  | tail _ change before => exact kept change before

/-- What every step of a kind keeps holds after every run of such steps. -/
theorem run_keeps {P : Step → Prop} {I : Coalescer → Prop}
    (kept : ∀ {s : Coalescer} {step : Step}, P step → I s → I (s.step step))
    {steps : List Step} (all : ∀ step ∈ steps, P step) {s : Coalescer} (holds : I s) :
    I (s.run steps) := by
  induction steps generalizing s with
  | nil => exact holds
  | cons step rest ih =>
      apply ih
      · exact fun next nextMem => all next (List.mem_cons_of_mem step nextMem)
      · exact kept (all step List.mem_cons_self) holds

/-- What every change keeps holds of the processor after every run. -/
theorem run_induction {I : Processor → Prop}
    (kept : ∀ {p q : Processor}, Processor.Change p q → I p → I q)
    (steps : List Step) {s : Coalescer} (guarded : s.Guarded) (holds : I s.processor) :
    (s.run steps).Guarded ∧ I (s.run steps).processor := by
  apply run_keeps (P := fun _ => True) (I := fun s => s.Guarded ∧ I s.processor) ?_
    (fun _ _ => trivial) ⟨guarded, holds⟩
  intro s step _ before
  have reaches := step_reaches before.1 step
  have changes := (worked_changes before.1 step).trans reaches.changes
  exact ⟨reaches.guarded, changes_keep kept changes before.2⟩

theorem idle_guarded (name : String) (config : Config) : (idle name config).Guarded :=
  iff_of_true rfl rfl

theorem run_guarded (name : String) (config : Config) (steps : List Step) :
    ((idle name config).run steps).Guarded :=
  (run_induction (I := fun _ => True) (fun _ _ => trivial) steps (idle_guarded name config)
    trivial).1

end Coalescer

end Outreach.Writes
