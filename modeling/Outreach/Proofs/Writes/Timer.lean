import Outreach.Proofs.Writes.Drain

/-!
# The timer of a processor

Until it is stopped, a processor with writes in its queue or in flight has a timer, and it
never has two: its timer counts, or it has fired and waits for its flush. Only its firing and
a stop touch a timer that counts, and a timer leaves a processor that is not stopped only
when there is no work left.
-/

namespace Outreach.Writes

/-- When the timer fires, if it counts. -/
def Timer.due? : Timer → Option Nat
  | .counting due => some due
  | .off | .flushing => none

/-- The words for the states of a processor that is not stopped. -/
theorem Processor.stateWord_of_accepting {p : Processor} (accepting : p.stopped = false) :
    p.stateWord = if p.timer = .off then "idle" else "armed" := by
  rw [stateWord, accepting]
  rfl

namespace Coalescer

variable {s : Coalescer}

/-- How many timers there are: one that counts, and every one that has fired and
has not had its flush. -/
def timers (s : Coalescer) : Nat :=
  s.processor.timer.due?.toList.length + s.callers.count .timer

/-- A timer that is not away counts, or else waits for its flush in one place. -/
theorem timers_eq (orderly : s.Orderly) (placed : s.TimerPlaced) :
    s.timers = if s.processor.timer = .off then 0 else 1 := by
  unfold timers
  cases timerEq : s.processor.timer with
  | off =>
      have absent : .timer ∉ s.callers := orderly.timer_notMem_callers (by simp [timerEq])
      simp [Timer.due?, List.count_eq_zero.mpr absent]
  | counting due =>
      have absent : .timer ∉ s.callers := orderly.timer_notMem_callers (by simp [timerEq])
      simp [Timer.due?, List.count_eq_zero.mpr absent]
  | flushing =>
      have present : .timer ∈ s.callers := placed.flushing timerEq
      simp [Timer.due?, List.count_eq_one_of_mem orderly.nodup present]

/-- A processor that is not stopped and has no timer has no work. -/
theorem Orderly.idle_of_off (orderly : s.Orderly) (guarded : s.Guarded)
    (accepting : s.processor.stopped = false) (off : s.processor.timer = .off) :
    s.processor.queue = [] ∧ s.processor.flight = [] := by
  rcases orderly.armed with stopped | runs | ⟨empty, unheld⟩
  · rw [accepting] at stopped
    cases stopped
  · exact absurd off runs
  · exact ⟨empty, guarded.mp unheld⟩

/-! ## A timer that counts -/

section Frames

variable (s : Coalescer) (number : Nat)

@[simp]
theorem drainOn_timer : (s.drainOn number).processor.timer = s.processor.timer := by
  unfold drainOn
  split <;> simp

@[simp]
theorem callReturns_timer (result : FlushResult) :
    (s.callReturns number result).processor.timer = s.processor.timer := by
  cases result with
  | none => rfl
  | some report =>
      simp only [callReturns]
      split
      · split <;> simp
      · rfl

end Frames

/-- The result of a flush that is not its own does not touch the timer. -/
theorem deliver_timer {now : Nat} {caller : Caller} (result : FlushResult)
    (other : caller ≠ .timer) :
    (s.deliver now caller result).processor.timer = s.processor.timer := by
  cases caller with
  | timer => exact absurd rfl other
  | call number => exact callReturns_timer s number result

theorem enqueue_timer {now due : Nat} {id : String} {patch : Patch}
    (counting : s.processor.timer = .counting due) :
    (s.step (.enqueue now id patch)).processor.timer = .counting due := by
  cases queued : s.processor.enqueue now id patch with
  | error refusal =>
      rw [step_enqueue_of_error queued]
      exact counting
  | ok p =>
      rw [step_enqueue_of_ok queued]
      obtain ⟨_, _, rfl⟩ := Processor.enqueue_eq_ok_iff.mp queued
      simp [Processor.arm, Processor.accept, counting]

theorem startFlush_timer (now : Nat) : (s.startFlush now).processor.timer = s.processor.timer := by
  simp only [startFlush]
  split
  · rw [deliver_timer _ (by simp)]
    rfl
  · simp

theorem resume_timer (number : Nat) : (s.resume number).processor.timer = s.processor.timer := by
  unfold resume
  split
  · split <;> simp
  · rfl

theorem turn_timer {now : Nat} (absent : .timer ∉ s.callers) :
    (s.turn now).processor.timer = s.processor.timer := by
  unfold turn
  split
  · rename_i caller rest unheld lineEq
    have other : caller ≠ .timer := by
      rintro rfl
      exact absent (by simp [callers, lineEq])
    split
    · rw [deliver_timer _ other]
    · rfl
  · rfl

theorem finish_timer {now : Nat} {outcome : SinkOutcome} {letters : LetterStore}
    (absent : .timer ∉ s.callers) :
    (s.finish now outcome letters).processor.timer = s.processor.timer := by
  cases held : s.holder with
  | none => simp [finish, held]
  | some caller =>
      have other : caller ≠ .timer := by
        rintro rfl
        exact absent (by simp [callers, held])
      rw [finish_of_held held, deliver_timer _ other]
      rfl

/-- Only the firing of a timer that counts and a stop touch it. -/
theorem step_counting {due : Nat} (orderly : s.Orderly)
    (counting : s.processor.timer = .counting due)
    {step : Step} (notFire : step ≠ .fire) (notStop : ∀ now, step ≠ .start now .stop) :
    (s.step step).processor.timer = .counting due := by
  have absent : .timer ∉ s.callers := orderly.timer_notMem_callers (by simp [counting])
  cases step with
  | enqueue now id patch => exact enqueue_timer counting
  | start now kind =>
      cases kind with
      | flush => exact (startFlush_timer now).trans counting
      | stop => exact absurd rfl (notStop now)
  | resume number => exact (resume_timer number).trans counting
  | fire => exact absurd rfl notFire
  | turn now => exact (turn_timer absent).trans counting
  | finish now outcome letters => exact (finish_timer absent).trans counting

/-! ## Runs -/

/-- In every run whose dead letters are stored: as long as the processor is not stopped, work in the
queue or in flight means that there is a timer, and the state is "armed"; there is never more than
one timer; no step but its own firing and a stop changes when a timer fires; and a timer leaves a
processor that is not stopped only when the queue is empty and nothing is in flight. -/
theorem run_keeps_timer (name : String) (config : Config) (steps : List Step)
    (stores : ∀ step ∈ steps, step.StoresLetters) :
    let s := (idle name config).run steps
    (s.processor.stopped = false → s.processor.queue ≠ [] ∨ s.processor.flight ≠ [] →
      s.processor.stateWord = "armed" ∧ s.timers = 1) ∧
    s.timers ≤ 1 ∧
    ∀ step, step.StoresLetters →
      (∀ due, s.processor.timer = .counting due → step ≠ .fire → (∀ now, step ≠ .start now .stop) →
        (s.step step).processor.timer = .counting due) ∧
      (s.timers = 1 → (s.step step).timers = 0 → (s.step step).processor.stopped = false →
        (s.step step).processor.stateWord = "idle" ∧
          (s.step step).processor.queue = [] ∧ (s.step step).processor.flight = []) := by
  intro s
  have orderly : s.Orderly := run_orderly name config stores
  have guarded : s.Guarded := run_guarded name config steps
  have placed : s.TimerPlaced := run_timerPlaced name config steps
  have counted := timers_eq orderly placed
  refine ⟨?_, ?_, ?_⟩
  · intro accepting work
    have runs : s.processor.timer ≠ .off := by
      intro off
      obtain ⟨empty, landed⟩ := orderly.idle_of_off guarded accepting off
      rcases work with waiting | flying
      · exact waiting empty
      · exact flying landed
    rw [Processor.stateWord_of_accepting accepting, counted, if_neg runs, if_neg runs]
    exact ⟨rfl, rfl⟩
  · rw [counted]
    split <;> decide
  · intro step storesStep
    have nextOrderly := step_orderly storesStep orderly
    constructor
    · intro due counting notFire notStop
      exact step_counting orderly counting notFire notStop
    · intro _ gone accepting
      rw [timers_eq nextOrderly (step_timerPlaced step placed)] at gone
      have off : (s.step step).processor.timer = .off := by
        by_contra runs
        rw [if_neg runs] at gone
        cases gone
      rw [Processor.stateWord_of_accepting accepting, if_pos off]
      exact ⟨rfl, nextOrderly.idle_of_off (step_reaches guarded step).guarded accepting off⟩

/-- A call of `flush` takes the only write, the timer fires meanwhile and waits behind it, and the
write comes back when the store fails. -/
def overtakenTimer : List Step :=
  [.enqueue 0 "a" (.ofFields []), .start 1 .flush, .fire, .finish 2 (.raised "down") .working]

/-- The timer has its own flush for the write that has come back, and goes away
when that is delivered. -/
theorem overtakenTimer_keeps_timer :
    (∀ step ∈ overtakenTimer ++ [.turn 2], step.StoresLetters) ∧
      ∃ s, s = (idle "writes" smallBatches).run (overtakenTimer ++ [.turn 2]) ∧
        s.processor.stopped = false ∧ s.processor.queue = [] ∧ s.processor.flight ≠ [] ∧
        s.processor.stateWord = "armed" ∧ s.timers = 1 ∧
        (s.step (.finish 3 (.returned ⟨1, 0, []⟩) .working)).processor.stateWord = "idle" ∧
        (s.step (.finish 3 (.returned ⟨1, 0, []⟩) .working)).processor.queue = [] := by
  have stores : ∀ step ∈ overtakenTimer ++ [.turn 2], step.StoresLetters := by decide
  have kept := run_keeps_timer "writes" smallBatches (overtakenTimer ++ [.turn 2]) stores
  obtain ⟨armed, one⟩ := kept.1 (by decide) (Or.inr (by decide))
  obtain ⟨idle, empty, _⟩ :=
    (kept.2.2 (.finish 3 (.returned ⟨1, 0, []⟩) .working) rfl).2 one (by decide) (by decide)
  exact ⟨stores, _, rfl, by decide, by decide, by decide, armed, one, idle, empty⟩

end Coalescer

end Outreach.Writes
