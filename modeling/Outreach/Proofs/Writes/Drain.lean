import Mathlib.Data.List.Induction
import Outreach.Proofs.Writes.Attempts
import Outreach.Proofs.Writes.Quiescence
import Outreach.Proofs.Writes.Transparency

/-!
# The drain of a stop

The loop of a call of `stop` flushes until the queue is empty. A queue need not get shorter by a
flush, since all its writes may come back; what gets smaller is the number of attempts that its
writes have left. While nobody else asks for a flush, the loop has the batch in flight or is over:
`Draining` says this, every step keeps it, and each answer of the store ends one flush. So the loop
is over after as many answers as there were attempts left.
-/

namespace Outreach.Writes

namespace Coalescer

variable {s : Coalescer}

/-! ## Where the timer is -/

/-- A flushing timer holds the turn or stands in line for it, and no timer counts after a stop. -/
structure TimerPlaced (s : Coalescer) : Prop where
  flushing : s.processor.timer = .flushing → .timer ∈ s.callers
  counting : ∀ due, s.processor.timer = .counting due → s.processor.stopped = false

theorem idle_timerPlaced (name : String) (config : Config) : (idle name config).TimerPlaced := by
  constructor <;> simp [idle, Processor.idle]

/-- A timer that is away is nowhere else. -/
theorem timerPlaced_of_off (off : s.processor.timer = .off) : s.TimerPlaced := by
  constructor <;> simp [off]

theorem joinLine_timerPlaced (caller : Caller) (placed : s.TimerPlaced) :
    (s.joinLine caller).TimerPlaced where
  flushing := by
    intro flushing
    rw [joinLine_timer] at flushing
    rw [joinLine_callers]
    exact List.mem_append_left _ (placed.flushing flushing)
  counting := by
    intro due
    rw [joinLine_timer, joinLine_stopped]
    exact placed.counting due

theorem drainOn_timerPlaced (number : Nat) (placed : s.TimerPlaced) :
    (s.drainOn number).TimerPlaced := by
  have unchanged (status : CallStatus) :
      (s.updateCall number fun call => { call with status := status }).TimerPlaced :=
    ⟨placed.flushing, placed.counting⟩
  unfold drainOn
  split
  · exact unchanged .finished
  · exact joinLine_timerPlaced _ (unchanged .inLine)

theorem callReturns_timerPlaced (number : Nat) (result : FlushResult) (placed : s.TimerPlaced) :
    (s.callReturns number result).TimerPlaced := by
  cases result with
  | none => exact ⟨placed.flushing, placed.counting⟩
  | some report =>
      have reported : (s.reported number report).TimerPlaced := ⟨placed.flushing, placed.counting⟩
      simp only [callReturns]
      split
      · split
        · exact drainOn_timerPlaced number reported
        · exact ⟨placed.flushing, placed.counting⟩
      · exact reported

/-- A timer whose flush has ended goes away, or counts again if nothing is stopped. -/
theorem timerReturns_timerPlaced (now : Nat) (result : FlushResult) :
    (s.timerReturns now result).TimerPlaced := by
  unfold timerReturns
  split
  · exact timerPlaced_of_off rfl
  · rename_i goesOn
    simp only [not_or, Bool.not_eq_true] at goesOn
    exact ⟨by simp, fun _ _ => goesOn.2.1⟩

/-- A caller that is not the timer leaves the timer where it is. -/
theorem deliver_timerPlaced (now : Nat) {caller : Caller} (result : FlushResult)
    (placed : caller ≠ .timer → s.TimerPlaced) : (s.deliver now caller result).TimerPlaced := by
  cases caller with
  | timer => exact timerReturns_timerPlaced now result
  | call number => exact callReturns_timerPlaced number result (placed (by simp))

theorem enqueue_timerPlaced (now : Nat) (id : String) (patch : Patch) (placed : s.TimerPlaced) :
    (s.step (.enqueue now id patch)).TimerPlaced := by
  cases queued : s.processor.enqueue now id patch with
  | error refusal =>
      rw [step_enqueue_of_error queued]
      exact placed
  | ok p =>
      rw [step_enqueue_of_ok queued]
      obtain ⟨accepting, _, rfl⟩ := Processor.enqueue_eq_ok_iff.mp queued
      unfold Processor.arm
      split
      · exact ⟨by simp, fun _ _ => accepting⟩
      · exact ⟨placed.flushing, placed.counting⟩

theorem startFlush_timerPlaced (now : Nat) (placed : s.TimerPlaced) :
    (s.startFlush now).TimerPlaced := by
  have added : (s.addCall .flush .inLine).TimerPlaced := ⟨placed.flushing, placed.counting⟩
  simp only [startFlush]
  split
  · exact deliver_timerPlaced _ _ fun _ => added
  · exact joinLine_timerPlaced _ added

theorem startStop_timerPlaced (placed : s.TimerPlaced) : s.startStop.TimerPlaced := by
  simp only [startStop]
  split
  · exact ⟨placed.flushing, placed.counting⟩
  · split
    · rename_i off
      exact drainOn_timerPlaced _ (timerPlaced_of_off off)
    · exact timerPlaced_of_off rfl
    · rename_i flushing
      constructor
      · exact placed.flushing
      · intro due counting
        rw [flushing] at counting
        cases counting

theorem fire_timerPlaced (placed : s.TimerPlaced) : s.fire.TimerPlaced := by
  unfold fire
  split
  · constructor
    · intro _
      rw [joinLine_callers]
      simp
    · intro due counting
      rw [joinLine_timer] at counting
      cases counting
  · exact placed

theorem turn_timerPlaced (now : Nat) (placed : s.TimerPlaced) : (s.turn now).TimerPlaced := by
  unfold turn
  split
  · rename_i caller rest unheld lineEq
    have callersEq : s.callers = caller :: rest := by simp [callers, unheld, lineEq]
    split
    · refine deliver_timerPlaced _ _ fun other => ⟨fun flushing => ?_, placed.counting⟩
      have waiting := placed.flushing flushing
      rw [callersEq] at waiting
      simpa [callers, unheld] using (List.mem_cons.mp waiting).resolve_left (Ne.symm other)
    · refine ⟨fun flushing => ?_, placed.counting⟩
      have waiting := placed.flushing flushing
      rw [callersEq] at waiting
      simpa [callers] using waiting
  · exact placed

theorem finish_timerPlaced (now : Nat) (outcome : SinkOutcome) (letters : LetterStore)
    (placed : s.TimerPlaced) : (s.finish now outcome letters).TimerPlaced := by
  cases held : s.holder with
  | none => simpa [finish, held] using placed
  | some caller =>
      rw [finish_of_held held]
      refine deliver_timerPlaced _ _ fun other => ⟨fun flushing => ?_, placed.counting⟩
      have waiting : .timer ∈ s.callers := placed.flushing flushing
      simpa [callers, held, Ne.symm other] using waiting

theorem step_timerPlaced (step : Step) (placed : s.TimerPlaced) : (s.step step).TimerPlaced := by
  cases step with
  | enqueue now id patch => exact enqueue_timerPlaced now id patch placed
  | start now kind =>
      cases kind with
      | flush => exact startFlush_timerPlaced now placed
      | stop => exact startStop_timerPlaced placed
  | resume number =>
      simp only [Coalescer.step, resume]
      split
      · split
        · exact drainOn_timerPlaced number placed
        · exact placed
      · exact placed
  | fire => exact fire_timerPlaced placed
  | turn now => exact turn_timerPlaced now placed
  | finish now outcome letters => exact finish_timerPlaced now outcome letters placed

theorem run_timerPlaced (name : String) (config : Config) (steps : List Step) :
    ((idle name config).run steps).TimerPlaced :=
  run_keeps (P := fun _ => True) (fun {_ step} _ => step_timerPlaced step) (fun _ _ => trivial)
    (idle_timerPlaced name config)

end Coalescer

/-! ## The loop -/

/-- The step asks for no flush of its own. -/
def Step.AsksNoFlush : Step → Prop
  | .start _ .flush => False
  | _ => True

instance : DecidablePred Step.EndsFlight
  | .finish .. => isTrue trivial
  | .enqueue .. | .start .. | .resume .. | .fire | .turn .. => isFalse not_false

instance : DecidablePred Step.AsksNoFlush
  | .start _ .flush => isFalse not_false
  | .start _ .stop | .enqueue .. | .resume .. | .fire | .turn .. | .finish .. => isTrue trivial

namespace Coalescer

variable {s : Coalescer}

/-- No flush is in flight, and nobody but a call of `stop` waits for one. -/
structure Unflushed (s : Coalescer) : Prop where
  unheld : s.holder = none
  onlyStops : ∀ caller ∈ s.line, ∃ call ∈ s.calls, call.kind = .stop ∧ caller = .call call.number

/-- The steps that take a call of `stop` into its loop: it is the first one and is made now, or it
was made before and goes on, or it has its turn. A call that is not the first one has no loop. -/
inductive OpensDrain (s : Coalescer) : Nat → List Step → Prop
  | first (now : Nat) (accepting : s.processor.stopped = false) :
      OpensDrain s s.nextNumber [.start now .stop, .resume s.nextNumber]
  | goesOn {call : Call} (callMem : call ∈ s.calls) (ready : call.status = .ready) :
      OpensDrain s call.number [.resume call.number]
  | hasTurn (now : Nat) {call : Call} (callMem : call ∈ s.calls) (isStop : call.kind = .stop)
      (waits : .call call.number ∈ s.line) : OpensDrain s call.number [.turn now]

/-- A call of `stop` is in its loop, with its batch in flight, or the queue is empty and the call is
over; nobody else waits for anything. -/
structure Draining (number : Nat) (s : Coalescer) : Prop where
  stopped : s.processor.stopped = true
  timer : s.processor.timer = .off
  line : s.line = []
  noneReady : ∀ call ∈ s.calls, call.status ≠ .ready
  call : ∃ call ∈ s.calls, call.number = number ∧ call.kind = .stop ∧
    (s.holder = some (.call number) ∧ call.status = .inLine ∨
      s.holder = none ∧ s.processor.queue = [] ∧ call.status = .finished)

/-- The loop of a call starts a flush or is over. -/
theorem drainOn_draining {call : Call} (callMem : call ∈ s.calls) (isStop : call.kind = .stop)
    (stopped : s.processor.stopped = true) (off : s.processor.timer = .off) (free : s.callers = [])
    (onlyReady : ∀ other ∈ s.calls, other.status = .ready → other.number = call.number) :
    (s.drainOn call.number).Draining call.number := by
  obtain ⟨unheld, line⟩ : s.holder = none ∧ s.line = [] := by simpa [callers] using free
  have noneReady (status : CallStatus) (goesOn : status ≠ .ready) : ∀ other ∈
      (s.updateCall call.number fun call => { call with status := status }).calls,
      other.status ≠ .ready := by
    simp only [updateCall, List.forall_mem_map]
    intro other otherMem ready
    split at ready
    · exact goesOn ready
    · rename_i otherNumber
      exact otherNumber (onlyReady other otherMem ready)
  have changed (status : CallStatus) : { call with status := status } ∈
      (s.updateCall call.number fun call => { call with status := status }).calls :=
    List.mem_map.mpr ⟨call, callMem, by simp⟩
  unfold drainOn
  split
  · rename_i empty
    exact ⟨stopped, off, line, noneReady .finished (by simp), _, changed .finished, rfl, isStop,
      Or.inr ⟨unheld, by simpa using empty, rfl⟩⟩
  · rename_i waiting
    have joins : (s.updateCall call.number fun call => { call with status := .inLine }).holder =
        none ∧ (s.updateCall call.number fun call => { call with status := .inLine }).line = [] ∧
        !s.processor.queue.isEmpty := ⟨unheld, line, by simpa using waiting⟩
    rw [joinLine, updateCall_processor, if_pos joins]
    exact ⟨stopped, off, line, noneReady .inLine (by simp), _, changed .inLine, rfl, isStop,
      Or.inl ⟨rfl, rfl⟩⟩

/-- A call that has the report of its flush goes on with its loop. -/
theorem callReturns_draining {call : Call} (orderly : s.Orderly) (callMem : call ∈ s.calls)
    (isStop : call.kind = .stop) (stopped : s.processor.stopped = true)
    (off : s.processor.timer = .off) (free : s.callers = [])
    (noneReady : ∀ other ∈ s.calls, other.status ≠ .ready) (report : Report) :
    (s.callReturns call.number (some report)).Draining call.number := by
  rw [callReturns_some orderly callMem, if_pos isStop]
  have noneReadyNow : ∀ other ∈ (s.reported call.number report).calls, other.status ≠ .ready := by
    simp only [reported, updateCall, List.forall_mem_map]
    intro other otherMem
    split <;> exact noneReady other otherMem
  have drained := drainOn_draining (mem_calls_reported report callMem) isStop stopped off free
    fun other otherMem ready => absurd ready (noneReadyNow other otherMem)
  exact drained

/-- A call that may go on gets into its loop. -/
theorem resume_draining {call : Call} (orderly : s.Orderly) (callMem : call ∈ s.calls)
    (ready : call.status = .ready) (free : s.callers = []) :
    (s.resume call.number).Draining call.number := by
  obtain ⟨isStop, off⟩ := orderly.ready call callMem ready
  have stopped : s.processor.stopped = true := orderly.stopped_iff.mpr ⟨call, callMem, isStop⟩
  simp only [resume, orderly.call?_eq_some callMem, if_pos ready]
  apply drainOn_draining callMem isStop stopped off free
  intro other otherMem otherReady
  have otherStop := (orderly.ready other otherMem otherReady).1
  rw [orderly.openStop_unique otherMem callMem otherStop isStop (by simp [otherReady])
    (by simp [ready])]

/-- A call that is alone in line gets into its loop at its turn. -/
theorem turn_draining {now : Nat} {call : Call} (orderly : s.Orderly) (callMem : call ∈ s.calls)
    (isStop : call.kind = .stop) (inLine : call.status = .inLine) (off : s.processor.timer = .off)
    (unheld : s.holder = none) (alone : s.line = [.call call.number]) :
    (s.turn now).Draining call.number := by
  have stopped : s.processor.stopped = true := orderly.stopped_iff.mpr ⟨call, callMem, isStop⟩
  have noneReady : ∀ other ∈ s.calls, other.status ≠ .ready := by
    intro other otherMem ready
    have otherStop := (orderly.ready other otherMem ready).1
    have same := orderly.openStop_unique otherMem callMem otherStop isStop (by simp [ready])
      (by simp [inLine])
    rw [same, inLine] at ready
    cases ready
  rw [turn_of_line unheld alone]
  split
  · have left : ({ s with line := [] } : Coalescer).Orderly :=
      orderly.of_sublist rfl rfl rfl (by simp [callers, unheld]) orderly.armed
    exact callReturns_draining left callMem isStop stopped off (by simp [callers, unheld])
      noneReady .empty
  · exact ⟨stopped, off, rfl, noneReady, call, callMem, rfl, isStop, Or.inl ⟨rfl, inLine⟩⟩

/-- No call may go on while another is in its loop. -/
theorem Draining.resume_eq {number : Nat} (draining : s.Draining number) (other : Nat) :
    s.resume other = s := by
  simp only [resume]
  split
  · rename_i call found
    rw [if_neg (draining.noneReady call (List.mem_of_find?_eq_some found))]
  · rfl

/-- In the loop nothing but an answer of the store changes anything. -/
theorem Draining.step_undisturbed {number : Nat} (draining : s.Draining number) {step : Step}
    (asks : step.AsksNoFlush) (goesOn : ¬ step.EndsFlight) :
    s.step step = s ∨ s.step step = s.addCall .stop .finished := by
  cases step with
  | enqueue now id patch =>
      have refused : s.processor.enqueue now id patch = .error (.stopped s.processor.name) := by
        simp [Processor.enqueue, draining.stopped]
      exact Or.inl (step_enqueue_of_error refused)
  | start now kind =>
      cases kind with
      | flush => exact absurd asks not_false
      | stop => simp [Coalescer.step, start, startStop, draining.stopped]
  | resume other => exact Or.inl (draining.resume_eq other)
  | fire =>
      left
      simp only [Coalescer.step, fire, draining.timer]
  | turn now =>
      left
      cases held : s.holder <;> simp [Coalescer.step, turn, draining.line, held]
  | finish now outcome letters => exact absurd trivial goesOn

theorem Draining.addCall {number : Nat} (draining : s.Draining number) :
    (s.addCall .stop .finished).Draining number := by
  obtain ⟨call, callMem, found⟩ := draining.call
  refine ⟨draining.stopped, draining.timer, draining.line, ?_,
    call, List.mem_append_left _ callMem, found⟩
  intro other otherMem
  rcases List.mem_append.mp otherMem with before | last
  · exact draining.noneReady other before
  · rw [List.mem_singleton.mp last]
    simp

/-- An answer of the store ends the flush of the loop. -/
theorem Draining.finish {number : Nat} (draining : s.Draining number) (orderly : s.Orderly)
    (now : Nat) (outcome : SinkOutcome) : (s.finish now outcome .working).Draining number := by
  obtain ⟨call, callMem, rfl, isStop, ⟨held, inLine⟩ | ⟨unheld, _, _⟩⟩ := draining.call
  · have settled := settle_orderly orderly held .working outcome
    rw [finish_of_held held]
    exact callReturns_draining settled callMem isStop draining.stopped draining.timer
      (by simp [callers, draining.line]) draining.noneReady (s.processor.report outcome)
  · simpa [Coalescer.finish, unheld] using draining

/-- Every step keeps the loop. While it is not over, each answer of the store has
ended one flight. -/
theorem Draining.step {number : Nat} (draining : s.Draining number) (orderly : s.Orderly)
    (guarded : s.Guarded) {step : Step} (stores : step.StoresLetters) (asks : step.AsksNoFlush) :
    (s.step step).Draining number ∧ ((s.step step).holder ≠ none → s.holder ≠ none ∧
      (s.step step).processor.landed.length =
        s.processor.landed.length + if step.EndsFlight then 1 else 0) := by
  by_cases ends : step.EndsFlight
  · cases step with
    | finish now outcome letters =>
        have works : letters = .working := stores
        subst works
        refine ⟨draining.finish orderly now outcome, fun heldAfter => ?_⟩
        have held : s.holder ≠ none := by
          intro unheld
          apply heldAfter
          simp [Coalescer.step, Coalescer.finish, unheld]
        have landedEq := (step_reaches guarded (.finish now outcome .working)).view_eq
          Processor.landed (fun _ _ _ => rfl) fun _ => rfl
        refine ⟨held, ?_⟩
        rw [landedEq, if_pos ends]
        simp [worked, held]
    | enqueue | start | resume | fire | turn => exact absurd ends not_false
  · rw [if_neg ends, Nat.add_zero]
    rcases draining.step_undisturbed asks ends with same | added
    · rw [same]
      exact ⟨draining, fun held => ⟨held, rfl⟩⟩
    · rw [added]
      exact ⟨draining.addCall, fun held => ⟨held, rfl⟩⟩

/-- How many answers of the store are among some steps. -/
def answersIn (steps : List Step) : Nat := steps.countP (·.EndsFlight)

theorem Draining.run {number : Nat} (draining : s.Draining number) (orderly : s.Orderly)
    (guarded : s.Guarded) {more : List Step}
    (plain : ∀ step ∈ more, step.StoresLetters ∧ step.AsksNoFlush) :
    (s.run more).Draining number ∧ ((s.run more).holder ≠ none →
      (s.run more).processor.landed.length = s.processor.landed.length + answersIn more) := by
  -- The last step is taken off, because a loop that is not over was not over before it.
  induction more using List.reverseRecOn with
  | nil => exact ⟨draining, fun _ => rfl⟩
  | append_singleton before step ih =>
      have plainBefore : ∀ next ∈ before, next.StoresLetters ∧ next.AsksNoFlush :=
        fun next nextMem => plain next (List.mem_append_left _ nextMem)
      obtain ⟨stores, asks⟩ := plain step (by simp)
      have both : (s.run before).Orderly ∧ (s.run before).Guarded :=
        run_keeps (P := Step.StoresLetters) (I := fun t => t.Orderly ∧ t.Guarded)
          (fun {_ next} storesNext holds => ⟨step_orderly storesNext holds.1,
            (step_reaches holds.2 next).guarded⟩)
          (fun next nextMem => (plainBefore next nextMem).1) ⟨orderly, guarded⟩
      obtain ⟨drainingBefore, landedBefore⟩ := ih plainBefore
      obtain ⟨next, landedNext⟩ := drainingBefore.step both.1 both.2 stores asks
      rw [run_concat]
      refine ⟨next, fun held => ?_⟩
      obtain ⟨heldBefore, landedEq⟩ := landedNext held
      rw [landedEq, landedBefore heldBefore, answersIn, answersIn, List.countP_append,
        List.countP_singleton, Nat.add_assoc]
      simp only [decide_eq_true_eq]

/-! ## The beginning of the loop -/

/-- When no caller of `flush` waits and no timer counts after a stop, the timer is away. -/
theorem Unflushed.timer_off (unflushed : s.Unflushed) (placed : s.TimerPlaced)
    (stopped : s.processor.stopped = true) : s.processor.timer = .off := by
  cases timerEq : s.processor.timer with
  | off => rfl
  | counting due =>
      have accepting := placed.counting due timerEq
      rw [stopped] at accepting
      cases accepting
  | flushing =>
      have waits : .timer ∈ s.line := by
        simpa [callers, unflushed.unheld] using placed.flushing timerEq
      obtain ⟨call, _, _, isCall⟩ := unflushed.onlyStops .timer waits
      cases isCall

/-- A call of `stop` that waits for nothing stands in nobody's way. -/
theorem Unflushed.callers_eq_nil (unflushed : s.Unflushed) (orderly : s.Orderly)
    (noStop : ∀ call ∈ s.calls, call.kind = .stop → call.status ≠ .inLine) : s.callers = [] := by
  rw [callers, unflushed.unheld, Option.toList_none, List.nil_append,
    List.eq_nil_iff_forall_not_mem]
  intro caller callerMem
  obtain ⟨call, callMem, isStop, rfl⟩ := unflushed.onlyStops caller callerMem
  exact orderly.notMem_callers callMem (noStop call callMem isStop)
    (by simpa [callers, unflushed.unheld] using callerMem)

/-- The first call of `stop` gets into its loop: at once when there is no timer, and otherwise when
it has sent the timer away. -/
theorem first_draining (orderly : s.Orderly) (placed : s.TimerPlaced) (unflushed : s.Unflushed)
    (accepting : s.processor.stopped = false) :
    (s.startStop.resume s.nextNumber).Draining s.nextNumber := by
  have before : ∀ call ∈ s.calls, call.kind ≠ .stop ∧ call.status ≠ .awaitingTimer ∧
      call.status ≠ .ready := fun call => orderly.status_of_not_stopped accepting
  have free : s.callers = [] :=
    unflushed.callers_eq_nil orderly fun call callMem isStop =>
    absurd isStop (before call callMem).1
  have started : s.startStop.Orderly := startStop_orderly orderly
  cases timerEq : s.processor.timer with
  | off =>
      let stopping : Coalescer :=
        ({ s with processor := { s.processor with stopped := true } }).addCall .stop .inLine
      have startEq : s.startStop = stopping.drainOn s.nextNumber := by
        simp [startStop, accepting, timerEq, stopping]
      have onlyReady : ∀ other ∈ stopping.calls, other.status = .ready →
          other.number = s.nextNumber := by
        intro other otherMem ready
        rcases List.mem_append.mp otherMem with earlier | last
        · exact absurd ready (before other earlier).2.2
        · rw [List.mem_singleton.mp last]
          rfl
      have loops : (stopping.drainOn s.nextNumber).Draining s.nextNumber := by
        have drained := drainOn_draining (s := stopping)
          (List.mem_append_right s.calls (List.mem_singleton_self _)) rfl rfl timerEq free onlyReady
        exact drained
      rw [startEq, loops.resume_eq]
      exact loops
  | counting due =>
      have startEq : s.startStop = ({ s with processor :=
          { s.processor with stopped := true, timer := .off } }).addCall .stop .ready := by
        simp [startStop, accepting, timerEq]
      rw [startEq] at started ⊢
      have loops := resume_draining started
        (List.mem_append_right s.calls (List.mem_singleton_self _)) rfl free
      exact loops
  | flushing =>
      have waits := placed.flushing timerEq
      rw [free] at waits
      cases waits

/-- The steps that open the loop lead into it. -/
theorem OpensDrain.draining {number : Nat} {opening : List Step}
    (opens : s.OpensDrain number opening)
    (orderly : s.Orderly) (placed : s.TimerPlaced) (unflushed : s.Unflushed) :
    (s.run opening).Draining number := by
  cases opens with
  | first now accepting => exact first_draining orderly placed unflushed accepting
  | @goesOn call callMem ready =>
      obtain ⟨isStop, _⟩ := orderly.ready call callMem ready
      apply resume_draining orderly callMem ready
      apply unflushed.callers_eq_nil orderly
      intro other otherMem otherStop inLine
      have same := orderly.openStop_unique otherMem callMem otherStop isStop (by simp [inLine])
        (by simp [ready])
      rw [same, ready] at inLine
      cases inLine
  | @hasTurn now call callMem isStop waits =>
      have callersEq : s.callers = s.line := by simp [callers, unflushed.unheld]
      have stopped := orderly.stopped_iff.mpr ⟨call, callMem, isStop⟩
      obtain ⟨same, sameMem, sameNumber, inLine⟩ := orderly.waits _ (callersEq ▸ waits)
      rw [orderly.eq_of_number_eq sameMem callMem sameNumber] at inLine
      -- Every place in the line is that of the one open call of `stop`, and nobody has two.
      have alone : s.line = [.call call.number] := by
        have nodup := orderly.nodup
        rw [callersEq] at nodup
        apply List.perm_singleton.mp
        apply (List.perm_ext_iff_of_nodup nodup (List.nodup_singleton _)).mpr
        intro caller
        rw [List.mem_singleton]
        constructor
        · intro callerMem
          obtain ⟨other, otherMem, otherStop, rfl⟩ := unflushed.onlyStops caller callerMem
          have otherOpen : other.status ≠ .finished := by
            intro finished
            exact orderly.notMem_callers otherMem (by simp [finished]) (callersEq ▸ callerMem)
          rw [orderly.openStop_unique otherMem callMem otherStop isStop otherOpen
            (by simp [inLine])]
        · rintro rfl
          exact waits
      exact turn_draining orderly callMem isStop inLine (unflushed.timer_off placed stopped)
        unflushed.unheld alone

/-- Opening the loop accepts no write and ends no flight. -/
theorem OpensDrain.record_eq {number : Nat} {opening : List Step}
    (opens : s.OpensDrain number opening)
    (guarded : s.Guarded) : (s.run opening).processor.accepted = s.processor.accepted ∧
      (s.run opening).processor.landed = s.processor.landed := by
  have plain : ∀ step ∈ opening, ∀ t : Coalescer, t.worked step = t.processor := by
    cases opens <;> simp [worked]
  have kept := run_keeps (P := fun step => ∀ t : Coalescer, t.worked step = t.processor)
    (I := fun t => t.Guarded ∧ t.processor.accepted = s.processor.accepted ∧
      t.processor.landed = s.processor.landed)
    (fun {t step} worksNot before => by
      have reaches := step_reaches before.1 step
      rw [worksNot t] at reaches
      refine ⟨reaches.guarded, ?_, ?_⟩
      · rw [reaches.view_eq Processor.accepted (fun _ _ _ => rfl) fun _ => rfl, before.2.1]
      · rw [reaches.view_eq Processor.landed (fun _ _ _ => rfl) fun _ => rfl, before.2.2])
    plain ⟨guarded, rfl, rfl⟩
  exact kept.2

/-! ## The whole loop -/

/-- A stopped processor queues nothing. -/
theorem queuedIn_of_stopped (stopped : s.processor.stopped = true) (steps : List Step) :
    s.queuedIn steps = [] := by
  induction steps generalizing s with
  | nil => rfl
  | cons step rest ih =>
      have none : s.queuedBy step = [] := by
        cases step <;> simp [queuedBy, enqueue, Processor.enqueue, stopped, bind, Except.bind]
      rw [queuedIn, none, ih (step_stopped stopped step), List.nil_append]

/-- The call of a number has returned. -/
def Returned (number : Nat) (s : Coalescer) : Prop :=
  ∃ call ∈ s.calls, call.number = number ∧ call.status = .finished

/-- What holds at `t` of the loop of a call that was about to begin at `s`, when the store has
answered so often since then. -/
structure DrainsTo (number answers : Nat) (s t : Coalescer) : Prop where
  bounded : t.processor.batches.length ≤ s.processor.batches.length + s.processor.attemptsLeft
  goesOn : t.holder = some (.call number) ∨ t.Returned number
  ends : s.processor.attemptsLeft ≤ answers → t.Returned number
  done : t.Returned number → t.processor.queue = [] ∧ t.processor.flight = [] ∧
    ∀ w ∈ s.processor.queue, w.ticket ∈ t.processor.deliveries.map Write.ticket ∨
      w.ticket ∈ t.processor.deadTickets

theorem Draining.returned_iff {number : Nat} (draining : s.Draining number) (orderly : s.Orderly) :
    s.Returned number ↔ s.holder = none ∧ s.processor.queue = [] := by
  obtain ⟨call, callMem, rfl, _, ⟨held, inLine⟩ | ⟨unheld, empty, finished⟩⟩ := draining.call
  · apply iff_of_false
    · rintro ⟨other, otherMem, sameNumber, finished⟩
      rw [orderly.eq_of_number_eq otherMem callMem sameNumber, inLine] at finished
      cases finished
    · simp [held]
  · exact iff_of_true ⟨call, callMem, rfl, finished⟩ ⟨unheld, empty⟩

/-- A loop that is not over has its batch in flight. -/
theorem Draining.held_or_returned {number : Nat} (draining : s.Draining number) :
    s.holder = some (.call number) ∨ s.Returned number := by
  obtain ⟨call, callMem, sameNumber, _, ⟨held, _⟩ | ⟨_, _, finished⟩⟩ := draining.call
  · exact Or.inl held
  · exact Or.inr ⟨call, callMem, sameNumber, finished⟩

theorem length_batches_of_landed (accounted : s.processor.Accounted)
    (landed : s.processor.flight = []) :
    s.processor.batches.length = s.processor.landed.length := by
  rw [accounted.batches, Processor.openBatches, if_pos landed, List.append_nil]

theorem length_batches_of_flying (accounted : s.processor.Accounted)
    (flying : s.processor.flight ≠ []) :
    s.processor.batches.length = s.processor.landed.length + 1 := by
  rw [accounted.batches, Processor.openBatches, if_neg flying, List.length_append,
    List.length_singleton]

/-- What the loop of a call of `stop` does, wherever it begins. -/
theorem run_drainsTo (name : String) (config : Config) {steps opening more : List Step}
    {number : Nat} (stores : ∀ step ∈ steps, step.StoresLetters)
    (unflushed : ((idle name config).run steps).Unflushed)
    (opens : ((idle name config).run steps).OpensDrain number opening)
    (plain : ∀ step ∈ more, step.StoresLetters ∧ step.AsksNoFlush) :
    DrainsTo number (answersIn more) ((idle name config).run steps)
      ((idle name config).run (steps ++ opening ++ more)) := by
  have openingStores : ∀ step ∈ opening, step.StoresLetters := by
    cases opens <;> simp [Step.StoresLetters]
  have openedStores : ∀ step ∈ steps ++ opening, step.StoresLetters :=
    List.forall_mem_append.mpr ⟨stores, openingStores⟩
  have allStores : ∀ step ∈ steps ++ opening ++ more, step.StoresLetters :=
    List.forall_mem_append.mpr ⟨openedStores, fun step stepMem => (plain step stepMem).1⟩
  have orderly := run_orderly name config stores
  have guarded := run_guarded name config steps
  have kept := run_wellKept name config steps
  have openedOrderly := run_orderly name config openedStores
  have openedGuarded := run_guarded name config (steps ++ opening)
  have lastOrderly := run_orderly name config allStores
  have lastGuarded := run_guarded name config (steps ++ opening ++ more)
  have lastAccounted := run_accounted name config (steps ++ opening ++ more)
  have lastLost := run_lost (idle_guarded name config) allStores
  have loops := opens.draining orderly (run_timerPlaced name config steps) unflushed
  obtain ⟨acceptedEq, landedEq⟩ := opens.record_eq guarded
  simp only [run_append] at *
  generalize (idle name config).run steps = s at *
  obtain ⟨draining, answered⟩ := loops.run openedOrderly openedGuarded plain
  have accepted : ((s.run opening).run more).processor.accepted.length =
      s.processor.accepted.length := by
    have queued := run_accepted openedGuarded more
    rw [queuedIn_of_stopped loops.stopped, List.append_nil] at queued
    simpa [acceptedEq] using congrArg List.length queued
  have landed : s.processor.flight = [] := guarded.mp unflushed.unheld
  have bounded := length_batches_run_le guarded kept landed (opening ++ more)
    (by rw [run_append, accepted])
  rw [run_append] at bounded
  refine ⟨bounded, draining.held_or_returned, fun answersLeft => ?_, fun returned => ?_⟩
  · -- With its batch in flight, the loop would have taken one batch more than there were attempts.
    rcases draining.held_or_returned with held | returned
    · have heldLast : ((s.run opening).run more).holder ≠ none := by simp [held]
      have flying := mt lastGuarded.mpr heldLast
      have batchesBefore := length_batches_of_landed kept.accounted landed
      have batchesLast := length_batches_of_flying lastAccounted flying
      have landedLast := answered heldLast
      rw [landedEq] at landedLast
      omega
    · exact returned
  · obtain ⟨unheld, empty⟩ := (draining.returned_iff lastOrderly).mp returned
    have landedLast := lastGuarded.mp unheld
    refine ⟨empty, landedLast, fun w wMem => ?_⟩
    apply lastAccounted.ticket_done lastLost empty landedLast
    rw [accepted]
    exact kept.accounted.ticket_lt (List.mem_map_of_mem (List.mem_append_right _ wMem))

/-- The drain of `stop` uses up attempts, exactly. In every reachable state a waiting write has an
attempt left and no write has been in more batches than it may be in; a step whose dead letters are
stored gives a write up exactly when the batch of its last attempt fails for it. When dead letters
are stored, no flush is in flight and only a call of `stop` asks for one, then the loop of this
call, whatever the store answers, takes at most as many batches as the waiting writes have attempts
left. Until it is over it has its batch in flight, so it is over after as many answers, and each of
those writes has been delivered or given up. -/
theorem drain_uses_up_attempts (name : String) (config : Config) (steps : List Step) :
    let s := (idle name config).run steps
    (∀ w ∈ s.processor.queue, w.attempts < config.maxAttempts) ∧
    (∀ ticket, s.processor.attemptsOf ticket ≤ config.maxAttempts) ∧
    (∀ step : Step, step.StoresLetters → ∀ ticket,
      (ticket ∈ (s.step step).processor.deadTickets ↔ ticket ∈ s.processor.deadTickets ∨
        ∃ now outcome letters, step = .finish now outcome letters ∧ ∃ w ∈ s.processor.flight,
          w.ticket = ticket ∧ outcome.fails w = true ∧
            s.processor.attemptsOf ticket = config.maxAttempts)) ∧
    ((∀ step ∈ steps, step.StoresLetters) → s.Unflushed →
      ∀ number opening, s.OpensDrain number opening →
        ∀ more : List Step, (∀ step ∈ more, step.StoresLetters ∧ step.AsksNoFlush) →
          DrainsTo number (answersIn more) s (s.run (opening ++ more))) := by
  intro s
  have configEq : s.processor.config = config := run_config name config steps
  have counted : s.processor.Counted := (run_wellKept name config steps).counted
  refine ⟨?_, ?_, ?_, ?_⟩
  · rw [← configEq]
    exact counted.waiting
  · rw [← configEq]
    exact counted.bounded
  · intro step stores ticket
    rw [← configEq]
    exact step_mem_deadTickets (run_guarded name config steps) counted stores ticket
  · intro stores unflushed number opening opens more plain
    rw [← run_append, ← List.append_assoc]
    exact run_drainsTo name config stores unflushed opens plain

/-- Three writes wait. -/
def threeWaiting : List Step :=
  [.enqueue 0 "a" (.ofFields []), .enqueue 0 "b" (.ofFields []), .enqueue 0 "c" (.ofFields [])]

/-- Three writes are drained by twos: the store is down, then it rejects one of two, then it times
out and is down again. -/
def stubbornDrain : List Step :=
  let down : SinkOutcome := .raised "down"
  [.finish 2 down .working, .finish 3 (.returned ⟨1, 0, [⟨some 1, "b", "bad"⟩]⟩) .working,
    .finish 4 (.raised (timeoutMessage "writes" "5")) .working, .finish 5 down .working,
    .finish 6 down .working, .finish 7 down .working]

/-- Four batches are enough here, of the six that the attempts allow: one write is delivered and two
are given up. -/
theorem stubbornDrain_drainsTo :
    DrainsTo 0 6 ((idle "writes" smallBatches).run threeWaiting)
        (((idle "writes" smallBatches).run threeWaiting).run
          ([.start 1 .stop, .resume 0] ++ stubbornDrain)) ∧
      ((idle "writes" smallBatches).run threeWaiting).processor.attemptsLeft = 6 ∧
      (((idle "writes" smallBatches).run threeWaiting).run
        ([.start 1 .stop, .resume 0] ++ stubbornDrain)).processor.batches =
          [[0, 1], [0, 1], [2], [2]] ∧
      (((idle "writes" smallBatches).run threeWaiting).run
        ([.start 1 .stop, .resume 0] ++ stubbornDrain)).processor.deadTickets = [1, 2] := by
  have drains := drain_uses_up_attempts "writes" smallBatches threeWaiting
  have unflushed : ((idle "writes" smallBatches).run threeWaiting).Unflushed :=
    ⟨by decide, by decide⟩
  have opens : ((idle "writes" smallBatches).run threeWaiting).OpensDrain 0
      [.start 1 .stop, .resume 0] := .first 1 (by decide)
  have loops := drains.2.2.2 (by decide) unflushed 0 _ opens stubbornDrain (by decide)
  exact ⟨loops, by decide, by decide, by decide⟩

end Coalescer

end Outreach.Writes
