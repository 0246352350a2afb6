import Mathlib.Data.List.Nodup
import Outreach.Proofs.Writes.Conservation

/-!
# Callers that take turns

Who holds the turn or stands in line waits for it, and nobody does so twice. Only the first call of
`stop` ever goes on; it waits for the timer's flush while the timer is flushing, and once it may go
on the timer is away for good. Until then the timer runs while there is work. `Orderly` says this,
and every step whose dead letters are stored keeps it.
-/

namespace Outreach.Writes

namespace Coalescer

/-- Who holds the turn, and then who waits for it. -/
def callers (s : Coalescer) : List Caller := s.holder.toList ++ s.line

/-- The caller has asked for a flush whose result it does not have yet. -/
def Waits (s : Coalescer) : Caller → Prop
  | .timer => s.processor.timer = .flushing
  | .call number => ∃ call ∈ s.calls, call.number = number ∧ call.status = .inLine

/-- What the callers of a coalescer keep to. -/
structure Orderly (s : Coalescer) : Prop where
  numbered : s.calls.map Call.number = List.range s.calls.length
  nodup : s.callers.Nodup
  waits : ∀ caller ∈ s.callers, s.Waits caller
  stopped_iff : s.processor.stopped = true ↔ ∃ call ∈ s.calls, call.kind = .stop
  /-- A call of `stop` after the first is over at once. -/
  firstOpen : s.calls.Pairwise fun first later =>
    first.kind = .stop → later.kind = .stop → later.status = .finished
  awaiting : ∀ call ∈ s.calls, call.status = .awaitingTimer →
    call.kind = .stop ∧ s.processor.timer = .flushing
  ready : ∀ call ∈ s.calls, call.status = .ready → call.kind = .stop ∧ s.processor.timer = .off
  armed : s.processor.stopped = true ∨ s.processor.timer ≠ .off ∨
    s.processor.queue = [] ∧ s.holder = none

variable {s : Coalescer}

/-- Who waits depends on the timer and the calls alone. -/
theorem waits_congr {t : Coalescer} (calls : t.calls = s.calls)
    (timer : t.processor.timer = s.processor.timer) (caller : Caller) :
    t.Waits caller ↔ s.Waits caller := by
  cases caller <;> simp only [Waits, calls, timer]

theorem idle_orderly (name : String) (config : Config) : (idle name config).Orderly where
  numbered := rfl
  nodup := List.nodup_nil
  waits := by simp [idle, callers]
  stopped_iff := by simp [idle, Processor.idle]
  firstOpen := List.Pairwise.nil
  awaiting := by simp [idle]
  ready := by simp [idle]
  armed := Or.inr (Or.inr ⟨rfl, rfl⟩)

namespace Orderly

/-- A number belongs to one call. -/
theorem eq_of_number_eq (orderly : s.Orderly) {first second : Call} (firstMem : first ∈ s.calls)
    (secondMem : second ∈ s.calls) (sameNumber : first.number = second.number) :
    first = second := by
  have distinct : (s.calls.map Call.number).Nodup := by
    rw [orderly.numbered]
    exact List.nodup_range
  exact List.inj_on_of_nodup_map distinct firstMem secondMem sameNumber

theorem number_lt (orderly : s.Orderly) {call : Call} (callMem : call ∈ s.calls) :
    call.number < s.nextNumber := by
  have numberMem : call.number ∈ s.calls.map Call.number := List.mem_map_of_mem callMem
  rw [orderly.numbered] at numberMem
  exact List.mem_range.mp numberMem

theorem call?_eq_some (orderly : s.Orderly) {call : Call} (callMem : call ∈ s.calls) :
    s.call? call.number = some call := by
  have found : (s.call? call.number).isSome := by
    simp only [call?, List.find?_isSome]
    exact ⟨call, callMem, by simp⟩
  obtain ⟨other, otherEq⟩ := Option.isSome_iff_exists.mp found
  have sameNumber : other.number = call.number := by simpa using List.find?_some otherEq
  rw [otherEq, orderly.eq_of_number_eq (List.mem_of_find?_eq_some otherEq) callMem sameNumber]

/-- A call that is not in line is not among the callers. -/
theorem notMem_callers (orderly : s.Orderly) {call : Call} (callMem : call ∈ s.calls)
    (notInLine : call.status ≠ .inLine) : .call call.number ∉ s.callers := by
  intro callerMem
  obtain ⟨other, otherMem, sameNumber, inLine⟩ := orderly.waits _ callerMem
  rw [orderly.eq_of_number_eq otherMem callMem sameNumber] at inLine
  exact notInLine inLine

theorem next_notMem_callers (orderly : s.Orderly) : .call s.nextNumber ∉ s.callers := by
  intro callerMem
  obtain ⟨call, callMem, sameNumber, _⟩ := orderly.waits _ callerMem
  have less := orderly.number_lt callMem
  omega

theorem timer_notMem_callers (orderly : s.Orderly) (notFlushing : s.processor.timer ≠ .flushing) :
    .timer ∉ s.callers :=
  fun timerMem => notFlushing (orderly.waits .timer timerMem)

theorem not_ready (orderly : s.Orderly) (runs : s.processor.timer ≠ .off) {call : Call}
    (callMem : call ∈ s.calls) : call.status ≠ .ready :=
  fun ready => runs (orderly.ready call callMem ready).2

theorem not_awaiting (orderly : s.Orderly) (notFlushing : s.processor.timer ≠ .flushing)
    {call : Call} (callMem : call ∈ s.calls) : call.status ≠ .awaitingTimer :=
  fun awaiting => notFlushing (orderly.awaiting call callMem awaiting).2

/-- Before any call of `stop` no call waits for the timer, and none may go on. -/
theorem status_of_not_stopped (orderly : s.Orderly) (accepting : s.processor.stopped = false)
    {call : Call} (callMem : call ∈ s.calls) :
    call.kind ≠ .stop ∧ call.status ≠ .awaitingTimer ∧ call.status ≠ .ready := by
  have noStop : call.kind ≠ .stop := by
    intro isStop
    have stopped := orderly.stopped_iff.mpr ⟨call, callMem, isStop⟩
    rw [accepting] at stopped
    cases stopped
  exact ⟨noStop, fun awaiting => noStop (orderly.awaiting call callMem awaiting).1,
    fun ready => noStop (orderly.ready call callMem ready).1⟩

end Orderly

/-! ## Joining the line and changing calls -/

@[simp]
theorem joinLine_calls (caller : Caller) (s : Coalescer) : (s.joinLine caller).calls = s.calls := by
  unfold joinLine
  split <;> rfl

/-- Whoever joins the line stands behind all the others. -/
@[simp]
theorem joinLine_callers (caller : Caller) (s : Coalescer) :
    (s.joinLine caller).callers = s.callers ++ [caller] := by
  unfold joinLine
  split
  · rename_i free
    simp [callers, free.1, free.2.1]
  · simp [callers]

@[simp]
theorem joinLine_timer (caller : Caller) (s : Coalescer) :
    (s.joinLine caller).processor.timer = s.processor.timer := by
  unfold joinLine
  split <;> rfl

@[simp]
theorem joinLine_stopped (caller : Caller) (s : Coalescer) :
    (s.joinLine caller).processor.stopped = s.processor.stopped := by
  unfold joinLine
  split <;> rfl

theorem joinLine_orderly {caller : Caller} (orderly : s.Orderly) (waits : s.Waits caller)
    (absent : caller ∉ s.callers) : (s.joinLine caller).Orderly := by
  constructor
  case numbered => simpa using orderly.numbered
  case nodup =>
    rw [joinLine_callers]
    apply orderly.nodup.append (List.nodup_singleton caller)
    intro other otherMem lastMem
    rw [List.mem_singleton.mp lastMem] at otherMem
    exact absent otherMem
  case waits =>
    intro other otherMem
    rw [waits_congr (joinLine_calls caller s) (joinLine_timer caller s)]
    rw [joinLine_callers] at otherMem
    rcases List.mem_append.mp otherMem with before | last
    · exact orderly.waits other before
    · rw [List.mem_singleton.mp last]
      exact waits
  case stopped_iff => simpa using orderly.stopped_iff
  case firstOpen => simpa using orderly.firstOpen
  case awaiting => simpa using orderly.awaiting
  case ready => simpa using orderly.ready
  case armed =>
    rw [joinLine_stopped, joinLine_timer]
    rcases orderly.armed with stopped | running | ⟨empty, unheld⟩
    · exact Or.inl stopped
    · exact Or.inr (Or.inl running)
    · right
      right
      simp [joinLine, empty, unheld]

/-- What may happen to a call without disturbing the others: it stays where it is, or it joins the
line, or it ends once it is no longer among the callers. -/
inductive CallMoves (s : Coalescer) (before after : Call) : Prop
  | stays (same : after.status = before.status)
  | joins (inLine : after.status = .inLine) (goesOn : before.status ≠ .finished)
  | ends (finished : after.status = .finished) (absent : .call before.number ∉ s.callers)

theorem CallMoves.finished {before after : Call} (moves : s.CallMoves before after)
    (finished : before.status = .finished) : after.status = .finished := by
  cases moves with
  | stays same => exact same.trans finished
  | joins _ goesOn => exact absurd finished goesOn
  | ends finished _ => exact finished

theorem CallMoves.waits {before after : Call} (moves : s.CallMoves before after)
    (inLine : before.status = .inLine) (present : .call before.number ∈ s.callers) :
    after.status = .inLine := by
  cases moves with
  | stays same => exact same.trans inLine
  | joins inLine _ => exact inLine
  | ends _ absent => exact absurd present absent

/-- A call that waits for the timer or may go on afterwards did so before. -/
theorem CallMoves.status_eq {before after : Call} (moves : s.CallMoves before after)
    (notInLine : after.status ≠ .inLine) (notFinished : after.status ≠ .finished) :
    before.status = after.status := by
  cases moves with
  | stays same => exact same.symm
  | joins inLine _ => exact absurd inLine notInLine
  | ends finished _ => exact absurd finished notFinished

theorem updateCall_orderly {number : Nat} {change : Call → Call} (orderly : s.Orderly)
    (sameNumber : ∀ call, (change call).number = call.number)
    (sameKind : ∀ call, (change call).kind = call.kind)
    (moves : ∀ call ∈ s.calls, call.number = number → s.CallMoves call (change call)) :
    (s.updateCall number change).Orderly := by
  let update : Call → Call := fun call => if call.number = number then change call else call
  have updateNumber : ∀ call, (update call).number = call.number := by
    intro call
    simp only [update]
    split <;> simp [sameNumber]
  have updateKind : ∀ call, (update call).kind = call.kind := by
    intro call
    simp only [update]
    split <;> simp [sameKind]
  have updateMoves : ∀ call ∈ s.calls, s.CallMoves call (update call) := by
    intro call callMem
    simp only [update]
    split
    · rename_i numberEq
      exact moves call callMem numberEq
    · exact .stays rfl
  have callsEq : (s.updateCall number change).calls = s.calls.map update := rfl
  constructor
  case numbered =>
    rw [callsEq, List.map_map, List.length_map, ← orderly.numbered]
    exact List.map_congr_left fun call _ => updateNumber call
  case nodup => exact orderly.nodup
  case waits =>
    intro caller callerMem
    cases caller with
    | timer => exact orderly.waits .timer callerMem
    | call k =>
        obtain ⟨call, callMem, rfl, inLine⟩ := orderly.waits (.call k) callerMem
        exact ⟨update call, List.mem_map_of_mem callMem, updateNumber call,
          (updateMoves call callMem).waits inLine callerMem⟩
  case stopped_iff =>
    rw [callsEq]
    simpa [updateKind] using orderly.stopped_iff
  case firstOpen =>
    rw [callsEq, List.pairwise_map]
    apply orderly.firstOpen.imp_of_mem
    intro first later _ laterMem ended
    rw [updateKind, updateKind]
    intro firstStop laterStop
    exact (updateMoves later laterMem).finished (ended firstStop laterStop)
  case awaiting =>
    rw [callsEq]
    simp only [List.forall_mem_map, updateKind]
    intro call callMem awaiting
    have before := (updateMoves call callMem).status_eq (by simp [awaiting]) (by simp [awaiting])
    exact orderly.awaiting call callMem (before.trans awaiting)
  case ready =>
    rw [callsEq]
    simp only [List.forall_mem_map, updateKind]
    intro call callMem ready
    have before := (updateMoves call callMem).status_eq (by simp [ready]) (by simp [ready])
    exact orderly.ready call callMem (before.trans ready)
  case armed => exact orderly.armed

/-! ## New calls -/

/-- A call of `flush`, or one of `stop` after the first, disturbs nobody. -/
theorem addCall_orderly {kind : CallKind} {status : CallStatus} (orderly : s.Orderly)
    (settled : status = .inLine ∨ status = .finished)
    (ended : kind = .stop → s.processor.stopped = true ∧ status = .finished) :
    (s.addCall kind status).Orderly := by
  constructor
  case numbered => simp [addCall, nextNumber, orderly.numbered, List.range_succ]
  case nodup => exact orderly.nodup
  case waits =>
    intro caller callerMem
    cases caller with
    | timer => exact orderly.waits .timer callerMem
    | call k =>
        obtain ⟨call, callMem, found⟩ := orderly.waits (.call k) callerMem
        exact ⟨call, List.mem_append_left _ callMem, found⟩
  case stopped_iff =>
    simp only [orderly.stopped_iff, addCall, List.mem_append, List.mem_singleton, or_and_right,
      exists_or, exists_eq_left, iff_self_or]
    exact fun isStop => orderly.stopped_iff.mp (ended isStop).1
  case firstOpen =>
    simp only [addCall, List.pairwise_append, List.mem_singleton, forall_eq]
    exact ⟨orderly.firstOpen, by simp, fun _ _ _ isStop => (ended isStop).2⟩
  case awaiting =>
    intro call callMem awaiting
    rcases List.mem_append.mp callMem with before | last
    · exact orderly.awaiting call before awaiting
    · rw [List.mem_singleton.mp last] at awaiting
      rcases settled with rfl | rfl <;> cases awaiting
  case ready =>
    intro call callMem ready
    rcases List.mem_append.mp callMem with before | last
    · exact orderly.ready call before ready
    · rw [List.mem_singleton.mp last] at ready
      rcases settled with rfl | rfl <;> cases ready
  case armed => exact orderly.armed

/-- The first call of `stop` may send the timer away unless its flush is asked for. -/
theorem addStop_orderly {timer : Timer} {status : CallStatus} (orderly : s.Orderly)
    (accepting : s.processor.stopped = false)
    (flushing : s.processor.timer = .flushing → timer = .flushing)
    (awaiting : status = .awaitingTimer → timer = .flushing)
    (ready : status = .ready → timer = .off) :
    ({ s with processor := { s.processor with timer := timer, stopped := true } }.addCall
      .stop status).Orderly := by
  constructor
  case numbered => simp [addCall, nextNumber, orderly.numbered, List.range_succ]
  case nodup => exact orderly.nodup
  case waits =>
    intro caller callerMem
    cases caller with
    | timer => exact flushing (orderly.waits .timer callerMem)
    | call k =>
        obtain ⟨call, callMem, found⟩ := orderly.waits (.call k) callerMem
        exact ⟨call, List.mem_append_left _ callMem, found⟩
  case stopped_iff => simp [addCall]
  case firstOpen =>
    simp only [addCall, List.pairwise_append, List.mem_singleton, forall_eq]
    have noStop : ∀ call ∈ s.calls, call.kind ≠ .stop :=
      fun call callMem => (orderly.status_of_not_stopped accepting callMem).1
    exact ⟨orderly.firstOpen, by simp,
      fun call callMem isStop => absurd isStop (noStop call callMem)⟩
  case awaiting =>
    intro call callMem isAwaiting
    rcases List.mem_append.mp callMem with before | last
    · exact absurd isAwaiting (orderly.status_of_not_stopped accepting before).2.1
    · rw [List.mem_singleton.mp last] at isAwaiting ⊢
      exact ⟨rfl, awaiting isAwaiting⟩
  case ready =>
    intro call callMem isReady
    rcases List.mem_append.mp callMem with before | last
    · exact absurd isReady (orderly.status_of_not_stopped accepting before).2.2
    · rw [List.mem_singleton.mp last] at isReady ⊢
      exact ⟨rfl, ready isReady⟩
  case armed => exact Or.inl rfl

/-! ## Results -/

/-- A call that drains the queue joins the line again or is over. -/
theorem drainOn_orderly {call : Call} (orderly : s.Orderly) (callMem : call ∈ s.calls)
    (goesOn : call.status ≠ .finished) (absent : .call call.number ∉ s.callers) :
    (s.drainOn call.number).Orderly := by
  have only : ∀ other ∈ s.calls, other.number = call.number → other = call :=
    fun other otherMem sameNumber => orderly.eq_of_number_eq otherMem callMem sameNumber
  unfold drainOn
  split
  · refine updateCall_orderly orderly (fun _ => rfl) (fun _ => rfl) ?_
    intro other otherMem sameNumber
    rw [only other otherMem sameNumber]
    exact .ends rfl absent
  · refine joinLine_orderly (updateCall_orderly orderly (fun _ => rfl) (fun _ => rfl) ?_) ?_ absent
    · intro other otherMem sameNumber
      rw [only other otherMem sameNumber]
      exact .joins rfl goesOn
    · exact ⟨{ call with status := .inLine }, List.mem_map.mpr ⟨call, callMem, by simp⟩, rfl, rfl⟩

/-- The call with one more report. -/
def reported (number : Nat) (report : Report) (s : Coalescer) : Coalescer :=
  s.updateCall number fun call => { call with reports := call.reports ++ [report] }

theorem reported_orderly (number : Nat) (report : Report) (orderly : s.Orderly) :
    (s.reported number report).Orderly :=
  updateCall_orderly orderly (fun _ => rfl) (fun _ => rfl) fun _ _ _ => .stays rfl

theorem mem_calls_reported {call : Call} (report : Report) (callMem : call ∈ s.calls) :
    { call with reports := call.reports ++ [report] } ∈ (s.reported call.number report).calls :=
  List.mem_map.mpr ⟨call, callMem, by simp⟩

/-- A report ends a call of `flush`, and lets a call of `stop` drain on. -/
theorem callReturns_some {call : Call} (orderly : s.Orderly) (callMem : call ∈ s.calls)
    (report : Report) : s.callReturns call.number (some report) =
      if call.kind = .stop then (s.reported call.number report).drainOn call.number
      else (s.reported call.number report).updateCall call.number fun call =>
        { call with status := .finished } := by
  have found := (reported_orderly call.number report orderly).call?_eq_some
    (mem_calls_reported report callMem)
  simp only [callReturns]
  rw [show (s.updateCall call.number _).call? call.number = _ from found]
  rfl

theorem callReturns_orderly {call : Call} (orderly : s.Orderly) (callMem : call ∈ s.calls)
    (inLine : call.status = .inLine) (absent : .call call.number ∉ s.callers) (report : Report) :
    (s.callReturns call.number (some report)).Orderly := by
  have reportedOrderly := reported_orderly call.number report orderly
  have reportedMem := mem_calls_reported report callMem
  rw [callReturns_some orderly callMem]
  split
  · have drained := drainOn_orderly reportedOrderly reportedMem (by simp [inLine]) absent
    exact drained
  · refine updateCall_orderly reportedOrderly (fun _ => rfl) (fun _ => rfl) ?_
    intro other otherMem sameNumber
    rw [reportedOrderly.eq_of_number_eq otherMem reportedMem sameNumber]
    exact .ends rfl absent

/-- A timer that nobody waits for may run on. -/
theorem Orderly.setTimer (timer : Timer) (orderly : s.Orderly) (absent : .timer ∉ s.callers)
    (noneWaits : ∀ call ∈ s.calls, call.status ≠ .awaitingTimer ∧ call.status ≠ .ready)
    (runs : timer ≠ .off) :
    ({ s with processor := { s.processor with timer := timer } }).Orderly where
  numbered := orderly.numbered
  nodup := orderly.nodup
  waits := by
    intro caller callerMem
    cases caller with
    | timer => exact absurd callerMem absent
    | call number => exact orderly.waits (.call number) callerMem
  stopped_iff := orderly.stopped_iff
  firstOpen := orderly.firstOpen
  awaiting := fun call callMem awaiting => absurd awaiting (noneWaits call callMem).1
  ready := fun call callMem ready => absurd ready (noneWaits call callMem).2
  armed := Or.inr (Or.inl runs)

/-- A timer that goes away lets the call of `stop` that waited for it go on. -/
theorem wakeAfterTimer_orderly (orderly : s.Orderly) (flushing : s.processor.timer = .flushing)
    (absent : .timer ∉ s.callers)
    (rests : s.processor.stopped = true ∨ s.processor.queue = [] ∧ s.holder = none)
    (report : Report) :
    (wakeAfterTimer (some report)
      { s with processor := { s.processor with timer := .off } }).Orderly := by
  constructor
  case numbered =>
    rw [wakeAfterTimer, List.length_map, ← orderly.numbered, List.map_map]
    apply List.map_congr_left
    intro call _
    simp only [Function.comp]
    split <;> rfl
  case nodup => exact orderly.nodup
  case waits =>
    intro caller callerMem
    cases caller with
    | timer => exact absurd callerMem absent
    | call k =>
        obtain ⟨call, callMem, sameNumber, inLine⟩ := orderly.waits (.call k) callerMem
        exact ⟨call, List.mem_map.mpr ⟨call, callMem, by simp [inLine]⟩, sameNumber, inLine⟩
  case stopped_iff =>
    simpa [wakeAfterTimer, apply_ite Call.kind] using orderly.stopped_iff
  case firstOpen =>
    rw [wakeAfterTimer, List.pairwise_map]
    apply orderly.firstOpen.imp
    intro first later ended
    simp only [apply_ite Call.kind, ite_self]
    intro firstStop laterStop
    simp [ended firstStop laterStop]
  case awaiting =>
    simp only [wakeAfterTimer, List.forall_mem_map]
    intro call callMem awaiting
    split at awaiting
    · cases awaiting
    · rename_i notAwaiting
      exact absurd awaiting notAwaiting
  case ready =>
    simp only [wakeAfterTimer, List.forall_mem_map, apply_ite Call.kind, ite_self, and_true]
    intro call callMem ready
    split at ready
    · rename_i awaiting
      exact (orderly.awaiting call callMem awaiting).1
    · exact absurd ready (orderly.not_ready (by simp [flushing]) callMem)
  case armed =>
    rcases rests with stopped | idle
    · exact Or.inl stopped
    · exact Or.inr (Or.inr idle)

/-- When its flush has ended the timer counts again, or goes away for lack of work. -/
theorem timerReturns_orderly {now : Nat} (orderly : s.Orderly)
    (flushing : s.processor.timer = .flushing) (unheld : s.holder = none)
    (absent : .timer ∉ s.callers) (report : Report) :
    (s.timerReturns now (some report)).Orderly := by
  unfold timerReturns
  split
  · rename_i goesAway
    apply wakeAfterTimer_orderly orderly flushing absent
    rcases goesAway with failed | stopped | empty
    · cases failed
    · exact Or.inl stopped
    · exact Or.inr ⟨by simpa using empty, unheld⟩
  · rename_i goesOn
    have accepting : s.processor.stopped = false := by
      simpa using fun stopped => goesOn (Or.inr (Or.inl stopped))
    exact orderly.setTimer _ absent
      (fun call callMem => (orderly.status_of_not_stopped accepting callMem).2) (by simp)

theorem deliver_orderly {now : Nat} {caller : Caller} (orderly : s.Orderly)
    (waits : s.Waits caller) (unheld : s.holder = none) (absent : caller ∉ s.callers)
    (report : Report) : (s.deliver now caller (some report)).Orderly := by
  cases caller with
  | timer => exact timerReturns_orderly orderly waits unheld absent report
  | call number =>
      obtain ⟨call, callMem, rfl, inLine⟩ := waits
      exact callReturns_orderly orderly callMem inLine absent report

/-! ## Whole steps -/

/-- Callers that leave, and changes of the writes, disturb nobody. -/
theorem Orderly.of_sublist {t : Coalescer} (orderly : s.Orderly) (calls : t.calls = s.calls)
    (timer : t.processor.timer = s.processor.timer)
    (stopped : t.processor.stopped = s.processor.stopped)
    (callers : t.callers.Sublist s.callers)
    (armed : t.processor.stopped = true ∨ t.processor.timer ≠ .off ∨
      t.processor.queue = [] ∧ t.holder = none) : t.Orderly where
  numbered := calls ▸ orderly.numbered
  nodup := orderly.nodup.sublist callers
  waits := by
    intro caller callerMem
    rw [waits_congr calls timer]
    exact orderly.waits caller (callers.subset callerMem)
  stopped_iff := by
    rw [stopped, calls]
    exact orderly.stopped_iff
  firstOpen := calls ▸ orderly.firstOpen
  awaiting := by
    rw [calls, timer]
    exact orderly.awaiting
  ready := by
    rw [calls, timer]
    exact orderly.ready
  armed := armed

/-- Who holds the turn does not stand in line as well. -/
theorem Orderly.holder_notMem_line (orderly : s.Orderly) {caller : Caller}
    (held : s.holder = some caller) : caller ∉ s.line := by
  have nodup := orderly.nodup
  rw [callers, held] at nodup
  exact (List.nodup_cons.mp nodup).1

/-- Until it is stopped, the timer of a coalescer with work runs. -/
theorem Orderly.runs (orderly : s.Orderly) (work : s.processor.queue ≠ [] ∨ s.holder ≠ none)
    {rests : Prop} : s.processor.stopped = true ∨ s.processor.timer ≠ .off ∨ rests := by
  rcases orderly.armed with stopped | runs | ⟨empty, unheld⟩
  · exact Or.inl stopped
  · exact Or.inr (Or.inl runs)
  · rcases work with waiting | held
    · exact absurd empty waiting
    · exact absurd unheld held

/-- The flight has ended and its caller has not heard of it yet. -/
theorem settle_orderly {caller : Caller} (orderly : s.Orderly) (held : s.holder = some caller)
    (letters : LetterStore) (outcome : SinkOutcome) :
    ({ s with processor := (s.processor.settle letters outcome).2, holder := none }).Orderly :=
  orderly.of_sublist rfl rfl rfl (List.sublist_append_right _ _)
    (orderly.runs (Or.inr (by simp [held])))

theorem finish_orderly {now : Nat} {outcome : SinkOutcome} (orderly : s.Orderly) :
    (s.finish now outcome .working).Orderly := by
  unfold finish
  split
  · exact orderly
  · rename_i caller held
    have waits : s.Waits caller := orderly.waits caller (by simp [callers, held])
    exact deliver_orderly (settle_orderly orderly held .working outcome)
      ((waits_congr rfl rfl caller).mpr waits) rfl (orderly.holder_notMem_line held)
      (s.processor.report outcome)

theorem turn_orderly {now : Nat} (orderly : s.Orderly) : (s.turn now).Orderly := by
  unfold turn
  split
  · rename_i caller rest unheld lineEq
    have callersEq : s.callers = caller :: rest := by simp [callers, unheld, lineEq]
    split
    · have left : ({ s with line := rest } : Coalescer).callers = rest := by simp [callers, unheld]
      have waits : s.Waits caller := orderly.waits caller (by simp [callersEq])
      have absent : caller ∉ rest := (List.nodup_cons.mp (callersEq ▸ orderly.nodup)).1
      have leftOrderly : ({ s with line := rest } : Coalescer).Orderly :=
        orderly.of_sublist rfl rfl rfl (by simp [left, callersEq]) orderly.armed
      exact deliver_orderly leftOrderly ((waits_congr rfl rfl caller).mpr waits) unheld
        (left.symm ▸ absent) .empty
    · rename_i waiting
      exact orderly.of_sublist rfl rfl rfl (by simp [callers, unheld, lineEq])
        (orderly.runs (Or.inl (by simpa using waiting)))
  · exact orderly

theorem fire_orderly (orderly : s.Orderly) : s.fire.Orderly := by
  unfold fire
  split
  · rename_i due counting
    have absent : .timer ∉ s.callers := orderly.timer_notMem_callers (by simp [counting])
    have noneWaits : ∀ call ∈ s.calls, call.status ≠ .awaitingTimer ∧ call.status ≠ .ready := by
      intro call callMem
      constructor
      · exact orderly.not_awaiting (by simp [counting]) callMem
      · exact orderly.not_ready (by simp [counting]) callMem
    exact joinLine_orderly (orderly.setTimer .flushing absent noneWaits (by simp)) rfl absent
  · exact orderly

theorem enqueue_orderly {now : Nat} {id : String} {patch : Patch} (orderly : s.Orderly) :
    (s.step (.enqueue now id patch)).Orderly := by
  cases queued : s.processor.enqueue now id patch with
  | error refusal =>
      rw [step_enqueue_of_error queued]
      exact orderly
  | ok p =>
      rw [step_enqueue_of_ok queued]
      obtain ⟨accepting, _, rfl⟩ := Processor.enqueue_eq_ok_iff.mp queued
      unfold Processor.arm
      split
      · rename_i off
        have timerOff : s.processor.timer = .off := off
        have armed := orderly.setTimer (.counting (now + s.processor.config.interval))
          (orderly.timer_notMem_callers (by simp [timerOff]))
          (fun call callMem => (orderly.status_of_not_stopped accepting callMem).2) (by simp)
        exact armed.of_sublist rfl rfl rfl (List.Sublist.refl _) (Or.inr (Or.inl (by simp)))
      · rename_i runs
        exact orderly.of_sublist rfl rfl rfl (List.Sublist.refl _) (Or.inr (Or.inl runs))

theorem addFlush_orderly (orderly : s.Orderly) : (s.addCall .flush .inLine).Orderly :=
  addCall_orderly orderly (Or.inl rfl) (by simp)

theorem addFlush_waits : (s.addCall .flush .inLine).Waits (.call s.nextNumber) :=
  ⟨⟨s.nextNumber, .flush, .inLine, []⟩, by simp [addCall], rfl, rfl⟩

theorem startFlush_orderly {now : Nat} (orderly : s.Orderly) : (s.startFlush now).Orderly := by
  have added := addFlush_orderly orderly
  have absent := orderly.next_notMem_callers
  simp only [startFlush]
  split
  · rename_i free
    exact deliver_orderly added addFlush_waits free.1 absent .empty
  · exact joinLine_orderly added addFlush_waits absent

theorem startStop_orderly (orderly : s.Orderly) : s.startStop.Orderly := by
  simp only [startStop]
  split
  · rename_i stopped
    exact addCall_orderly orderly (Or.inr rfl) fun _ => ⟨stopped, rfl⟩
  · rename_i goesOn
    have accepting : s.processor.stopped = false := by simpa using goesOn
    split
    · rename_i off
      have added : (({ s with processor := { s.processor with stopped := true } }).addCall
          .stop .inLine).Orderly := addStop_orderly orderly accepting id (by simp) (by simp)
      have drained := drainOn_orderly added
        (List.mem_append_right _ (List.mem_singleton_self _)) (by simp) orderly.next_notMem_callers
      exact drained
    · rename_i due counting
      exact addStop_orderly orderly accepting (by simp [counting]) (by simp) (fun _ => rfl)
    · rename_i flushing
      exact addStop_orderly orderly accepting id (fun _ => flushing) (by simp)

theorem resume_orderly {number : Nat} (orderly : s.Orderly) : (s.resume number).Orderly := by
  unfold resume
  split
  · rename_i call found
    split
    · rename_i ready
      have callMem : call ∈ s.calls := List.mem_of_find?_eq_some found
      have numberEq : call.number = number := by simpa using List.find?_some found
      rw [← numberEq]
      exact drainOn_orderly orderly callMem (by simp [ready])
        (orderly.notMem_callers callMem (by simp [ready]))
    · exact orderly
  · exact orderly

/-- Every step whose dead letters are stored keeps the callers orderly. -/
theorem step_orderly {step : Step} (stores : step.StoresLetters) (orderly : s.Orderly) :
    (s.step step).Orderly := by
  cases step with
  | enqueue now id patch => exact enqueue_orderly orderly
  | start now kind =>
      cases kind with
      | flush => exact startFlush_orderly orderly
      | stop => exact startStop_orderly orderly
  | resume number => exact resume_orderly orderly
  | fire => exact fire_orderly orderly
  | turn now => exact turn_orderly orderly
  | finish now outcome letters =>
      have works : letters = .working := stores
      subst works
      exact finish_orderly orderly

/-- The callers of every run whose dead letters are stored are orderly. -/
theorem run_orderly (name : String) (config : Config) {steps : List Step}
    (stores : ∀ step ∈ steps, step.StoresLetters) : ((idle name config).run steps).Orderly :=
  run_keeps step_orderly stores (idle_orderly name config)

end Coalescer

end Outreach.Writes
