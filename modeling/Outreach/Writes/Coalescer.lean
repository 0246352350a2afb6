import Outreach.Writes.Processor

/-!
# Flushes that take turns

Several callers may ask one processor to flush: its timer, calls of `flush`, and calls of `stop`,
which drain the queue. They stand in one line and each waits until the flush before it has ended, so
at most one batch is in flight. `Coalescer` adds this line and the calls to the processor; each of
its operations is one indivisible step, and any order of steps is a possible run.
-/

namespace Outreach.Writes

/-- Who asks for a flush. -/
inductive Caller where
  | timer
  | call (number : Nat)
  deriving DecidableEq, Repr

/-- The kinds of calls. -/
inductive CallKind where
  | flush
  | stop
  deriving DecidableEq, Repr

/-- Where a call stands. -/
inductive CallStatus where
  /-- Stands in line or has its flush in flight. -/
  | inLine
  /-- Waits for the flush of the timer to end, and fails with it. -/
  | awaitingTimer
  /-- May go on. -/
  | ready
  | finished
  /-- Ended because dead letters could not be stored. -/
  | failed
  deriving DecidableEq, Repr

/-- A call of `flush` or `stop` with the reports it has so far. -/
structure Call where
  number : Nat
  kind : CallKind
  status : CallStatus
  reports : List Report

/-- The call has ended. -/
def Call.isOver (c : Call) : Bool := c.status = .finished ∨ c.status = .failed

/-- A processor with the callers that use it. -/
structure Coalescer where
  processor : Processor
  /-- Whose batch is in flight. -/
  holder : Option Caller
  /-- Callers waiting for their turn. -/
  line : List Caller
  calls : List Call

namespace Coalescer

/-- A coalescer that has done nothing yet. -/
def idle (name : String) (config : Config) : Coalescer := ⟨.idle name config, none, [], []⟩

/-- The call of a number. -/
def call? (number : Nat) (s : Coalescer) : Option Call := s.calls.find? (·.number = number)

/-- Changes the call of a number. -/
def updateCall (number : Nat) (change : Call → Call) (s : Coalescer) : Coalescer :=
  { s with calls := s.calls.map fun c => if c.number = number then change c else c }

/-- The timer's flush has ended: calls that waited for it may go on, or fail with it. -/
def wakeAfterTimer (result : FlushResult) (s : Coalescer) : Coalescer :=
  let status := if result.isNone then CallStatus.failed else .ready
  { s with calls := s.calls.map fun c =>
      if c.status = .awaitingTimer then { c with status := status } else c }

/-- The timer goes on counting while writes remain, and goes away otherwise or after a failure. -/
def timerReturns (now : Nat) (result : FlushResult) (s : Coalescer) : Coalescer :=
  if result.isNone ∨ s.processor.stopped ∨ s.processor.queue.isEmpty then
    wakeAfterTimer result { s with processor := { s.processor with timer := .off } }
  else { s with processor :=
      { s.processor with timer := .counting (now + s.processor.config.interval) } }

/-- Puts a caller at the end of the line; with nobody before it, its flush begins at once. -/
def joinLine (caller : Caller) (s : Coalescer) : Coalescer :=
  if s.holder = none ∧ s.line = [] ∧ !s.processor.queue.isEmpty then
    { s with processor := s.processor.take, holder := some caller }
  else { s with line := s.line ++ [caller] }

/-- A stopping call asks for another flush while writes remain, and is over otherwise. -/
def drainOn (number : Nat) (s : Coalescer) : Coalescer :=
  if s.processor.queue.isEmpty then s.updateCall number fun c => { c with status := .finished }
  else (s.updateCall number fun c => { c with status := .inLine }).joinLine (.call number)

/-- Hands the result of a flush to a call. -/
def callReturns (number : Nat) (result : FlushResult) (s : Coalescer) : Coalescer :=
  match result with
  | none => s.updateCall number fun c => { c with status := .failed }
  | some report =>
    let s := s.updateCall number fun c => { c with reports := c.reports ++ [report] }
    match s.call? number with
    | some call =>
      if call.kind = .stop then s.drainOn number
      else s.updateCall number fun c => { c with status := .finished }
    | none => s

/-- Hands the result of a flush to its caller. -/
def deliver (now : Nat) (caller : Caller) (result : FlushResult) (s : Coalescer) : Coalescer :=
  match caller with
  | .timer => s.timerReturns now result
  | .call number => s.callReturns number result

/-- Queues a write. -/
def enqueue (now : Nat) (id : String) (patch : Patch) (s : Coalescer) :
    Except Refusal Coalescer := do
  .ok { s with processor := ← s.processor.enqueue now id patch }

/-- Begins the flush of the first caller in line, if no flush is in flight. An empty queue gives an
empty report. -/
def turn (now : Nat) (s : Coalescer) : Coalescer :=
  match s.holder, s.line with
  | none, caller :: rest =>
    if s.processor.queue.isEmpty then deliver now caller (some .empty) { s with line := rest }
    else { s with processor := s.processor.take, holder := some caller, line := rest }
  | _, _ => s

/-- Ends the flush in flight. -/
def finish (now : Nat) (outcome : SinkOutcome) (letters : LetterStore) (s : Coalescer) :
    Coalescer :=
  match s.holder with
  | none => s
  | some caller =>
    let (result, processor) := s.processor.settle letters outcome
    deliver now caller result { s with processor := processor, holder := none }

/-- The timer fires. -/
def fire (s : Coalescer) : Coalescer :=
  match s.processor.timer with
  | .counting _ => joinLine .timer { s with processor := { s.processor with timer := .flushing } }
  | _ => s

/-- The number that the next call gets. -/
def nextNumber (s : Coalescer) : Nat := s.calls.length

/-- Adds a call. -/
def addCall (kind : CallKind) (status : CallStatus) (s : Coalescer) : Coalescer :=
  { s with calls := s.calls ++ [⟨s.nextNumber, kind, status, []⟩] }

/-- Starts a call of `flush`. -/
def startFlush (now : Nat) (s : Coalescer) : Coalescer :=
  let number := s.nextNumber
  let s := s.addCall .flush .inLine
  if s.holder = none ∧ s.line = [] ∧ s.processor.queue.isEmpty then
    s.deliver now (.call number) (some .empty)
  else s.joinLine (.call number)

/-- Starts a call of `stop`. The first one refuses all later writes, waits for the timer's flush,
sends a counting timer away, and drains the queue; any later one is over at once. -/
def startStop (s : Coalescer) : Coalescer :=
  let number := s.nextNumber
  if s.processor.stopped then s.addCall .stop .finished
  else
    let s := { s with processor := { s.processor with stopped := true } }
    match s.processor.timer with
    | .off => (s.addCall .stop .inLine).drainOn number
    | .counting _ => { s with processor := { s.processor with timer := .off } }.addCall .stop .ready
    | .flushing => s.addCall .stop .awaitingTimer

/-- Starts a call. -/
def start (now : Nat) (kind : CallKind) (s : Coalescer) : Coalescer :=
  match kind with
  | .flush => s.startFlush now
  | .stop => s.startStop

/-- A call that may go on does so. -/
def resume (number : Nat) (s : Coalescer) : Coalescer :=
  match s.call? number with
  | some call => if call.status = .ready then s.drainOn number else s
  | none => s

/-- Resumes every call that may go on. -/
def resumeAll (s : Coalescer) : Coalescer :=
  (s.calls.filter (·.status = .ready)).foldl (fun s c => s.resume c.number) s

end Coalescer

/-- One step of a coalescer. Every run is a sequence of steps. -/
inductive Step where
  | enqueue (now : Nat) (id : String) (patch : Patch)
  | start (now : Nat) (kind : CallKind)
  | resume (number : Nat)
  | fire
  | turn (now : Nat)
  | finish (now : Nat) (outcome : SinkOutcome) (letters : LetterStore)

/-- Does a step. A write that is refused changes nothing. -/
def Coalescer.step (s : Coalescer) : Step → Coalescer
  | .enqueue now id patch => match s.enqueue now id patch with
    | .ok next => next
    | .error _ => s
  | .start now kind => s.start now kind
  | .resume number => s.resume number
  | .fire => s.fire
  | .turn now => s.turn now
  | .finish now outcome letters => s.finish now outcome letters

/-- Does steps one after the other. -/
def Coalescer.run (steps : List Step) (s : Coalescer) : Coalescer := steps.foldl Coalescer.step s

end Outreach.Writes
