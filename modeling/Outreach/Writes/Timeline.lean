import Outreach.Writes.Coalescer
import Outreach.Writes.Shelf

/-!
# Timelines

A timeline runs a coalescer over a scripted store on a clock that jumps from one event to the next:
the timer fires, a call of the store goes on, or its timeout is over. Between events everything that
can go on does so in order of arrival, and one caller runs until it has to wait. The script says for
each call of the store how long it takes and how it ends.
-/

namespace Outreach.Writes

/-- An error raised by something outside. -/
structure Raised where
  kind : String
  text : String
  deriving DecidableEq, Repr, Inhabited

/-- The text of an error, or its kind when it has no text. -/
def Raised.reason (r : Raised) : String := if r.text.isEmpty then r.kind else r.text

/-- How one call of the store goes. -/
structure Plan where
  /-- Milliseconds before anything is applied. -/
  delay : Nat
  failure : Option Raised
  /-- Rejected places of the batch, or none for a write that is not in the batch, with reasons. -/
  rejections : List (Option Nat × String)
  /-- Milliseconds after the writes are applied. -/
  delayAfter : Nat
  deriving Inhabited

/-- A call that succeeds at once. -/
def Plan.success : Plan := ⟨0, none, [], 0⟩

/-- A call of the store that has not ended. -/
inductive SinkCall where
  /-- Nothing is applied before a time. -/
  | waiting (resumeAt : Nat) (plan : Plan) (deadline : Option Nat)
  /-- Everything is applied and the call ends at a time. -/
  | lingering (resumeAt : Nat) (outcome : SinkOutcome) (deadline : Option Nat)

/-- When something happens next in a call: it goes on or runs out of time. -/
def SinkCall.wakeAt : SinkCall → Nat
  | .waiting resumeAt _ deadline | .lingering resumeAt _ deadline =>
    min resumeAt (deadline.getD resumeAt)

/-- The call runs out of time before it goes on. -/
def SinkCall.isLate : SinkCall → Bool
  | .waiting resumeAt _ deadline | .lingering resumeAt _ deadline =>
    (deadline.getD resumeAt) < resumeAt

/-- A coalescer with its store and a clock in milliseconds. -/
structure Timeline where
  coalescer : Coalescer
  clock : Nat
  shelf : Shelf
  plans : List Plan
  /-- How many calls the store has had. -/
  sinkCalls : Nat
  pendingCall : Option SinkCall
  /-- Calls in the background that have not been collected. -/
  spawned : List Nat
  letters : LetterStore

namespace Timeline

/-- A timeline at time zero. -/
def begin (name : String) (config : Config) (letters : LetterStore) (plans : List Plan) :
    Timeline :=
  ⟨.idle name config, 0, .empty, plans, 0, none, [], letters⟩

/-- The plan of the next call; the last plan repeats. -/
def nextPlan (t : Timeline) : Plan :=
  (t.plans[min t.sinkCalls (t.plans.length - 1)]?).getD .success

/-- The processor of the timeline. -/
def processor (t : Timeline) : Processor := t.coalescer.processor

/-- The rejections of a plan for a batch; places beyond the batch drop out. -/
def rejectionsOf (batch : List Write) (plan : Plan) : List Rejection :=
  plan.rejections.filterMap fun (place, reason) =>
    match place with
    | none => some ⟨none, "foreign", reason⟩
    | some i => (batch[i]?).map fun w => ⟨some w.ticket, w.id, reason⟩

/-- The writes of a batch that a plan does not reject. -/
def acceptedOf (batch : List Write) (plan : Plan) : List Write :=
  (batch.zipIdx.filter fun (_, i) => !(plan.rejections.any (·.1 == some i))).map Prod.fst

/-- The outcome of a raised error; a timeout is the flush timeout where there is one. -/
def raisedOutcome (p : Processor) (r : Raised) : SinkOutcome :=
  match r.kind, p.config.timeout with
  | "TimeoutError", some timeout => .raised (timeoutMessage p.name (Decimal.writeInt timeout))
  | _, _ => .raised r.reason

/-- What a plan does once its delay is over. -/
def carryOut (plan : Plan) (t : Timeline) : Timeline × SinkOutcome :=
  match plan.failure with
  | some r => (t, raisedOutcome t.processor r)
  | none =>
    let batch := t.processor.flight
    let (shelf, result) := t.shelf.upsert (acceptedOf batch plan)
    ({ t with shelf := shelf }, match result with
      | .ok result => .returned { result with failed := rejectionsOf batch plan }
      | .error fault => .raised fault.message)

/-- Ends the flight. -/
def finish (outcome : SinkOutcome) (t : Timeline) : Timeline :=
  { t with coalescer := t.coalescer.finish t.clock outcome t.letters, pendingCall := none }

/-- Goes on after the delay of a plan. -/
def afterDelay (plan : Plan) (deadline : Option Nat) (t : Timeline) : Timeline :=
  let (t, outcome) := t.carryOut plan
  match plan.delayAfter, plan.failure with
  | 0, _ | _, some _ => t.finish outcome
  | after, none => { t with pendingCall := some (.lingering (t.clock + after) outcome deadline) }

/-- Ends the flight because its time is over. -/
def timeOut (t : Timeline) : Timeline :=
  t.finish (.raised (timeoutMessage t.processor.name
    (Decimal.writeInt (t.processor.config.timeout.getD 0))))

/-- Hands a new flight to the store. -/
def submit (t : Timeline) : Timeline :=
  match t.processor.config.timeout with
  | some timeout =>
    if timeout ≤ 0 then t.timeOut else open_ (some (t.clock + timeout.toNat)) t
  | none => open_ none t
where
  /-- Begins a call of the store with a deadline. -/
  open_ (deadline : Option Nat) (t : Timeline) : Timeline :=
    let plan := t.nextPlan
    let t := { t with sinkCalls := t.sinkCalls + 1 }
    if plan.delay = 0 then t.afterDelay plan deadline
    else { t with pendingCall := some (.waiting (t.clock + plan.delay) plan deadline) }

/-- Hands flights to the store as long as they end without a delay. -/
def settle : Nat → Timeline → Timeline
  | 0, t => t
  | fuel + 1, t =>
    if t.coalescer.holder.isSome ∧ t.pendingCall.isNone then settle fuel t.submit else t

/-- Bounds the steps that are possible without a new call from outside. -/
def fuel (t : Timeline) : Nat :=
  let p := t.processor
  let attempts := ((p.queue ++ p.flight).map fun w => p.config.maxAttempts + 1 - w.attempts).sum
  4 * (attempts + t.coalescer.calls.length + t.coalescer.line.length + 4)

/-- Changes the coalescer and lets what follows settle. -/
def act (change : Coalescer → Coalescer) (t : Timeline) : Timeline :=
  let t := { t with coalescer := change t.coalescer }
  t.settle t.fuel

/-- Somebody in line or a call that may go on can be served without time passing. -/
def isBusy (t : Timeline) : Bool :=
  (t.coalescer.holder.isNone && !t.coalescer.line.isEmpty) ||
    t.coalescer.calls.any (·.status = .ready)

/-- Serves the first in line, then every call that may go on. -/
def serve (t : Timeline) : Timeline := (t.act (·.turn t.clock)).act Coalescer.resumeAll

/-- Serves until everybody has to wait. -/
def serveAll : Nat → Timeline → Timeline
  | 0, t => t
  | fuel + 1, t => if t.isBusy then serveAll fuel t.serve else t

/-- When the timer fires. -/
def timerDue? (t : Timeline) : Option Nat :=
  match t.processor.timer with
  | .counting due => some due
  | _ => none

/-- The time of the next event. -/
def nextEvent? (t : Timeline) : Option Nat :=
  match t.timerDue?, t.pendingCall.map SinkCall.wakeAt with
  | some a, some b => some (min a b)
  | some a, none => some a
  | none, b => b

/-- The call of the store goes on. -/
def wakeCall (call : SinkCall) (t : Timeline) : Timeline :=
  if call.isLate then t.timeOut
  else match call with
    | .waiting _ plan deadline => { t with pendingCall := none }.afterDelay plan deadline
    | .lingering _ outcome _ => t.finish outcome

/-- Jumps to the next event and lets it happen. -/
def nextStep (time : Nat) (t : Timeline) : Timeline :=
  let t := { t with clock := max t.clock time }
  match t.pendingCall with
  | some call =>
    if call.wakeAt ≤ time then
      let t := t.wakeCall call
      t.settle t.fuel
    else t.act Coalescer.fire
  | none => t.act Coalescer.fire

/-- Lets time pass up to a target. -/
def passUntil : Nat → Nat → Timeline → Timeline
  | 0, target, t => { t with clock := max t.clock target }
  | fuel + 1, target, t =>
    if t.isBusy then passUntil fuel target t.serve
    else match t.nextEvent? with
      | some time =>
        if time ≤ target then passUntil fuel target (t.nextStep time)
        else { t with clock := max t.clock target }
      | none => { t with clock := max t.clock target }

/-- Lets time pass. -/
def sleep (ms : Nat) (t : Timeline) : Timeline := t.passUntil (2 * t.fuel) (t.clock + ms)

/-- Lets time pass until some calls are over. -/
def passUntilOver (isOver : Timeline → Bool) : Nat → Timeline → Timeline
  | 0, t => t
  | fuel + 1, t =>
    if isOver t then t
    else if t.isBusy then passUntilOver isOver fuel t.serve
    else match t.nextEvent? with
      | some time => passUntilOver isOver fuel (t.nextStep time)
      | none => t

/-- The call of a number is over. -/
def isCallOver (number : Nat) (t : Timeline) : Bool :=
  match t.coalescer.call? number with
  | some call => call.isOver
  | none => true

/-- Makes a call and waits until it is over. -/
def callAndWait (kind : CallKind) (t : Timeline) : Timeline × Option Call :=
  let number := t.coalescer.nextNumber
  let t := t.act (·.start t.clock kind)
  let t := passUntilOver (isCallOver number) (2 * t.fuel) t
  (t, t.coalescer.call? number)

/-- Makes several flush calls together and waits until all are over. -/
def flushTogether (count : Nat) (t : Timeline) : Timeline × List Call :=
  let t := serveAll t.fuel t
  let first := t.coalescer.nextNumber
  let numbers := (List.range count).map (first + ·)
  let t := numbers.foldl (fun t _ => t.act (·.start t.clock .flush)) t
  let t := passUntilOver (fun t => numbers.all fun n => t.isCallOver n) (2 * t.fuel) t
  let t := serveAll t.fuel t
  (t, numbers.filterMap t.coalescer.call?)

/-- Makes a call in the background and lets a millisecond pass. -/
def spawn (kind : CallKind) (t : Timeline) : Timeline :=
  let t := serveAll t.fuel t
  let number := t.coalescer.nextNumber
  let t := t.act (·.start t.clock kind)
  { t with spawned := t.spawned ++ [number] }.sleep 1

/-- Waits for the calls in the background and collects them. -/
def join (t : Timeline) : Timeline × List Call :=
  let numbers := t.spawned
  let t := passUntilOver (fun t => numbers.all fun n => t.isCallOver n) (2 * t.fuel) t
  let t := if numbers.isEmpty then t else serveAll t.fuel t
  ({ t with spawned := [] }, numbers.filterMap t.coalescer.call?)

/-- Queues a write now. -/
def enqueue (id : String) (patch : Patch) (t : Timeline) : Except Refusal Timeline := do
  .ok { t with coalescer := ← t.coalescer.enqueue t.clock id patch }

/-- Empties the store and the dead letters. -/
def clear (t : Timeline) : Timeline :=
  { t with
    shelf := .empty
    coalescer := { t.coalescer with processor := { t.processor with deadLetters := [] } } }

end Timeline

end Outreach.Writes
