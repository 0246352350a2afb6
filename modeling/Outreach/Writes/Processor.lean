import Outreach.Writes.Config
import Outreach.Writes.Report

/-!
# Write processors

A processor queues writes for one collection and hands them to its store in batches. A batch is
taken from the head of the queue and stays in flight until the store has answered. Writes that
failed go back to the head of the queue in their order; those that have used up their attempts
become dead letters. Beside the queue a processor keeps every write it has accepted and what became
of it, so that each write can be found in exactly one place.
-/

namespace Outreach.Writes

-- Sums start from the zero of the core library, also in a module that imports an algebra with a
-- zero of its own.
instance (priority := high) coreZero : Zero Nat := Zero.ofOfNat0

/-- The timer of a processor. -/
inductive Timer where
  | off
  /-- Counts down to a time. -/
  | counting (due : Nat)
  /-- Has fired and waits for its flush to end. -/
  | flushing
  deriving DecidableEq, Repr

/-- The counters of a processor. -/
structure Tally where
  flushes : Nat
  failures : Nat
  delivered : Nat
  retried : Nat
  deadLettered : Nat
  deriving DecidableEq, Repr, Inhabited

/-- A write processor. -/
structure Processor where
  name : String
  config : Config
  /-- Waiting writes, oldest first. -/
  queue : List Write
  /-- The batch that the store is working on. -/
  flight : List Write
  timer : Timer
  stopped : Bool
  tally : Tally
  /-- Every write as it was accepted, in order; the ticket of a write is its place here. -/
  accepted : List Write
  /-- Delivered writes in order of delivery. -/
  deliveries : List Write
  /-- Stored dead letters in order. -/
  deadLetters : List DeadLetter
  /-- Dead letters that could not be stored. -/
  lost : List DeadLetter
  /-- The tickets of every batch ever taken. -/
  batches : List (List Nat)
  /-- The tickets of every batch whose flight has ended. -/
  landed : List (List Nat)

/-- Why a write is refused. -/
inductive Refusal where
  | stopped (processor : String)
  | full (processor : String) (capacity : Nat)
  deriving DecidableEq, Repr

/-- What is said of a queue that is full. -/
def fullMessage (processor capacity : String) : String :=
  s!"Write queue for '{processor}' is full ({capacity} pending writes)"

/-- What is said of a processor that takes no more writes. -/
def stoppedMessage (processor : String) : String := s!"Write processor '{processor}' is stopped"

/-- What a refusal says. -/
def Refusal.message : Refusal → String
  | .stopped processor => stoppedMessage processor
  | .full processor capacity => fullMessage processor (toString capacity)

/-- The parts of a refusal. -/
def Refusal.details : Refusal → Fields
  | .stopped processor => [("processor", .text processor)]
  | .full processor capacity => [("processor", .text processor), ("capacity", .int capacity)]

/-- What a call that ran into the flush timeout says. -/
def timeoutMessage (processor : String) (timeout : String) : String :=
  s!"Bulk write for '{processor}' timed out after {timeout} ms"

/-- What happens when a flush hands over its dead letters. -/
inductive LetterStore where
  | working
  /-- Fails after it has stored some groups of dead letters. -/
  | failingAfter (groups : Nat)
  deriving DecidableEq, Repr

namespace LetterStore

/-- A store that takes no dead letter at all. -/
def failing : LetterStore := .failingAfter 0

/-- The groups that are stored. -/
def stored {α : Type} (groups : List α) : LetterStore → List α
  | .working => groups
  | .failingAfter count => groups.take count

/-- The groups that are not stored. -/
def refused {α : Type} (groups : List α) : LetterStore → List α
  | .working => []
  | .failingAfter count => groups.drop count

end LetterStore

/-- What a flush gives back: its report, or nothing when its dead letters could not be stored. -/
abbrev FlushResult := Option Report

namespace Processor

/-- A processor that has accepted nothing yet. -/
def idle (name : String) (config : Config) : Processor :=
  ⟨name, config, [], [], .off, false, ⟨0, 0, 0, 0, 0⟩, [], [], [], [], [], []⟩

/-- The word for the state of a processor. -/
def stateWord (p : Processor) : String :=
  if p.stopped then "stopped" else if p.timer = .off then "idle" else "armed"

/-- The queue has reached its capacity. -/
def isFull (p : Processor) : Bool :=
  match p.config.capacity with
  | some limit => limit ≤ p.queue.length
  | none => false

/-- Starts the timer unless it is running. -/
def arm (now : Nat) (p : Processor) : Processor :=
  match p.timer with
  | .off => { p with timer := .counting (now + p.config.interval) }
  | _ => p

/-- A write that has not been in a batch yet, with the next ticket. -/
def nextWrite (id : String) (patch : Patch) (p : Processor) : Write :=
  ⟨p.accepted.length, id, patch, 0⟩

/-- Accepts a write at the end of the queue. -/
def accept (id : String) (patch : Patch) (p : Processor) : Processor :=
  { p with
    queue := p.queue ++ [p.nextWrite id patch]
    accepted := p.accepted ++ [p.nextWrite id patch] }

/-- Queues a write, or refuses it and changes nothing. -/
def enqueue (now : Nat) (id : String) (patch : Patch) (p : Processor) : Except Refusal Processor :=
  if p.stopped then .error (.stopped p.name)
  else if p.isFull then .error (.full p.name (p.config.capacity.getD 0))
  else .ok ((p.accept id patch).arm now)

/-- The writes that the next flush takes, with this attempt counted. -/
def nextBatch (p : Processor) : List Write :=
  (p.queue.take p.config.batchSize).map fun w => { w with attempts := w.attempts + 1 }

/-- Takes the next batch into flight. -/
def take (p : Processor) : Processor :=
  { p with
    queue := p.queue.drop p.config.batchSize
    flight := p.nextBatch
    tally := { p.tally with flushes := p.tally.flushes + 1 }
    batches := p.batches ++ [p.nextBatch.map Write.ticket] }

/-- The write has attempts left. -/
def hasAttemptsLeft (p : Processor) (w : Write) : Bool := w.attempts < p.config.maxAttempts

/-- The failed writes that are tried again. -/
def retries (p : Processor) (failed : List (Write × String)) : List Write :=
  (failed.filter fun f => p.hasAttemptsLeft f.1).map Prod.fst

/-- The failed writes that are given up, grouped by reason. -/
def exhausted (p : Processor) (failed : List (Write × String)) : List (String × List Write) :=
  groupByReason (failed.filter fun f => !p.hasAttemptsLeft f.1)

/-- Ends the flight: delivered writes are kept as such and failed ones with attempts left go back to
the head of the queue. -/
def land (outcome : SinkOutcome) (p : Processor) : Processor :=
  let failed := failuresOf p.flight outcome
  let delivered := deliveriesOf p.flight outcome
  { p with
    queue := p.retries failed ++ p.queue
    flight := []
    landed := p.landed ++ [p.flight.map Write.ticket]
    deliveries := p.deliveries ++ delivered
    tally := { p.tally with
      failures := p.tally.failures + (if (errorOf outcome).isSome then 1 else 0)
      delivered := p.tally.delivered + delivered.length
      retried := p.tally.retried + (p.retries failed).length } }

/-- Stores groups of dead letters. -/
def bury (groups : List (String × List Write)) (p : Processor) : Processor :=
  { p with
    deadLetters := p.deadLetters ++ lettersOf groups
    tally := { p.tally with
      deadLettered := p.tally.deadLettered + (lettersOf groups).length } }

/-- Gives up groups of dead letters that could not be stored. -/
def lose (groups : List (String × List Write)) (p : Processor) : Processor :=
  { p with lost := p.lost ++ lettersOf groups }

/-- The report of the batch in flight. -/
def report (outcome : SinkOutcome) (p : Processor) : Report :=
  let failed := failuresOf p.flight outcome
  { delivered := deliveriesOf p.flight outcome
    retrying := p.retries failed
    deadLettered := (p.exhausted failed).flatMap Prod.snd
    result := match outcome with
      | .returned result => some result
      | .raised _ => none
    error := errorOf outcome }

/-- Ends the flight with an outcome of the store. When some dead letters cannot be stored the flush
has no report, and those writes are lost. -/
def settle (letters : LetterStore) (outcome : SinkOutcome) (p : Processor) :
    FlushResult × Processor :=
  let groups := p.exhausted (failuresOf p.flight outcome)
  (if (letters.refused groups).isEmpty then some (p.report outcome) else none,
    ((p.land outcome).bury (letters.stored groups)).lose (letters.refused groups))

/-- How often a write has been in a batch. -/
def attemptsOf (p : Processor) (ticket : Nat) : Nat := p.batches.flatten.count ticket

/-- The counters and settings of a processor as named values. -/
def statistics (p : Processor) : Fields :=
  [("name", .text p.name), ("state", .text p.stateWord), ("pending", .int p.queue.length),
    ("batch_size", .int p.config.batchSize), ("flush_interval_ms", .int p.config.interval),
    ("flushes", .int p.tally.flushes), ("failed_flushes", .int p.tally.failures),
    ("delivered", .int p.tally.delivered), ("retried", .int p.tally.retried),
    ("dead_lettered", .int p.tally.deadLettered)]

/-- One flush over a store that answers at once: takes the next batch, hands it over and settles. An
empty queue takes nothing. -/
def flushThrough {σ : Type} (sink : List Write → σ → SinkOutcome × σ) (store : σ) (p : Processor) :
    Report × Processor × σ :=
  if p.queue.isEmpty then (.empty, p, store)
  else
    let taken := p.take
    let (outcome, store) := sink taken.flight store
    let (result, settled) := taken.settle .working outcome
    (result.getD .empty, settled, store)

/-- How many attempts the waiting writes have left. -/
def attemptsLeft (p : Processor) : Nat :=
  (p.queue.map fun w => p.config.maxAttempts - w.attempts).sum

/-- Flushes until the queue is empty; the first number bounds the flushes. -/
def drainThrough {σ : Type} (sink : List Write → σ → SinkOutcome × σ) :
    Nat → σ → Processor → List Report × Processor × σ
  | 0, store, p => ([], p, store)
  | fuel + 1, store, p =>
    if p.queue.isEmpty then ([], p, store)
    else
      let (report, p, store) := p.flushThrough sink store
      let (reports, p, store) := drainThrough sink fuel store p
      (report :: reports, p, store)

/-- Refuses all later writes, sends the timer away and drains the queue. A processor that was
stopped before is left alone. -/
def stopThrough {σ : Type} (sink : List Write → σ → SinkOutcome × σ) (store : σ) (p : Processor) :
    List Report × Processor × σ :=
  if p.stopped then ([], p, store)
  else drainThrough sink p.attemptsLeft store { p with stopped := true, timer := .off }

end Processor

end Outreach.Writes
