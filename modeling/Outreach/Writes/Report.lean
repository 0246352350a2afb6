import Outreach.Writes.Patch

/-!
# Writes and flush reports

A write is one queued change of an entity; its ticket is its place in the order of acceptance and
tells it from every other write. A store answers a batch with a `BulkResult` or fails as a whole. A
`Report` says what became of each write of a batch.
-/

namespace Outreach.Writes

/-- A queued change of the entity with a given identifier. -/
structure Write where
  ticket : Nat
  id : String
  patch : Patch
  attempts : Nat
  deriving Inhabited

/-- The write as it was accepted, before any attempt. -/
def Write.fresh (w : Write) : Write := { w with attempts := 0 }

/-- A write that a store refused while it applied the others; without a ticket it names a write that
the processor does not know. -/
structure Rejection where
  ticket : Option Nat
  id : String
  reason : String
  deriving Repr

/-- What a store did with a batch. -/
structure BulkResult where
  inserted : Nat
  modified : Nat
  failed : List Rejection

/-- All writes that were applied. -/
def BulkResult.total (result : BulkResult) : Nat := result.inserted + result.modified

/-- How a call of a store ends. -/
inductive SinkOutcome where
  | returned (result : BulkResult)
  /-- The whole batch failed, for a reason. -/
  | raised (reason : String)

/-- The single tag of a flush. -/
inductive FlushOutcome where
  | empty
  | delivered
  | retrying
  | deadLettered
  deriving DecidableEq, Repr

/-- The word of a tag. -/
def FlushOutcome.word : FlushOutcome → String
  | .empty => "empty"
  | .delivered => "delivered"
  | .retrying => "retrying"
  | .deadLettered => "dead_lettered"

/-- What became of the writes that one flush took. -/
structure Report where
  delivered : List Write
  retrying : List Write
  deadLettered : List Write
  result : Option BulkResult
  error : Option String

namespace Report

/-- The report of a flush that found no write. -/
def empty : Report := ⟨[], [], [], none, none⟩

/-- The worst that happened to a write of the batch. -/
def outcome (r : Report) : FlushOutcome :=
  if !r.deadLettered.isEmpty then .deadLettered
  else if !r.retrying.isEmpty then .retrying
  else if !r.delivered.isEmpty then .delivered
  else .empty

/-- The number of writes that the flush took. -/
def batchSize (r : Report) : Nat := r.delivered.length + r.retrying.length + r.deadLettered.length

end Report

/-- A write that ran out of attempts, with the reason of the last. -/
structure DeadLetter where
  write : Write
  reason : String

/-- The last reason that a list of rejections gives for a ticket. -/
def lastReason? (ticket : Nat) (failed : List Rejection) : Option String :=
  (failed.reverse.find? fun rejection => rejection.ticket == some ticket).map Rejection.reason

/-- The writes of a batch that an outcome fails, each with its reason, in batch order. -/
def failuresOf (batch : List Write) : SinkOutcome → List (Write × String)
  | .raised reason => batch.map (·, reason)
  | .returned result => batch.filterMap fun w => (lastReason? w.ticket result.failed).map (w, ·)

/-- The writes of a batch that an outcome delivers, in batch order. -/
def deliveriesOf (batch : List Write) : SinkOutcome → List Write
  | .raised _ => []
  | .returned result => batch.filter fun w => (lastReason? w.ticket result.failed).isNone

/-- The error that an outcome reports: the failure of the batch, or the first rejection. -/
def errorOf : SinkOutcome → Option String
  | .raised reason => some reason
  | .returned result => result.failed.head?.map Rejection.reason

/-- Writes grouped by reason: reasons by first appearance, writes in their order. -/
def groupByReason : List (Write × String) → List (String × List Write)
  | failed => ((failed.map Prod.snd).eraseDups).map fun reason =>
      (reason, (failed.filter (·.2 = reason)).map Prod.fst)

/-- The dead letters of writes grouped by reason. -/
def lettersOf (groups : List (String × List Write)) : List DeadLetter :=
  groups.flatMap fun group => group.2.map fun w => ⟨w, group.1⟩

end Outreach.Writes
