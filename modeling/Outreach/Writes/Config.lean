/-!
# Limits of a write processor

How many writes go into one batch, how long the timer counts, how many writes may wait, how often a
write is tried and how long the store may take. A configuration that exists is usable: batches,
tries and capacity are at least one. Times are milliseconds.
-/

namespace Outreach.Writes

/-- The limits of a write processor. -/
structure Config where
  batchSize : Nat
  interval : Nat
  /-- No capacity means that any number of writes may wait. -/
  capacity : Option Nat
  maxAttempts : Nat
  /-- No timeout means that the store may take any time; one that is not
  positive is over at once. -/
  timeout : Option Int
  one_le_batchSize : 1 ≤ batchSize
  one_le_maxAttempts : 1 ≤ maxAttempts
  one_le_capacity : ∀ limit ∈ capacity, 1 ≤ limit

/-- What is wrong with a configuration. -/
inductive ConfigFault where
  | batchSize
  | interval
  | maxAttempts
  | capacity
  deriving DecidableEq, Repr

/-- What a configuration fault says. -/
def ConfigFault.message : ConfigFault → String
  | .batchSize => "batch_size must be at least 1"
  | .interval => "flush_interval_ms must not be negative"
  | .maxAttempts => "max_attempts must be at least 1"
  | .capacity => "max_queue_size must be at least 1"

namespace Config

/-- The limits in force where none are given. -/
def standard : Config := ⟨100, 5000, some 10000, 3, some 10000, by decide, by decide, by simp⟩

/-- Checks limits in a fixed order; the first fault counts. -/
def make? (batchSize interval : Int) (capacity : Option Int) (maxAttempts : Int)
    (timeout : Option Int) : Except ConfigFault Config :=
  if batchFits : batchSize < 1 then .error .batchSize
  else if interval < 0 then .error .interval
  else if attemptsFit : maxAttempts < 1 then .error .maxAttempts
  else match capacity with
    | none =>
      .ok ⟨batchSize.toNat, interval.toNat, none, maxAttempts.toNat, timeout, by omega, by omega,
        by simp⟩
    | some limit =>
      if capacityFits : limit < 1 then .error .capacity
      else .ok ⟨batchSize.toNat, interval.toNat, some limit.toNat, maxAttempts.toNat, timeout,
        by omega, by omega, by simp; omega⟩

end Config

end Outreach.Writes
