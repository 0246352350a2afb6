/-!
# Collections

Everything stored belongs to one of five collections. `PerCollection` keeps one thing for each of
them; setting one leaves the others as they are.
-/

namespace Outreach

/-- The collections of stored things. -/
inductive Collection where
  | customers
  | orders
  | segments
  | campaigns
  | logs
  deriving DecidableEq, Repr

namespace Collection

/-- The name of a collection. -/
def word : Collection → String
  | .customers => "customers"
  | .orders => "orders"
  | .segments => "segments"
  | .campaigns => "campaigns"
  | .logs => "communication_logs"

/-- All collections, in the order in which they are drained. -/
def all : List Collection := [.customers, .orders, .segments, .campaigns, .logs]

/-- The collection of a name. -/
def ofWord? (word : String) : Option Collection := all.find? fun c => c.word = word

end Collection

/-- One thing for each collection. -/
structure PerCollection (α : Type) where
  customers : α
  orders : α
  segments : α
  campaigns : α
  logs : α

namespace PerCollection

variable {α : Type}

/-- Makes the thing of each collection. -/
def build (make : Collection → α) : PerCollection α :=
  ⟨make .customers, make .orders, make .segments, make .campaigns, make .logs⟩

/-- The thing of a collection. -/
def get (c : Collection) (things : PerCollection α) : α :=
  match c with
  | .customers => things.customers
  | .orders => things.orders
  | .segments => things.segments
  | .campaigns => things.campaigns
  | .logs => things.logs

/-- Replaces the thing of a collection. -/
def set (c : Collection) (thing : α) (things : PerCollection α) : PerCollection α :=
  match c with
  | .customers => { things with customers := thing }
  | .orders => { things with orders := thing }
  | .segments => { things with segments := thing }
  | .campaigns => { things with campaigns := thing }
  | .logs => { things with logs := thing }

@[simp]
theorem get_set_self (c : Collection) (thing : α) (things : PerCollection α) :
    (things.set c thing).get c = thing := by cases c <;> rfl

@[simp]
theorem get_set_of_ne {c other : Collection} (different : other ≠ c) (thing : α)
    (things : PerCollection α) : (things.set c thing).get other = things.get other := by
  cases c <;> cases other <;> simp_all [get, set]

end PerCollection

end Outreach
