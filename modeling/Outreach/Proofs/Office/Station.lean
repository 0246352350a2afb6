import Outreach.Proofs.Office.Tasks
import Outreach.Proofs.Store.Deliveries

/-!
# A collection behind its coalescer

An office flushes its processors in one go. In a station the processor of one collection works as a
coalescer instead, which hands its batches to the table of the collection at any time and may fail
with them; between any two of its steps the office can be asked to do a task.
-/

namespace Outreach

namespace PerCollection

@[simp]
theorem set_get {α : Type} (c : Collection) (things : PerCollection α) :
    things.set c (things.get c) = things := by
  cases c <;> rfl

end PerCollection

/-- An office in which the processor of one collection works as a coalescer. -/
structure Station (c : Collection) where
  office : Office
  coalescer : Writes.Coalescer

namespace Station

variable {c : Collection}

/-- The office as tasks find it, with the processor of the coalescer. -/
def desk (station : Station c) : Office :=
  { station.office with
    processors := station.office.processors.set c station.coalescer.processor }

/-- The table of the collection. -/
def table (station : Station c) : Store.Table := station.office.table c

/-- The coalescer goes on with the processor that a task leaves. -/
def served (after : Office) (station : Station c) : Station c where
  office := after
  coalescer := { station.coalescer with processor := after.processor c }

/-- The coalescer and the table have done a step. -/
def worked (s : Writes.Coalescer) (t : Store.Table) (station : Station c) : Station c where
  office := { station.office with tables := station.office.tables.set c t }
  coalescer := s

variable (station : Station c)

@[simp]
theorem desk_processor : station.desk.processor c = station.coalescer.processor :=
  PerCollection.get_set_self c _ _

@[simp]
theorem desk_table : station.desk.table c = station.table := rfl

@[simp]
theorem worked_table (s : Writes.Coalescer) (t : Store.Table) : (station.worked s t).table = t :=
  PerCollection.get_set_self c _ _

@[simp]
theorem served_desk (after : Office) : (station.served after).desk = after := by
  simp [desk, served, Office.processor]

@[simp]
theorem served_served (middle after : Office) :
    (station.served middle).served after = station.served after := rfl

/-- Nothing is done to the coalescer by a task that leaves its processor alone. -/
theorem served_of_processor_eq {after : Office}
    (same : after.processor c = station.coalescer.processor) :
    station.served after = { station with office := after } := by
  rw [served, same]

/-- The coalescer goes on with the processor that a task puts back. -/
theorem served_of_put_back {after : Office} {p : Writes.Processor}
    (putBack : after.processors = station.desk.processors.set c p) :
    station.served after = ⟨after, { station.coalescer with processor := p }⟩ := by
  simp [served, Office.processor, putBack]

end Station

end Outreach
