import Outreach.Proofs.Office.Tasks
import Outreach.Proofs.Writes.Conservation

/-!
# What a task queues

A write that a task queues goes to the end of the queue of its collection, and to
nothing else of the office.
-/

namespace Outreach

open Writes (Patch Write)

namespace Office

/-- Between two offices some changes were queued for a collection, in this order and behind what was
queued before. -/
structure Queues (c : Collection) (changes : List (String × Patch)) (o after : Office) : Prop where
  queue : (after.processor c).queue.map Write.change =
    (o.processor c).queue.map Write.change ++ changes
  accepted : (after.processor c).accepted.map Write.change =
    (o.processor c).accepted.map Write.change ++ changes

variable {c : Collection} {o middle after : Office} {changes more : List (String × Patch)}

theorem Queues.of_processor_eq (same : after.processor c = o.processor c) :
    Queues c [] o after := by
  constructor <;> simp [same]

theorem Queues.append (first : Queues c changes o middle) (later : Queues c more middle after) :
    Queues c (changes ++ more) o after := by
  constructor
  · rw [later.queue, first.queue, List.append_assoc]
  · rw [later.accepted, first.accepted, List.append_assoc]

/-- The processor of a collection is kept, and so are all the others. -/
theorem Queues.congr {o' after' : Office} (queues : Queues c changes o after)
    (before : o'.processor c = o.processor c) (behind : after'.processor c = after.processor c) :
    Queues c changes o' after' := by
  constructor
  · rw [before, behind, queues.queue]
  · rw [before, behind, queues.accepted]

theorem Queues.of_enqueue {id : String} {patch : Patch} {p : Writes.Processor}
    (queued : (o.processor c).enqueue 0 id patch = .ok p) (behind : after.processor c = p) :
    Queues c [(id, patch)] o after := by
  obtain ⟨_, _, rfl⟩ := Writes.Processor.enqueue_eq_ok_iff.mp queued
  constructor <;> rw [behind, Writes.Processor.arm_sameWork 0 _] <;>
    simp [Writes.Processor.accept, Writes.Processor.nextWrite, Write.change]

end Office

namespace Task

variable {o after : Office} {c : Collection} {id : String} {patch : Patch} {done : Unit}

/-- What it does to queue one write. -/
structure QueuesOne (c : Collection) (id : String) (patch : Patch) (o after : Office) : Prop where
  queues : Office.Queues c [(id, patch)] o after
  others : ∀ other, other ≠ c → after.processor other = o.processor other
  frame : ∃ processors, after = { o with processors := processors }

theorem queuesOne_of_queueWrite
    (queued : perform (queueWrite c id patch) o = (.ok done, after)) :
    QueuesOne c id patch o after := by
  obtain ⟨p, accepted, rfl⟩ := perform_queueWrite_eq_ok_iff.mp queued
  refine ⟨.of_enqueue accepted ?_, fun other different => ?_, _, rfl⟩
  · exact PerCollection.get_set_self c _ _
  · exact PerCollection.get_set_of_ne different _ _

end Task

end Outreach
