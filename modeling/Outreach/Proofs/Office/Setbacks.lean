import Outreach.Proofs.Office.Population
import Outreach.Proofs.Office.Queues

/-!
# What a task does when it fails

A task of two parts fails when one of them does, and what the first has done by then stays. Of
the small tasks that every service is made of it is said here when they fail, and what they
leave behind of the office.
-/

namespace Outreach

namespace Writes.Processor

/-- The processor takes writes at the moment. -/
structure Accepts (p : Processor) : Prop where
  running : p.stopped = false
  hasRoom : p.isFull = false

variable {p : Processor} {now : Nat} {id : String} {patch : Patch}

theorem exists_enqueue_eq_ok_iff : (∃ q, p.enqueue now id patch = .ok q) ↔ p.Accepts := by
  constructor
  · rintro ⟨q, queued⟩
    obtain ⟨running, hasRoom, -⟩ := enqueue_eq_ok_iff.mp queued
    exact ⟨running, hasRoom⟩
  · rintro ⟨running, hasRoom⟩
    exact ⟨_, enqueue_eq_ok_iff.mpr ⟨running, hasRoom, rfl⟩⟩

theorem exists_enqueue_eq_error_iff : (∃ refusal, p.enqueue now id patch = .error refusal) ↔
    ¬p.Accepts := by
  rw [← @exists_enqueue_eq_ok_iff p now id patch]
  cases p.enqueue now id patch <;> simp

end Writes.Processor

namespace Task

variable {α β : Type} {o after : Office} {c : Collection} {setback : Setback}

@[simp]
theorem perform_pure_ne_error {value : α} : perform (pure value) o ≠ (.error setback, after) := by
  rw [show perform (pure value) o = (.ok value, o) from rfl]
  simp

@[simp]
theorem perform_now_ne_error : perform now o ≠ (.error setback, after) := by
  rw [perform_now]
  simp

@[simp]
theorem perform_drawId_ne_error : perform drawId o ≠ (.error setback, after) := by
  rw [perform_drawId]
  simp

/-- A task of two parts fails in the first, or in the second with what the first leaves behind. -/
theorem perform_bind_eq_error_iff {task : Task α} {next : α → Task β} :
    perform (task >>= next) o = (.error setback, after) ↔
      perform task o = (.error setback, after) ∨ ∃ first middle,
        perform task o = (.ok first, middle) ∧
        perform (next first) middle = (.error setback, after) := by
  rw [perform_bind]
  rcases perform task o with ⟨_ | first, middle⟩ <;> simp

theorem accepts_of_queueWrite {id : String} {patch : Writes.Patch} {done : Unit}
    (ran : perform (queueWrite c id patch) o = (.ok done, after)) : (o.processor c).Accepts := by
  obtain ⟨p, queued, -⟩ := perform_queueWrite_eq_ok_iff.mp ran
  exact Writes.Processor.exists_enqueue_eq_ok_iff.mp ⟨p, queued⟩

/-- A write that is refused changes nothing. -/
theorem refuses_of_queueWrite {id : String} {patch : Writes.Patch}
    (failed : perform (queueWrite c id patch) o = (.error setback, after)) :
    ¬(o.processor c).Accepts ∧ after = o := by
  rw [perform_queueWrite] at failed
  cases queued : (o.processor c).enqueue 0 id patch with
  | ok p =>
      rw [queued] at failed
      cases failed
  | error refusal =>
      rw [queued] at failed
      cases failed
      exact ⟨Writes.Processor.exists_enqueue_eq_error_iff.mp ⟨refusal, queued⟩, rfl⟩

/-- The row of an identifier is there and can be read. -/
def Readable (c : Collection) (id : String) (o : Office) : Prop :=
  ∃ row fields, (o.table c).row? id = some row ∧ (o.table c).readRow row = .ok fields

theorem perform_demand_eq_error {resource id : String}
    (failed : perform (demand c resource id) o = (.error setback, after)) :
    ¬Readable c id o ∧ after = o := by
  rw [perform_demand] at failed
  refine ⟨?_, (congrArg Prod.snd failed).symm⟩
  rintro ⟨row, fields, found, read⟩
  simp [found, read] at failed

/-- A failed insertion has drawn an identifier, and it may have changed tables. -/
theorem perform_insert_eq_error {given : Fields}
    (failed : perform (insert c given) o = (.error setback, after)) :
    ∃ tables, after = { o with drawn := o.drawn + 1, tables := tables } := by
  unfold insert at failed
  rw [perform_bind, perform_drawId] at failed
  simp only [perform_get_bind] at failed
  split at failed
  · cases failed
    exact ⟨_, rfl⟩
  · rcases perform_bind_eq_error_iff.mp failed with set | ⟨_, middle, set, found⟩
    · cases set
    · cases set
      rcases perform_bind_eq_error_iff.mp found with unread | ⟨_, _, _, given⟩
      · rw [perform_find] at unread
        exact ⟨_, (congrArg Prod.snd unread).symm⟩
      · exact absurd given perform_pure_ne_error

theorem perform_population_eq_error (failed : perform population o = (.error setback, after)) :
    after = o := by
  unfold population at failed
  rw [perform_get_bind] at failed
  dsimp only at failed
  split at failed
  · cases failed
    rfl
  · split at failed <;> cases failed
    rfl

theorem perform_audience_eq_error {rule : Value}
    (failed : perform (audience rule) o = (.error setback, after)) : after = o := by
  rcases perform_bind_eq_error_iff.mp failed with unfetched | ⟨_, _, _, given⟩
  · exact perform_population_eq_error unfetched
  · exact absurd given perform_pure_ne_error

theorem perform_present_eq_error {view : Form.View} {fields : Fields}
    (failed : perform (present view fields) o = (.error setback, after)) : after = o := by
  unfold present at failed
  split at failed <;> cases failed
  rfl

end Task

end Outreach
