import Outreach.Proofs.Store.Deliveries

/-!
# When a row arrives

A table behind a coalescer gets the row of a new identifier with the first write of it that is
delivered, and no sooner. Until then the writes of the identifier wait in the queue or in
flight, or were given up.
-/

namespace Outreach.Store

open Writes (Write Coalescer)

namespace Session

variable {s next final : Session} {clock : Clock} {w : Write} {marked : List (Write × Bool)}
  {accepted : Bool} {id : String}

/-- A verdict takes no row away, and brings one where a write is accepted. -/
theorem Takes.row?_eq_none_iff (takes : Takes clock w s accepted next) :
    next.table.row? id = none ↔ s.table.row? id = none ∧ (accepted = true → w.id ≠ id) := by
  cases takes with
  | accepts _ applied =>
      have applies := (applies_of_apply applied).1
      by_cases same : w.id = id
      · subst same
        simp [applies.row?_ne_none]
      · rw [applies.row?_other (Ne.symm same)]
        simp [same]
  | skips _ => simp [refuse]
  | refuses _ _ => simp [refuse]

theorem TakesAll.row?_eq_none_iff (takesAll : TakesAll clock s marked final) :
    final.table.row? id = none ↔
      s.table.row? id = none ∧ ∀ w ∈ acceptedOf marked, w.id ≠ id := by
  induction takesAll with
  | start => simp [acceptedOf]
  | @last marked middle next w accepted before takes ih =>
      rw [takes.row?_eq_none_iff, ih, and_assoc]
      apply and_congr_right
      intro _
      cases accepted with
      | true => simp [or_imp, forall_and]
      | false => simp

end Session

variable {s s' : Coalescer} {t t' : Table} {id : String}

/-- The identifier has a row exactly if a write of it has been delivered. -/
def ArrivesDelivered (id : String) (s : Coalescer) (t : Table) : Prop :=
  t.row? id = none ↔ ∀ w ∈ s.processor.deliveries, w.id ≠ id

theorem idle_arrivesDelivered (name : String) (config : Writes.Config)
    (missing : t.row? id = none) :
    ArrivesDelivered id (.idle name config) t := by
  simp [ArrivesDelivered, missing, Coalescer.idle, Writes.Processor.idle]

theorem TableStep.arrivesDelivered (step : TableStep s t s' t') (regular : Regular s)
    (arrives : ArrivesDelivered id s t) : ArrivesDelivered id s' t' := by
  obtain ⟨-, delivers, -⟩ := step.delivers regular
  unfold ArrivesDelivered at arrives ⊢
  cases delivers with
  | nothing same =>
      rw [same]
      exact arrives
  | batch markedEq takesAll deliveriesEq =>
      rw [takesAll.row?_eq_none_iff, deliveriesEq]
      simp only [List.mem_append, or_imp, forall_and]
      exact and_congr_left' arrives

end Outreach.Store
