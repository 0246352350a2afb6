import Outreach.Office.Basic

/-!
# What flushes keep of the tables

A flush upserts one batch into its table, and stopping a processor upserts one batch after the
other. What every upsert keeps of a table is kept by all of these.
-/

namespace Outreach

namespace Writes.Processor

variable {σ : Type} {good : σ → Prop} {sink : List Write → σ → SinkOutcome × σ}

theorem flushThrough_keeps (keeps : ∀ batch store, good store → good (sink batch store).2)
    {store : σ} (holds : good store) (p : Processor) : good (p.flushThrough sink store).2.2 := by
  unfold flushThrough
  split
  · exact holds
  · exact keeps _ _ holds

theorem drainThrough_keeps (keeps : ∀ batch store, good store → good (sink batch store).2)
    (fuel : Nat) {store : σ} (holds : good store) (p : Processor) :
    good (p.drainThrough sink fuel store).2.2 := by
  induction fuel generalizing store p with
  | zero => exact holds
  | succ fuel ih =>
      unfold drainThrough
      split
      · exact holds
      · exact ih (flushThrough_keeps keeps holds p) _

theorem stopThrough_keeps (keeps : ∀ batch store, good store → good (sink batch store).2)
    {store : σ} (holds : good store) (p : Processor) : good (p.stopThrough sink store).2.2 := by
  unfold stopThrough
  split
  · exact holds
  · exact drainThrough_keeps keeps _ holds _

end Writes.Processor

namespace Office

variable {good : Store.Table → Prop} {o : Office}

theorem settle_keeps {c other : Collection} {p : Writes.Processor} {t : Store.Table}
    (holds : good (o.table other)) (holdsSettled : c = other → good t) :
    good ((o.settle c p t).table other) := by
  by_cases same : other = c
  · subst same
    simpa [table, settle] using holdsSettled rfl
  · simpa [table, settle, same] using holds

variable (keeps : ∀ clock writes t, good t → good (t.upsert clock writes).1)
include keeps

theorem sink_keeps (clock : Store.Clock) (batch : List Writes.Write) (t : Store.Table)
    (holds : good t) : good (Store.Table.sink clock batch t).2 := by
  have upserted := keeps clock batch t holds
  unfold Store.Table.sink
  split <;> simp_all

theorem flush_keeps (c : Collection) {other : Collection} (holds : good (o.table other)) :
    good ((o.flush c).2.table other) := by
  refine settle_keeps holds fun same => ?_
  subst same
  have flushed :=
    Writes.Processor.flushThrough_keeps (sink_keeps keeps o.clock) holds (o.processor c)
  exact flushed

theorem stop_keeps (c : Collection) {other : Collection} (holds : good (o.table other)) :
    good ((o.stop c).2.table other) := by
  refine settle_keeps holds fun same => ?_
  subst same
  have stopped :=
    Writes.Processor.stopThrough_keeps (sink_keeps keeps o.clock) holds (o.processor c)
  exact stopped

/-- What every upsert keeps of a table still holds of it when the office is closed. -/
theorem close_keeps {c : Collection} (holds : good (o.table c)) : good (o.close.table c) := by
  have stopped (collections : List Collection) {o : Office} (holds : good (o.table c)) :
      good ((collections.foldl (fun o c => (o.stop c).2) o).table c) := by
    induction collections generalizing o with
    | nil => exact holds
    | cons first rest ih => exact ih (stop_keeps keeps first holds)
  exact stopped _ holds

end Office

end Outreach
