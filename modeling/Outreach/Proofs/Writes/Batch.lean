import Mathlib.Data.List.Perm.Basic
import Outreach.Writes.Processor

/-!
# What becomes of a batch

An outcome of the store fails some writes of a batch and delivers the others. Of the writes that
failed, those with attempts left are tried again and the rest are given up, grouped by reason. The
three parts are described as filters of the batch, so that together they are the batch and each
keeps its order.
-/

namespace Outreach.Writes

/-- A rejection names the write. -/
def rejects (failed : List Rejection) (w : Write) : Bool := (lastReason? w.ticket failed).isSome

/-- The outcome fails a write: the whole batch failed, or a rejection names the write. -/
def SinkOutcome.fails : SinkOutcome → Write → Bool
  | .raised _, _ => true
  | .returned result, w => rejects result.failed w

/-- The writes that failed are the ones that the outcome fails, in batch order. -/
theorem map_fst_failuresOf (batch : List Write) (outcome : SinkOutcome) :
    (failuresOf batch outcome).map Prod.fst = batch.filter outcome.fails := by
  cases outcome with
  | raised reason =>
      have failsAll : (SinkOutcome.raised reason).fails = fun _ => true := rfl
      simp [failuresOf, failsAll, Function.comp_def]
  | returned result =>
      induction batch with
      | nil => rfl
      | cons w rest ih =>
          simp only [failuresOf] at ih ⊢
          cases named : lastReason? w.ticket result.failed with
          | none => simpa [named, SinkOutcome.fails, rejects] using ih
          | some reason => simpa [named, SinkOutcome.fails, rejects] using ih

/-- Every other write of the batch is delivered, in batch order. -/
theorem deliveriesOf_eq_filter (batch : List Write) (outcome : SinkOutcome) :
    deliveriesOf batch outcome = batch.filter fun w => !outcome.fails w := by
  cases outcome with
  | raised reason => simp [deliveriesOf, SinkOutcome.fails]
  | returned result => simp [deliveriesOf, SinkOutcome.fails, rejects, ← Option.not_isSome]

/-! ## Grouping by reason -/

/-- The first write opens the group of its reason; writes with other reasons are
grouped after it. -/
theorem groupByReason_cons (first : Write × String) (rest : List (Write × String)) :
    groupByReason (first :: rest) =
      (first.2, first.1 :: (rest.filter (·.2 = first.2)).map Prod.fst) ::
        groupByReason (rest.filter (·.2 ≠ first.2)) := by
  have otherReasons : (rest.map Prod.snd).filter (fun reason => !(reason == first.2)) =
      (rest.filter (·.2 ≠ first.2)).map Prod.snd := by
    simp [List.filter_map, Function.comp_def, beq_eq_decide]
  simp only [groupByReason, List.map_cons, List.eraseDups_cons, otherReasons, List.filter_cons,
    decide_true, if_true]
  congr 1
  apply List.map_congr_left
  intro reason reasonMem
  have different : reason ≠ first.2 := by
    obtain ⟨failure, failureMem, rfl⟩ := List.mem_map.mp (List.mem_eraseDups.mp reasonMem)
    simpa using (List.mem_filter.mp failureMem).2
  have sameGroup : rest.filter (·.2 = reason) =
      (rest.filter (·.2 ≠ first.2)).filter (·.2 = reason) := by
    rw [List.filter_filter]
    apply List.filter_congr
    intro failure _
    by_cases named : failure.2 = reason <;> simp [named, different]
  simp [different.symm, sameGroup]

/-- Grouping loses no write and repeats none. -/
theorem map_write_lettersOf_groupByReason (failed : List (Write × String)) :
    ((lettersOf (groupByReason failed)).map DeadLetter.write).Perm (failed.map Prod.fst) := by
  -- The groups after the first come from a filtered list, so the induction is on the length.
  induction lengthEq : failed.length using Nat.strongRecOn generalizing failed with
  | ind size ih =>
      cases failed with
      | nil => simp [groupByReason, lettersOf]
      | cons first rest =>
          have shorter : (rest.filter (·.2 ≠ first.2)).length < size := by
            have := List.length_filter_le (fun failure => decide (failure.2 ≠ first.2)) rest
            simp only [List.length_cons] at lengthEq
            omega
          have later := ih _ shorter (rest.filter (·.2 ≠ first.2)) rfl
          have parts : ((rest.filter (·.2 = first.2)).map Prod.fst ++
              (rest.filter (·.2 ≠ first.2)).map Prod.fst).Perm (rest.map Prod.fst) := by
            rw [← List.map_append]
            apply List.Perm.map
            simpa using List.filter_append_perm (fun failure => decide (failure.2 = first.2)) rest
          rw [groupByReason_cons]
          simp only [lettersOf, List.flatMap_cons, List.map_append, List.map_map, List.map_cons,
            Function.comp_def] at later ⊢
          exact List.Perm.cons first.1 ((later.append_left _).trans parts)

/-- A group has the writes of a reason that was given. -/
theorem ne_nil_of_mem_groupByReason {failed : List (Write × String)} {group : String × List Write}
    (groupMem : group ∈ groupByReason failed) : group.2 ≠ [] := by
  obtain ⟨reason, reasonMem, rfl⟩ := List.mem_map.mp groupMem
  obtain ⟨failure, failureMem, rfl⟩ := List.mem_map.mp (List.mem_eraseDups.mp reasonMem)
  have inGroup : failure.1 ∈ (failed.filter (·.2 = failure.2)).map Prod.fst :=
    List.mem_map_of_mem (by simpa using failureMem)
  exact List.ne_nil_of_mem inGroup

/-- Letters are stored group by group. -/
theorem lettersOf_append (first second : List (String × List Write)) :
    lettersOf (first ++ second) = lettersOf first ++ lettersOf second := by
  simp [lettersOf]

theorem LetterStore.stored_append_refused {α : Type} (letters : LetterStore) (groups : List α) :
    letters.stored groups ++ letters.refused groups = groups := by
  cases letters with
  | working => simp [stored, refused]
  | failingAfter count => simp [stored, refused]

theorem LetterStore.refused_subset {α : Type} (letters : LetterStore) (groups : List α) :
    letters.refused groups ⊆ groups := by
  intro group groupMem
  rw [← letters.stored_append_refused groups]
  exact List.mem_append_right _ groupMem

/-! ## The three parts of a batch -/

namespace Processor

/-- The writes that are tried again are the failed ones with attempts left, in batch order. -/
theorem retries_failuresOf (p : Processor) (batch : List Write) (outcome : SinkOutcome) :
    p.retries (failuresOf batch outcome) =
      (batch.filter outcome.fails).filter p.hasAttemptsLeft := by
  rw [← map_fst_failuresOf, List.filter_map]
  rfl

/-- The writes that are tried again keep the order of their batch. -/
theorem retries_sublist (p : Processor) (batch : List Write) (outcome : SinkOutcome) :
    (p.retries (failuresOf batch outcome)).Sublist batch := by
  rw [retries_failuresOf]
  exact List.filter_sublist.trans List.filter_sublist

/-- The writes that are given up are the failed ones without attempts left. -/
theorem map_write_exhausted (p : Processor) (batch : List Write) (outcome : SinkOutcome) :
    ((lettersOf (p.exhausted (failuresOf batch outcome))).map DeadLetter.write).Perm
      ((batch.filter outcome.fails).filter fun w => !p.hasAttemptsLeft w) := by
  rw [← map_fst_failuresOf, List.filter_map]
  exact map_write_lettersOf_groupByReason _

/-- Retried, delivered and given up writes together are the batch. -/
theorem parts_perm (p : Processor) (batch : List Write) (outcome : SinkOutcome) :
    (p.retries (failuresOf batch outcome) ++ deliveriesOf batch outcome ++
      (lettersOf (p.exhausted (failuresOf batch outcome))).map DeadLetter.write).Perm batch := by
  rw [retries_failuresOf, deliveriesOf_eq_filter]
  have swapped (first second third : List Write) :
      (first ++ second ++ third).Perm (first ++ third ++ second) := by
    simpa only [List.append_assoc] using List.perm_append_comm.append_left first
  have failedParts : ((batch.filter outcome.fails).filter p.hasAttemptsLeft ++
      (batch.filter outcome.fails).filter fun w => !p.hasAttemptsLeft w).Perm
      (batch.filter outcome.fails) :=
    List.filter_append_perm _ _
  apply ((p.map_write_exhausted batch outcome).append_left _).trans
  apply (swapped _ _ _).trans
  apply (failedParts.append_right _).trans
  exact List.filter_append_perm _ _

end Processor

end Outreach.Writes
