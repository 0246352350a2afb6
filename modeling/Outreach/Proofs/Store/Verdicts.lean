import Mathlib.Data.List.Induction
import Outreach.Proofs.Store.Sessions
import Outreach.Store.Tables

/-!
# Rejected writes leave no trace

A batch gives a verdict on each of its writes. `TakesAll` lists the verdicts beside the writes, and
what a batch does is read off this list: only accepted writes count and change rows, and an
identifier that has been refused once is refused for the rest of the batch. Since a write is applied
in the same way whatever was refused before it, the accepted writes alone do the same to the table.
-/

namespace Outreach.Store

open Writes (Write)

/-- The writes that were accepted. -/
def acceptedOf (marked : List (Write × Bool)) : List Write := (marked.filter (·.2)).map Prod.fst

/-- The writes that were refused. -/
def refusedOf (marked : List (Write × Bool)) : List Write := (marked.filter (!·.2)).map Prod.fst

section Concat

variable (marked : List (Write × Bool)) (w : Write)

@[simp]
theorem acceptedOf_concat_true : acceptedOf (marked ++ [(w, true)]) = acceptedOf marked ++ [w] := by
  simp [acceptedOf]

@[simp]
theorem acceptedOf_concat_false : acceptedOf (marked ++ [(w, false)]) = acceptedOf marked := by
  simp [acceptedOf]

@[simp]
theorem refusedOf_concat_true : refusedOf (marked ++ [(w, true)]) = refusedOf marked := by
  simp [refusedOf]

@[simp]
theorem refusedOf_concat_false : refusedOf (marked ++ [(w, false)]) = refusedOf marked ++ [w] := by
  simp [refusedOf]

end Concat

namespace Session

variable {s middle next final : Session} {clock : Clock} {w : Write}

/-- What a batch does with one write: the verdict, and the batch afterwards. -/
inductive Takes (clock : Clock) (w : Write) (s : Session) : Bool → Session → Prop
  | accepts {next : Session} (admitted : Keyed.get? w.id s.refused = none)
      (applied : s.apply clock w = .ok next) : Takes clock w s true next
  | skips {earlier : String} (refused : Keyed.get? w.id s.refused = some earlier) :
      Takes clock w s false (s.refuse w s!"Earlier write for {w.id} failed: {earlier}")
  | refuses {why : Refused} (admitted : Keyed.get? w.id s.refused = none)
      (refused : s.apply clock w = .error (.refused why)) :
      Takes clock w s false
        { s.refuse w why.message with refused := Keyed.put w.id why.message s.refused }

theorem take_eq_ok_iff : s.take clock w = .ok next ↔ ∃ accepted, Takes clock w s accepted next := by
  constructor
  · intro taken
    unfold take at taken
    split at taken
    · rename_i earlier refused
      rw [← Except.ok.inj taken]
      exact ⟨false, .skips refused⟩
    · rename_i admitted
      split at taken
      · rename_i applied
        rw [← Except.ok.inj taken]
        exact ⟨true, .accepts admitted applied⟩
      · rename_i refused
        rw [← Except.ok.inj taken]
        exact ⟨false, .refuses admitted refused⟩
      · cases taken
  · rintro ⟨accepted, takes⟩
    cases takes with
    | accepts admitted applied => simp [take, admitted, applied]
    | skips refused => simp [take, refused]
    | refuses admitted refused => simp [take, admitted, refused]

/-- What was refused stays refused, and a refused write makes its identifier one of these. -/
theorem Takes.refused_mono {accepted : Bool} (takes : Takes clock w s accepted next)
    (id : String)
    (before : Keyed.get? id s.refused ≠ none ∨ accepted = false ∧ id = w.id) :
    Keyed.get? id next.refused ≠ none := by
  cases takes with
  | accepts admitted applied =>
      rw [(applies_of_apply applied).2.refused]
      simpa using before
  | skips refused =>
      rcases before with earlier | ⟨_, rfl⟩
      · exact earlier
      · simp [refuse, refused]
  | refuses admitted refused =>
      by_cases same : id = w.id
      · simp [same]
      · rw [Keyed.get?_put_of_ne same]
        exact before.resolve_right fun both => same both.2

/-- What a batch does with some writes, each with its verdict. -/
inductive TakesAll (clock : Clock) (s : Session) : List (Write × Bool) → Session → Prop
  | start : TakesAll clock s [] s
  | last {marked : List (Write × Bool)} {middle next : Session} {w : Write} {accepted : Bool}
      (before : TakesAll clock s marked middle) (takes : Takes clock w middle accepted next) :
      TakesAll clock s (marked ++ [(w, accepted)]) next

theorem takeAll_concat (writes : List Write) (w : Write) (s : Session) :
    s.takeAll clock (writes ++ [w]) = s.takeAll clock writes >>= take clock w := by
  induction writes generalizing s with
  | nil => cases taken : s.take clock w <;> simp [takeAll, taken, bind, Except.bind]
  | cons first rest ih => simp only [List.cons_append, takeAll, ih, bind_assoc]

/-- A batch that is not given up has a verdict on each of its writes. -/
theorem takeAll_eq_ok_iff {writes : List Write} : s.takeAll clock writes = .ok final ↔
    ∃ marked, marked.map Prod.fst = writes ∧ TakesAll clock s marked final := by
  induction writes using List.reverseRecOn generalizing final with
  | nil =>
      simp only [takeAll, List.map_eq_nil_iff, Except.ok.injEq, exists_eq_left]
      constructor
      · rintro rfl
        exact .start
      · intro takes
        generalize markedEq : ([] : List (Write × Bool)) = marked at takes
        cases takes with
        | start => rfl
        | last => simp at markedEq
  | append_singleton before w ih =>
      simp only [takeAll_concat, bind_eq_ok_iff, ih, take_eq_ok_iff]
      constructor
      · rintro ⟨middle, ⟨marked, rfl, takesAll⟩, accepted, takes⟩
        exact ⟨marked ++ [(w, accepted)], by simp, .last takesAll takes⟩
      · rintro ⟨_, markedEq, takesAll⟩
        cases takesAll with
        | start => simp at markedEq
        | last takesBefore takes =>
            simp only [List.map_append, List.map_cons, List.map_nil] at markedEq
            obtain ⟨rfl, lastEq⟩ := List.append_inj' markedEq rfl
            obtain rfl := List.singleton_inj.mp lastEq
            exact ⟨_, ⟨_, rfl, takesBefore⟩, _, takes⟩

/-! ## The verdicts of a batch -/

section Verdicts

variable {marked : List (Write × Bool)} {t : Table}

/-- The refused writes are named in the order of the batch. -/
theorem TakesAll.failed_eq (takesAll : TakesAll clock s marked final) :
    final.result.failed.map (fun rejection => (rejection.ticket, rejection.id)) =
      s.result.failed.map (fun rejection => (rejection.ticket, rejection.id)) ++
        (refusedOf marked).map fun w => (some w.ticket, w.id) := by
  induction takesAll with
  | start => simp [refusedOf]
  | last before takes ih =>
      cases takes with
      | accepts _ applied =>
          rw [(applies_of_apply applied).2.failed, ih,
            refusedOf_concat_true]
      | skips _ => simp [refuse, ih]
      | refuses _ _ => simp [refuse, ih]

/-- Every accepted write counts once. -/
theorem TakesAll.total_eq (takesAll : TakesAll clock s marked final) :
    final.result.total = s.result.total + (acceptedOf marked).length := by
  induction takesAll with
  | start => simp [acceptedOf]
  | last before takes ih =>
      cases takes with
      | accepts _ applied =>
          rw [(applies_of_apply applied).2.total, ih]
          simp [Nat.add_assoc]
      | skips _ => simpa [refuse, Writes.BulkResult.total] using ih
      | refuses _ _ => simpa [refuse, Writes.BulkResult.total] using ih

/-- Only identifiers of the batch are refused. -/
theorem TakesAll.refused_eq_none (takesAll : TakesAll clock s marked final)
    {id : String} (before : Keyed.get? id s.refused = none)
    (other : id ∉ marked.map (·.1.id)) : Keyed.get? id final.refused = none := by
  induction takesAll with
  | start => exact before
  | last takesBefore takes ih =>
      rw [List.map_append, List.mem_append, not_or] at other
      have earlier := ih other.1
      cases takes with
      | accepts _ applied =>
          rwa [(applies_of_apply applied).2.refused]
      | skips _ => exact earlier
      | refuses _ _ =>
          rw [Keyed.get?_put_of_ne fun same => other.2 (by simp [same])]
          exact earlier

/-- Once a write of an identifier is refused, so is every later one. -/
theorem TakesAll.forGood (takesAll : TakesAll clock s marked final) :
    marked.Pairwise fun earlier later =>
      earlier.1.id = later.1.id → earlier.2 = false → later.2 = false := by
  have both : (∀ earlier ∈ marked, earlier.2 = false →
      Keyed.get? earlier.1.id final.refused ≠ none) ∧ marked.Pairwise fun earlier later =>
        earlier.1.id = later.1.id → earlier.2 = false → later.2 = false := by
    induction takesAll with
    | start => simp
    | @last marked middle next w accepted before takes ih =>
        obtain ⟨known, pairwise⟩ := ih
        have mono := takes.refused_mono
        constructor
        · intro earlier earlierMem refused
          rcases List.mem_append.mp earlierMem with first | last
          · exact mono _ (Or.inl (known earlier first refused))
          · rw [List.mem_singleton.mp last] at refused ⊢
            exact mono _ (Or.inr ⟨refused, rfl⟩)
        · refine List.pairwise_append.mpr ⟨pairwise, List.pairwise_singleton _ _, ?_⟩
          simp only [List.mem_singleton, forall_eq]
          intro earlier earlierMem sameId refused
          cases takes with
          | accepts admitted _ =>
              exact absurd (sameId ▸ admitted) (known earlier earlierMem refused)
          | skips _ => rfl
          | refuses _ _ => rfl
  exact both.2

/-- The accepted writes alone do the same to the table. -/
theorem TakesAll.takeAll_acceptedOf (takesAll : TakesAll clock s marked final) :
    s.forget.takeAll clock (acceptedOf marked) = .ok final.forget := by
  induction takesAll with
  | start => rfl
  | @last marked middle next w accepted before takes ih =>
      cases takes with
      | accepts admitted applied =>
          have again : middle.forget.take clock w = .ok next.forget := by
            have fresh : Keyed.get? w.id middle.forget.refused = none := rfl
            simp [take, fresh, apply_forget, applied, Functor.map, Except.map]
          rw [acceptedOf_concat_true, takeAll_concat, ih]
          exact again
      | skips _ =>
          rw [acceptedOf_concat_false, ih]
          rfl
      | refuses _ _ =>
          rw [acceptedOf_concat_false, ih]
          rfl

end Verdicts

end Session

/-! ## Upserts -/

section Upsert

variable {clock : Clock} {t : Table} {marked : List (Write × Bool)} {final : Session}

theorem upsert_eq_of_takesAll (takesAll : (Session.start t).TakesAll clock marked final) :
    t.upsert clock (marked.map Prod.fst) = (final.table, .ok final.result) := by
  have taken := Session.takeAll_eq_ok_iff.mpr ⟨marked, rfl, takesAll⟩
  simp only [Table.upsert, taken]

/-- How many writes of a batch were accepted at a moment when their identifier had no row. -/
def creationsOf (clock : Clock) (t : Table) (marked : List (Write × Bool)) : Nat :=
  marked.zipIdx.countP fun ((w, accepted), place) =>
    accepted && ((t.upsert clock ((marked.take place).map Prod.fst)).1.row? w.id).isNone

theorem creationsOf_concat (w : Write) (accepted : Bool) :
    creationsOf clock t (marked ++ [(w, accepted)]) = creationsOf clock t marked +
      if accepted && ((t.upsert clock (marked.map Prod.fst)).1.row? w.id).isNone then 1 else 0 := by
  have before : ∀ place < marked.length,
      (marked ++ [(w, accepted)]).take place = marked.take place :=
    fun place less => List.take_append_of_le_length (Nat.le_of_lt less)
  simp only [creationsOf, List.zipIdx_append, List.countP_append]
  congr 1
  · apply List.countP_congr
    rintro ⟨⟨v, verdict⟩, place⟩ placeMem
    rw [before place (by simpa using List.snd_lt_of_mem_zipIdx placeMem)]
  · simp [List.countP_singleton]

/-- The writes that were inserts are those whose identifier had no row. -/
theorem inserted_eq_creationsOf (takesAll : (Session.start t).TakesAll clock marked final) :
    final.result.inserted = creationsOf clock t marked := by
  induction takesAll with
  | start => rfl
  | last before takes ih =>
      rw [creationsOf_concat, upsert_eq_of_takesAll before]
      cases takes with
      | accepts _ applied =>
          rw [(Session.applies_of_apply applied).2.inserted, ih, Bool.true_and]
      | skips _ => simpa [Session.refuse] using ih
      | refuses _ _ => simpa [Session.refuse] using ih

/-- The verdicts of an upsert on the writes of its batch, in order. -/
structure Verdicts (clock : Clock) (t after : Table) (result : Writes.BulkResult)
    (marked : List (Write × Bool)) : Prop where
  failed : result.failed.map (fun rejection => (rejection.ticket, rejection.id)) =
    (refusedOf marked).map fun w => (some w.ticket, w.id)
  total : result.inserted + result.modified = (acceptedOf marked).length
  inserted : result.inserted = creationsOf clock t marked
  /-- Once a write of an identifier is refused, so is every later one. -/
  forGood : marked.Pairwise fun earlier later =>
    earlier.1.id = later.1.id → earlier.2 = false → later.2 = false
  /-- The accepted writes alone leave the same table, and none of them is refused then. -/
  noTrace : t.upsert clock (acceptedOf marked) =
    (after, .ok ⟨result.inserted, result.modified, []⟩)

/-- An upsert that returns has a verdict on each write. -/
theorem upsert_eq_ok_iff {writes : List Write} {after : Table} {result : Writes.BulkResult} :
    t.upsert clock writes = (after, .ok result) ↔ ∃ marked final, marked.map Prod.fst = writes ∧
      (Session.start t).TakesAll clock marked final ∧ final.table = after ∧
      final.result = result := by
  unfold Table.upsert
  cases taken : (Session.start t).takeAll clock writes with
  | error why =>
      simp only [Prod.mk.injEq, reduceCtorEq, and_false, false_iff]
      rintro ⟨marked, final, markedEq, takesAll, -, -⟩
      rw [Session.takeAll_eq_ok_iff.mpr ⟨marked, markedEq, takesAll⟩] at taken
      cases taken
  | ok final =>
      simp only [Prod.mk.injEq, Except.ok.injEq]
      constructor
      · rintro ⟨rfl, rfl⟩
        obtain ⟨marked, markedEq, takesAll⟩ := Session.takeAll_eq_ok_iff.mp taken
        exact ⟨marked, final, markedEq, takesAll, rfl, rfl⟩
      · rintro ⟨marked, other, markedEq, takesAll, rfl, rfl⟩
        rw [Session.takeAll_eq_ok_iff.mpr ⟨marked, markedEq, takesAll⟩] at taken
        obtain rfl := Except.ok.inj taken
        exact ⟨rfl, rfl⟩

theorem verdicts_of_takesAll (takesAll : (Session.start t).TakesAll clock marked final) :
    Verdicts clock t final.table final.result marked := by
  have alone : (Session.start t).takeAll clock (acceptedOf marked) = .ok final.forget :=
    takesAll.takeAll_acceptedOf
  constructor
  · simpa [Session.start] using takesAll.failed_eq
  · simpa [Session.start, Writes.BulkResult.total] using takesAll.total_eq
  · exact inserted_eq_creationsOf takesAll
  · exact takesAll.forGood
  · simp only [Table.upsert, alone, Session.forget]

/-- Rejected writes leave no trace, and an error of another kind leaves nothing. When an upsert
returns, every write of the batch was accepted or refused: the refused ones are named in order, the
accepted ones are counted, as inserts exactly where the identifier had no row at that moment, and
they leave the same table without the others. When it does not return, the table is as it was. -/
theorem upsert_leaves_no_trace (clock : Clock) (writes : List Write) (t : Table) :
    match t.upsert clock writes with
    | (after, .ok result) =>
      ∃ marked, marked.map Prod.fst = writes ∧ Verdicts clock t after result marked
    | (after, .error _) => after = t := by
  split
  · rename_i after result upserted
    obtain ⟨marked, final, markedEq, takesAll, rfl, rfl⟩ := upsert_eq_ok_iff.mp upserted
    exact ⟨marked, markedEq, verdicts_of_takesAll takesAll⟩
  · rename_i after why upserted
    unfold Table.upsert at upserted
    split at upserted
    · simp at upserted
    · exact (Prod.mk.inj upserted).1.symm

/-- Two customers with one address, a phone number for the second, and a customer with an
address of their own. -/
def sharedAddress : List Write :=
  [⟨0, "alice", ⟨[("name", .text "Alice"), ("email", .text "us@example.com")], []⟩, 0⟩,
    ⟨1, "bob", ⟨[("name", .text "Bob"), ("email", .text "us@example.com")], []⟩, 0⟩,
    ⟨2, "bob", ⟨[("phone", .text "555")], []⟩, 0⟩,
    ⟨3, "carol", ⟨[("name", .text "Carol"), ("email", .text "carol@example.com")], []⟩, 0⟩]

/-- The second customer is refused and so is the phone number. The batch leaves the table that the
other two writes leave alone. -/
theorem sharedAddress_leaves_no_trace :
    let clock : Clock := ⟨⟨2024, 6, 1⟩, 12, 0, 0, 0, some 0⟩
    let customers := Table.empty customerSchema
    ∃ after result, customers.upsert clock sharedAddress = (after, .ok result) ∧
      result.failed.map (fun rejection => (rejection.ticket, rejection.id)) =
        [(some 1, "bob"), (some 2, "bob")] ∧ result.inserted = 2 ∧ result.modified = 0 ∧
      customers.upsert clock (sharedAddress.filter fun w => w.id ≠ "bob") =
      (after, .ok ⟨2, 0, []⟩) ∧
      after.rows.map Row.id = ["alice", "carol"] := by
  intro clock customers
  have leaves := upsert_leaves_no_trace clock sharedAddress customers
  have computed : (customers.upsert clock sharedAddress).2.map (fun result =>
      (result.failed.map (fun rejection => (rejection.ticket, rejection.id)), result.inserted,
        result.modified)) =
      .ok ([(some 1, "bob"), (some 2, "bob")], 2, 0) := by decide +kernel
  have rows : (customers.upsert clock sharedAddress).1.rows.map Row.id = ["alice", "carol"] := by
    decide +kernel
  cases upserted : customers.upsert clock sharedAddress with
  | mk after outcome =>
      rw [upserted] at leaves computed rows
      cases outcome with
      | error why => cases computed
      | ok result =>
          obtain ⟨marked, markedEq, verdicts⟩ := leaves
          simp only [Except.map, Except.ok.injEq, Prod.mk.injEq] at computed
          obtain ⟨failed, inserted, modified⟩ := computed
          refine ⟨after, result, rfl, failed, inserted, modified, ?_, rows⟩
          -- The refused writes are those that the result names, so the others are accepted.
          have refused : (refusedOf marked).map Write.ticket = [1, 2] := by
            have tickets := congrArg (List.filterMap Prod.fst) (verdicts.failed.symm.trans failed)
            simpa [List.filterMap_map, Function.comp_def] using tickets
          have accepted : acceptedOf marked = sharedAddress.filter fun w => w.id ≠ "bob" := by
            simp only [sharedAddress, List.map_eq_cons_iff, List.map_eq_nil_iff] at markedEq
            obtain ⟨⟨_, a⟩, _, rfl, rfl, ⟨_, b⟩, _, rfl, rfl, ⟨_, c⟩, _, rfl, rfl,
              ⟨_, d⟩, _, rfl, rfl, rfl⟩ := markedEq
            cases a <;> cases b <;> cases c <;> cases d <;> first | rfl | cases refused
          rw [← accepted, verdicts.noTrace, inserted, modified]

end Upsert

end Outreach.Store
