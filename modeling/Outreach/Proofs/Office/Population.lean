import Mathlib.Data.List.Forall2
import Outreach.Proofs.Audience.Nodes
import Outreach.Proofs.Office.Tasks

/-!
# Who belongs to an audience

The customers are looked at in the order in which they were created, and of their identifiers where
they were created at the same time. A rule decides on each of them alone, so its audience is a part
of them in that order.
-/

namespace Outreach

/-! ## Sorting twice -/

/-- A sort keeps the order of the list where it makes no difference itself. -/
theorem pairwise_mergeSort_of_ties {α : Type} {le : α → α → Bool} {tie : α → α → Prop}
    (trans : ∀ a b c, le a b = true → le b c = true → le a c = true)
    (total : ∀ a b, (le a b || le b a) = true) (refl : ∀ a, tie a a) {items : List α}
    (ordered : items.Pairwise tie) :
    (items.mergeSort le).Pairwise fun a b => le a b = true ∧ (le b a = true → tie a b) := by
  rw [← List.mergeSort_zipIdx, List.pairwise_map]
  have sorted := List.pairwise_mergeSort (List.zipIdxLE_trans trans) (List.zipIdxLE_total total)
    items.zipIdx
  refine sorted.imp_of_mem ?_
  rintro ⟨a, i⟩ ⟨b, j⟩ aMem bMem before
  rw [List.mem_mergeSort, List.mem_zipIdx_iff_getElem?] at aMem bMem
  unfold List.zipIdxLE at before
  split at before
  · rename_i less
    refine ⟨less, fun greater => ?_⟩
    rw [if_pos greater, decide_eq_true_eq] at before
    obtain ⟨iLess, aEq⟩ := List.getElem?_eq_some_iff.mp aMem
    obtain ⟨jLess, bEq⟩ := List.getElem?_eq_some_iff.mp bMem
    simp only at before aEq bEq ⊢
    rcases Nat.lt_or_eq_of_le before with first | rfl
    · rw [← aEq, ← bEq]
      exact List.pairwise_iff_getElem.mp ordered i j iLess jLess first
    · rw [← aEq, ← bEq]
      exact refl _
  · cases before

namespace Store

namespace Row

theorem notLater_trans (column : String) (a b c : Row) (first : a.notLater column b = true)
    (second : b.notLater column c = true) : a.notLater column c = true := by
  unfold notLater at first second ⊢
  cases aTime : a.timeCell? column with
  | none => rfl
  | some x =>
      cases bTime : b.timeCell? column with
      | none => simp [aTime, bTime] at first
      | some y =>
          cases cTime : c.timeCell? column with
          | none => simp [bTime, cTime] at second
          | some z =>
              simp only [aTime, bTime, cTime] at first second ⊢
              grind

theorem notLater_total (column : String) (a b : Row) :
    (a.notLater column b || b.notLater column a) = true := by
  unfold notLater
  cases a.timeCell? column with
  | none => rfl
  | some x =>
      cases b.timeCell? column with
      | none => rfl
      | some y =>
          simp only
          grind

theorem idNotAfter_iff {a b : Row} : a.idNotAfter b = true ↔ a.id ≤ b.id := by
  rw [idNotAfter, Bool.not_eq_true', decide_eq_false_iff_not, String.not_lt]

/-- The row was created first, or both at the same time and its identifier is
not after the other. -/
def CreatedBefore (a b : Row) : Prop :=
  a.notLater "created_at" b = true ∧ (b.notLater "created_at" a = true → a.id ≤ b.id)

end Row

theorem byId_pairwise (rows : List Row) : (byId rows).Pairwise fun a b => a.id ≤ b.id := by
  have trans (a b c : Row) (first : a.idNotAfter b = true) (second : b.idNotAfter c = true) :
      a.idNotAfter c = true := by
    rw [Row.idNotAfter_iff] at first second ⊢
    exact String.le_trans first second
  have total (a b : Row) : (a.idNotAfter b || b.idNotAfter a) = true := by
    rw [Bool.or_eq_true, Row.idNotAfter_iff, Row.idNotAfter_iff]
    exact String.le_total a.id b.id
  exact (List.pairwise_mergeSort trans total rows).imp Row.idNotAfter_iff.mp

end Store

open Store

namespace Task

theorem customersByAge_perm (t : Table) : (customersByAge t).Perm t.rows :=
  (List.mergeSort_perm _ _).trans (List.mergeSort_perm _ _)

theorem customersByAge_pairwise (t : Table) : (customersByAge t).Pairwise Row.CreatedBefore :=
  pairwise_mergeSort_of_ties (Row.notLater_trans "created_at") (Row.notLater_total "created_at")
    (fun row => String.le_refl row.id) (byId_pairwise t.rows)

end Task

/-! ## Records -/

theorem readRows_eq_ok_iff {t : Table} {rows : List Row} {found : List Fields} :
    t.readRows rows = .ok found ↔
      List.Forall₂ (fun row fields => t.readRow row = .ok fields) rows found := by
  induction rows generalizing found with
  | nil => simp [Table.readRows, eq_comm]
  | cons row rest ih =>
      rw [Table.readRows, bind_eq_ok_iff, List.forall₂_cons_left_iff]
      constructor
      · rintro ⟨fields, read, restRead⟩
        obtain ⟨others, othersRead, foundEq⟩ := bind_eq_ok_iff.mp restRead
        exact ⟨fields, others, read, ih.mp othersRead, (Except.ok.inj foundEq).symm⟩
      · rintro ⟨fields, others, read, othersRead, rfl⟩
        exact ⟨fields, read, bind_eq_ok_iff.mpr ⟨others, ih.mpr othersRead, rfl⟩⟩

theorem mem_readRows_iff {t : Table} {rows : List Row} {found : List Fields}
    (read : t.readRows rows = .ok found)
    {fields : Fields} : fields ∈ found ↔ ∃ row ∈ rows, t.readRow row = .ok fields := by
  rw [readRows_eq_ok_iff] at read
  induction read with
  | nil => simp
  | @cons row first rest others firstRead _ ih =>
      constructor
      · intro mem
        rcases List.mem_cons.mp mem with rfl | inRest
        · exact ⟨row, List.mem_cons_self, firstRead⟩
        · rcases ih.mp inRest with ⟨other, otherMem, otherRead⟩
          exact ⟨other, List.mem_cons_of_mem _ otherMem, otherRead⟩
      · rintro ⟨other, otherMem, otherRead⟩
        rcases List.mem_cons.mp otherMem with rfl | inRest
        · rw [firstRead] at otherRead
          cases otherRead
          exact List.mem_cons_self
        · exact List.mem_cons_of_mem _ (ih.mpr ⟨other, inRest, otherRead⟩)

namespace Audience

/-- The record is that of a stored customer. -/
def IsRecordOf (t : Table) (row : Row) (record : Value) : Prop :=
  ∃ fields, t.readRow row = .ok fields ∧ record = customerRecord fields

/-- The rule is true of the record of a stored customer. It is not when it cannot be evaluated. -/
def reaches (rule : Value) (t : Table) (row : Row) : Bool :=
  match t.readRow row with
  | .ok fields => belongs rule (customerRecord fields)
  | .error _ => false

/-- The audience among the records of some rows is that of the rows that the rule reaches. -/
theorem audience_forall₂ {rule : Value} {t : Table} {rows : List Row} {found : List Fields}
    (read : t.readRows rows = .ok found) :
    List.Forall₂ (IsRecordOf t) (rows.filter (reaches rule t))
      (audience rule (found.map customerRecord)) := by
  rw [readRows_eq_ok_iff] at read
  unfold audience
  induction read with
  | nil => exact .nil
  | @cons row fields rest others rowRead _ ih =>
      have verdict : reaches rule t row = belongs rule (customerRecord fields) := by
        simp only [reaches, rowRead]
      rw [List.filter_cons, List.map_cons, List.filter_cons, verdict]
      split
      · exact .cons ⟨fields, rowRead, rfl⟩ ih
      · exact ih

end Audience

/-! ## Looking for an audience -/

namespace Task

variable {o after : Office} {rule : Value} {records : List Value}

theorem perform_population_eq_ok_iff : perform population o = (.ok records, after) ↔
    o.outage = none ∧ ∃ found,
      (o.table .customers).readRows (customersByAge (o.table .customers)) = .ok found ∧
      records = found.map customerRecord ∧ after = o := by
  unfold population
  rw [perform_get_bind]
  dsimp only
  cases o.outage with
  | some reason =>
      simp only [reduceCtorEq, false_and, iff_false]
      intro refused
      cases refused
  | none =>
      cases (o.table .customers).readRows (customersByAge (o.table .customers)) with
      | error cell =>
          simp only [reduceCtorEq, false_and, exists_false, and_false, iff_false]
          intro refused
          cases refused
      | ok found => simp [perform_pure_eq_ok_iff]

theorem perform_audience_eq_ok_iff : perform (audience rule) o = (.ok records, after) ↔
    ∃ everyone, perform population o = (.ok everyone, after) ∧
      records = Audience.audience rule everyone := by
  unfold audience
  rw [perform_bind_eq_ok_iff]
  simp only [perform_pure_eq_ok_iff]
  constructor
  · rintro ⟨everyone, middle, found, rfl, rfl⟩
    exact ⟨everyone, found, rfl⟩
  · rintro ⟨everyone, found, rfl⟩
    exact ⟨everyone, after, found, rfl, rfl⟩

/-- Only the customers make an audience. -/
theorem perform_audience_congr {other : Office} (outage : other.outage = o.outage)
    (customers : other.table .customers = o.table .customers) :
    perform (audience rule) other = (.ok records, other) ↔
    perform (audience rule) o = (.ok records, o) := by
  simp only [perform_audience_eq_ok_iff, perform_population_eq_ok_iff, outage, customers, and_true]

/-- The records that were found are those of the stored customers that a rule reaches, each once and
in the order in which they were created. -/
structure Finds (rule : Value) (t : Table) (members : List Row) (records : List Value) : Prop where
  all : members.Perm (t.rows.filter (Audience.reaches rule t))
  ordered : members.Pairwise Row.CreatedBefore
  records : List.Forall₂ (Audience.IsRecordOf t) members records

theorem finds_of_audience (found : perform (audience rule) o = (.ok records, after)) :
    after = o ∧ ∃ members, Finds rule (o.table .customers) members records := by
  obtain ⟨everyone, populated, rfl⟩ := perform_audience_eq_ok_iff.mp found
  obtain ⟨-, fields, read, rfl, rfl⟩ := perform_population_eq_ok_iff.mp populated
  refine ⟨rfl, (customersByAge (after.table .customers)).filter
    (Audience.reaches rule (after.table .customers)), ?_, ?_, ?_⟩
  · exact (customersByAge_perm _).filter _
  · exact (customersByAge_pairwise _).filter _
  · exact Audience.audience_forall₂ read

end Task

end Outreach
