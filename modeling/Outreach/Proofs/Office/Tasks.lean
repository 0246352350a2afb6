import Outreach.Office.Task
import Outreach.Proofs.Store.Rows

/-!
# What a task does when it succeeds

A task that consists of two succeeds when both do, one after the other. Of the small tasks
that every service is made of it is said here when they succeed, with which value, and what
they change of the office.
-/

namespace Outreach

namespace Task

variable {α β : Type} {o after : Office}

theorem perform_pure_eq_ok_iff {value result : α} :
    perform (pure value) o = (.ok result, after) ↔ result = value ∧ after = o := by
  rw [show perform (pure value) o = (.ok value, o) from rfl]
  simp [eq_comm]

/-- A task of two does the second with the value of the first, unless that has a setback. -/
theorem perform_bind (task : Task α) (next : α → Task β) (o : Office) :
    perform (task >>= next) o = match perform task o with
      | (.error setback, middle) => (.error setback, middle)
      | (.ok first, middle) => perform (next first) middle := by
  change ExceptT.run (task >>= next) o = _
  rw [ExceptT.run_bind]
  simp only [perform, bind, StateT.bind]
  rcases ExceptT.run task o with ⟨_ | _, _⟩ <;> rfl

theorem perform_bind_eq_ok_iff {task : Task α} {next : α → Task β} {value : β} :
    perform (task >>= next) o = (.ok value, after) ↔ ∃ first middle,
      perform task o = (.ok first, middle) ∧ perform (next first) middle = (.ok value, after) := by
  rw [perform_bind]
  rcases perform task o with ⟨_ | first, middle⟩
  · simp
  · simp only [Prod.mk.injEq, Except.ok.injEq]
    constructor
    · exact fun ran => ⟨first, middle, ⟨rfl, rfl⟩, ran⟩
    · rintro ⟨_, _, ⟨rfl, rfl⟩, ran⟩
      exact ran

/-- Reading the office changes nothing. -/
theorem perform_get_bind (next : Office → Task β) (o : Office) :
    perform (get >>= next) o = perform (next o) o := rfl

theorem perform_now (o : Office) : perform now o = (.ok o.clock, o) := rfl

theorem perform_now_eq_ok_iff {time : DateTime} :
    perform now o = (.ok time, after) ↔ time = o.clock ∧ after = o := by
  rw [perform_now]
  simp [eq_comm]

theorem perform_drawId (o : Office) : perform drawId o =
    (.ok (Office.identifier (o.drawn + 1)), { o with drawn := o.drawn + 1 }) := rfl

theorem perform_drawId_eq_ok_iff {id : String} : perform drawId o = (.ok id, after) ↔
    id = Office.identifier (o.drawn + 1) ∧ after = { o with drawn := o.drawn + 1 } := by
  rw [perform_drawId]
  simp [eq_comm]

/-- What it is to queue a write: a write that is refused changes nothing. -/
theorem perform_queueWrite (c : Collection) (id : String) (patch : Writes.Patch) (o : Office) :
    perform (queueWrite c id patch) o = match (o.processor c).enqueue 0 id patch with
      | .ok p => (.ok (), { o with processors := o.processors.set c p })
      | .error refusal => (.error (.failure (.refused refusal)), o) := by
  unfold queueWrite
  rw [perform_get_bind]
  unfold Office.enqueue
  cases (o.processor c).enqueue 0 id patch <;> rfl

theorem perform_queueWrite_eq_ok_iff {c : Collection} {id : String} {patch : Writes.Patch}
    {done : Unit} : perform (queueWrite c id patch) o = (.ok done, after) ↔ ∃ p,
      (o.processor c).enqueue 0 id patch = .ok p ∧
      after = { o with processors := o.processors.set c p } := by
  rw [perform_queueWrite]
  cases (o.processor c).enqueue 0 id patch <;> simp [eq_comm]

theorem perform_readRows_eq_ok_iff {t : Store.Table} {rows : List Store.Row} {found : List Fields} :
    perform (readRows t rows) o = (.ok found, after) ↔ t.readRows rows = .ok found ∧ after = o := by
  unfold readRows
  cases t.readRows rows with
  | error cell =>
      simp only [reduceCtorEq, false_and, iff_false]
      intro failed
      cases failed
  | ok rows =>
      rw [perform_pure_eq_ok_iff]
      simp [eq_comm]

theorem perform_outline_eq_ok_iff {rule : Value} {text : String} :
    perform (outline rule) o = (.ok text, after) ↔
      (Audience.Rule.ofValue rule).outline 0 = .ok text ∧ after = o := by
  unfold outline
  cases (Audience.Rule.ofValue rule).outline 0 with
  | error fault =>
      simp only [reduceCtorEq, false_and, iff_false]
      intro failed
      cases failed
  | ok written =>
      rw [perform_pure_eq_ok_iff]
      simp [eq_comm]

theorem perform_select_eq_ok_iff {c : Collection} {query : Store.Table → List Store.Row}
    {found : List Fields} : perform (select c query) o = (.ok found, after) ↔
      (o.table c).readRows (query (o.table c)) = .ok found ∧ after = o := by
  rw [show perform (select c query) o =
    perform (readRows (o.table c) (query (o.table c))) o from rfl]
  exact perform_readRows_eq_ok_iff

/-- A row that is found is there and can be read. -/
theorem perform_find_eq_ok_some_iff {c : Collection} {id : String} {fields : Fields} :
    perform (find c id) o = (.ok (some fields), after) ↔ ∃ row,
      (o.table c).row? id = some row ∧ (o.table c).readRow row = .ok fields ∧ after = o := by
  unfold find selectFirst
  simp only [perform_bind_eq_ok_iff, perform_select_eq_ok_iff, perform_pure_eq_ok_iff]
  cases (o.table c).row? id with
  | none =>
      simp only [reduceCtorEq, false_and, exists_false, iff_false]
      rintro ⟨rows, _, ⟨noRows, rfl⟩, found, rfl⟩
      obtain rfl : [] = rows := Except.ok.inj noRows
      cases found
  | some row =>
      constructor
      · rintro ⟨rows, _, ⟨read, rfl⟩, found, rfl⟩
        obtain ⟨first, firstRead, rest⟩ := bind_eq_ok_iff.mp read
        obtain ⟨_, _, rowsEq⟩ := bind_eq_ok_iff.mp rest
        obtain rfl := Except.ok.inj rowsEq
        obtain rfl := Option.some.inj found
        exact ⟨row, rfl, firstRead, rfl⟩
      · rintro ⟨_, ⟨rfl⟩, read, rfl⟩
        refine ⟨[fields], _, ⟨?_, rfl⟩, rfl, rfl⟩
        simp [Store.Table.readRows, read, bind, Except.bind]

/-- No row is found only where there is none. -/
theorem perform_find_eq_ok_none {c : Collection} {id : String}
    (found : perform (find c id) o = (.ok none, after)) : (o.table c).row? id = none := by
  unfold find selectFirst at found
  simp only [perform_bind_eq_ok_iff, perform_select_eq_ok_iff, perform_pure_eq_ok_iff] at found
  obtain ⟨rows, middle, ⟨read, rfl⟩, noRow, -⟩ := found
  cases missing : (middle.table c).row? id with
  | none => rfl
  | some row =>
      rw [missing] at read
      obtain ⟨_, _, rest⟩ := bind_eq_ok_iff.mp read
      obtain ⟨_, _, rowsEq⟩ := bind_eq_ok_iff.mp rest
      obtain rfl := Except.ok.inj rowsEq
      cases noRow

/-- What it is to select a first row: nothing changes, and all rows that are selected are read. -/
theorem perform_selectFirst (c : Collection) (query : Store.Table → List Store.Row) (o : Office) :
    perform (selectFirst c query) o = (match (o.table c).readRows (query (o.table c)) with
      | .ok rows => .ok rows.head?
      | .error cell => .error (.unreadable cell), o) := by
  unfold selectFirst
  rw [perform_bind, show perform (select c query) o =
    perform (readRows (o.table c) (query (o.table c))) o from rfl]
  unfold readRows
  cases (o.table c).readRows (query (o.table c)) <;> rfl

/-- What it is to look for a row: nothing changes, and a row that is there is read. -/
theorem perform_find (c : Collection) (id : String) (o : Office) :
    perform (find c id) o = (match (o.table c).row? id with
      | none => .ok none
      | some row => match (o.table c).readRow row with
        | .ok fields => .ok (some fields)
        | .error cell => .error (.unreadable cell), o) := by
  unfold find
  rw [perform_selectFirst]
  cases found : (o.table c).row? id with
  | none => rfl
  | some row =>
      simp only [Option.toList_some, Store.Table.readRows]
      cases read : (o.table c).readRow row with
      | error cell => rfl
      | ok fields => rfl

/-- What it is to demand a row: nothing changes, and without a row there is a failure. -/
theorem perform_demand (c : Collection) (resource id : String) (o : Office) :
    perform (demand c resource id) o = (match (o.table c).row? id with
      | none => .error (.failure (.notFound resource id))
      | some row => match (o.table c).readRow row with
        | .ok fields => .ok fields
        | .error cell => .error (.unreadable cell), o) := by
  unfold demand
  rw [perform_bind, perform_find]
  cases found : (o.table c).row? id with
  | none => rfl
  | some row =>
      cases read : (o.table c).readRow row with
      | error cell => simp only [read]
      | ok fields =>
          simp only [read]
          rfl

/-- A row that is demanded is there and can be read. -/
theorem perform_demand_eq_ok_iff {c : Collection} {resource id : String} {fields : Fields} :
    perform (demand c resource id) o = (.ok fields, after) ↔ ∃ row,
      (o.table c).row? id = some row ∧ (o.table c).readRow row = .ok fields ∧ after = o := by
  unfold demand
  rw [perform_bind_eq_ok_iff, ← perform_find_eq_ok_some_iff]
  constructor
  · rintro ⟨_ | row, middle, found, given⟩
    · cases given
    · obtain ⟨rfl, rfl⟩ := perform_pure_eq_ok_iff.mp given
      exact found
  · exact fun found => ⟨some fields, after, found, rfl⟩

end Task

/-- The identifier of a row that was read. -/
theorem textField_id_of_readRow {t : Store.Table} {row : Store.Row} {fields : Fields}
    (read : t.readRow row = .ok fields) : textField "id" fields = row.id := by
  obtain ⟨cells, _, fieldsEq⟩ := bind_eq_ok_iff.mp read
  obtain rfl := Except.ok.inj fieldsEq
  rfl

namespace Task

variable {o after : Office} {c : Collection} {given fields : Fields}

/-- What it leaves behind to insert a row: the row is there under the next identifier, and no other
table has changed. -/
structure Inserted (c : Collection) (fields : Fields) (o after : Office) : Prop where
  id : textField "id" fields = Office.identifier (o.drawn + 1)
  stored : ∃ row, (after.table c).row? (Office.identifier (o.drawn + 1)) = some row ∧
    (after.table c).readRow row = .ok fields
  frame : ∃ t, after = { o with drawn := o.drawn + 1, tables := o.tables.set c t }

/-- A row that was inserted is read back under its identifier. -/
theorem perform_insert_eq_ok_iff : perform (insert c given) o = (.ok fields, after) ↔ ∃ t row,
    (o.table c).insert o.clock (Office.identifier (o.drawn + 1)) given = .ok t ∧
      t.row? (Office.identifier (o.drawn + 1)) = some row ∧ t.readRow row = .ok fields ∧
      after = { o with drawn := o.drawn + 1, tables := o.tables.set c t } := by
  have stored (t : Store.Table) :
      Office.table c { o with drawn := o.drawn + 1, tables := o.tables.set c t } = t :=
    PerCollection.get_set_self c t o.tables
  unfold insert
  rw [perform_bind_eq_ok_iff]
  constructor
  · rintro ⟨_, _, drawn, ran⟩
    obtain ⟨rfl, rfl⟩ := perform_drawId_eq_ok_iff.mp drawn
    rw [perform_get_bind] at ran
    split at ran
    · cases ran
    · rename_i t inserted
      obtain ⟨_, middle, set, ran⟩ := perform_bind_eq_ok_iff.mp ran
      cases set
      obtain ⟨found?, _, found, given⟩ := perform_bind_eq_ok_iff.mp ran
      obtain ⟨rfl, rfl⟩ := perform_pure_eq_ok_iff.mp given
      cases found? with
      | none =>
          have missing := perform_find_eq_ok_none found
          obtain ⟨_, bound, _, _, _, rfl⟩ := Store.Table.insert_eq_ok_iff.mp inserted
          rw [stored] at missing
          simp [Store.Table.row?_append, Store.Table.newRow] at missing
      | some fields =>
          obtain ⟨row, rowEq, read, rfl⟩ := perform_find_eq_ok_some_iff.mp found
          rw [stored] at rowEq read
          exact ⟨t, row, inserted, rowEq, read, rfl⟩
  · rintro ⟨t, row, inserted, rowEq, read, rfl⟩
    refine ⟨_, _, perform_drawId_eq_ok_iff.mpr ⟨rfl, rfl⟩, ?_⟩
    have again : Store.Table.insert o.clock (Office.identifier (o.drawn + 1)) given
        (Office.table c { o with drawn := o.drawn + 1 }) = .ok t := inserted
    rw [perform_get_bind]
    simp only [again]
    refine perform_bind_eq_ok_iff.mpr
      ⟨(), { o with drawn := o.drawn + 1, tables := o.tables.set c t }, rfl, ?_⟩
    refine perform_bind_eq_ok_iff.mpr ⟨some fields, _, perform_find_eq_ok_some_iff.mpr ?_, rfl⟩
    rw [stored]
    exact ⟨row, rowEq, read, rfl⟩

theorem inserted_of_insert (ran : perform (insert c given) o = (.ok fields, after)) :
    Inserted c fields o after := by
  obtain ⟨t, row, -, rowEq, read, rfl⟩ := perform_insert_eq_ok_iff.mp ran
  have stored : Office.table c { o with drawn := o.drawn + 1, tables := o.tables.set c t } = t :=
    PerCollection.get_set_self c t o.tables
  refine ⟨?_, ⟨row, ?_⟩, t, rfl⟩
  · rw [textField_id_of_readRow read, Store.Table.row?_id rowEq]
  · rw [stored]
    exact ⟨rowEq, read⟩

theorem perform_present_eq_ok_iff {view : Form.View} {seen : Value} :
    perform (present view given) o = (.ok seen, after) ↔
      view.check .top (.map given) = .valid seen ∧ after = o := by
  unfold present
  cases view.check .top (.map given) with
  | valid value =>
      rw [perform_pure_eq_ok_iff]
      simp [eq_comm]
  | invalid problems =>
      simp only [reduceCtorEq, false_and, iff_false]
      intro failed
      cases failed

end Task

end Outreach
