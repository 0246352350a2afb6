import Outreach.Orders
import Outreach.Proofs.Store.Deliveries
import Outreach.Proofs.Store.Statements

/-!
# Customers and their visits

Each order adds to what its customer has spent, counts one more visit and sets the time of the last
one. Every write starts from the fields that are read from the row. They show the same total, up to
the sign of zero, and a last visit without a zone, which is never the time of a new visit. So a
batch adds its visits to the row one after the other.
-/

namespace Outreach

namespace DateTime

/-- The clock shows UTC. -/
def IsUtc (t : DateTime) : Prop := t.offset = some 0

theorem sameTime_refl (t : DateTime) : t.sameTime t = true := by
  simp [sameTime]

end DateTime

namespace Customers

open Store

/-- What an order is for its customer. -/
structure Visit where
  time : DateTime
  amount : Float

/-- The change of the customer that a visit queues. -/
def Visit.patch (visit : Visit) : Writes.Patch := Orders.activity visit.time visit.amount

theorem Visit.patch_injective : Function.Injective patch := by
  rintro ⟨time, amount⟩ ⟨otherTime, otherAmount⟩ same
  simp only [patch, Orders.activity, Writes.Patch.mk.injEq, List.cons.injEq, Prod.mk.injEq,
    Value.time.injEq, Value.float.injEq, true_and, and_true] at same
  rw [same.1, same.2]

/-- What is known of the visits of a customer. -/
structure Activity where
  spent : Float
  visits : Int
  last : DateTime

namespace Activity

/-- One more visit. -/
def add (activity : Activity) (visit : Visit) : Activity :=
  ⟨activity.spent + visit.amount, activity.visits + 1, visit.time⟩

/-- The row of the customer has it. -/
structure Holds (activity : Activity) (row : Row) : Prop where
  spent : row.cell "total_spend" = cellOfFloat activity.spent
  present : cellOfFloat activity.spent ≠ none
  visits : row.cell "visits" = some (.int activity.visits)
  last : ∃ wall, row.cell "last_active" = some (.time wall) ∧
    wall.sameTime activity.last.naive = true

/-- The fields of the customer, as the row reads, have it. -/
structure Shows (activity : Activity) (fields : Fields) : Prop where
  spent : ∃ x, Keyed.get? "total_spend" fields = some (.float x) ∧
    cellOfFloat x = cellOfFloat activity.spent
  visits : Keyed.get? "visits" fields = some (.int activity.visits)
  last : ∃ wall, Keyed.get? "last_active" fields = some (.time wall) ∧ wall.offset = none

variable {activity : Activity} {row : Row} {fields : Fields} {t : Table}

/-- What the row reads as. -/
theorem Holds.shows (holds : activity.Holds row) (schema : t.schema = customerSchema)
    (read : t.readRow row = .ok fields) : activity.Shows fields := by
  have distinct := customerColumns_nodup schema
  obtain ⟨_, spentRead, spentFound⟩ :=
    get?_readRow read distinct (spentColumn_mem schema) (by decide)
  obtain ⟨_, visitsRead, visitsFound⟩ :=
    get?_readRow read distinct (visitsColumn_mem schema) (by decide)
  obtain ⟨_, lastRead, lastFound⟩ := get?_readRow read distinct (lastColumn_mem schema) (by decide)
  obtain ⟨x, xEq, same⟩ := cellOfFloat_eq_some holds.present
  obtain ⟨wall, wallEq, shown⟩ := holds.last
  rw [holds.spent, xEq] at spentRead
  rw [show (countColumn "visits").name = "visits" from rfl, holds.visits] at visitsRead
  rw [wallEq] at lastRead
  obtain rfl := Except.ok.inj spentRead
  obtain rfl := Except.ok.inj visitsRead
  obtain rfl := Except.ok.inj lastRead
  have wallNaive : wall.offset = none := by
    simpa [DateTime.sameTime, DateTime.naive] using (Bool.and_eq_true_iff.mp shown).1
  exact ⟨⟨x, spentFound, same⟩, visitsFound, wall, lastFound, wallNaive⟩

/-- What the fields are after one more visit. -/
structure Adds (activity : Activity) (visit : Visit) (patched : Fields) : Prop where
  spent : ∃ sum, Keyed.get? "total_spend" patched = some (.float sum) ∧
    cellOfFloat sum = cellOfFloat (activity.add visit).spent
  visits : Keyed.get? "visits" patched = some (.int (activity.add visit).visits)
  last : Keyed.get? "last_active" patched = some (.time visit.time)

theorem Shows.adds {visit : Visit} {patched : Fields} (shows : activity.Shows fields)
    (present : cellOfFloat activity.spent ≠ none)
    (applied : visit.patch.applyTo (some fields) = .ok patched) : activity.Adds visit patched := by
  obtain ⟨x, spentFound, same⟩ := shows.spent
  obtain ⟨sum, increased, sumCell⟩ := increase_float (same ▸ present) same visit.amount
  simp only [Visit.patch, Orders.activity, Writes.Patch.applyTo, Keyed.putAll, List.foldl_cons,
    List.foldl_nil, Option.getD_some, Writes.Patch.applyIncrements] at applied
  simp only [ne_eq, String.reduceEq, not_false_eq_true, Keyed.get?_put_of_ne, spentFound,
    shows.visits, Option.getD_some, increased, increase_int, bind, Except.bind,
    Except.ok.injEq] at applied
  subst applied
  exact ⟨⟨sum, by simp, sumCell⟩, by simp [add], by simp⟩

/-- An update that adds a visit. -/
theorem Holds.updates {visit : Visit} {changed : Row} {patched : Fields}
    (holds : activity.Holds row)
    (shows : activity.Shows fields) (utc : visit.time.IsUtc) (adds : activity.Adds visit patched)
    (schema : t.schema = customerSchema) (updates : t.Updates row changed fields patched) :
    (activity.add visit).Holds changed := by
  obtain ⟨x, spentFound, same⟩ := shows.spent
  obtain ⟨sum, sumFound, sumCell⟩ := adds.spent
  obtain ⟨before, lastFound, noZone⟩ := shows.last
  have spentCell : changed.cell "total_spend" = cellOfFloat sum := by
    have kept := updates.kept _ (spentColumn_mem schema) (by decide)
    have written := updates.written _ (spentColumn_mem schema) (by decide)
    simp only [sumFound, spentFound, Option.getD_some] at kept written
    cases agrees : (Value.float sum).agrees (.float x) with
    | true => rw [kept agrees, holds.spent, ← same, cellOfFloat_of_agrees agrees]
    | false => exact (written agrees).of_float rfl
  have visitsCell : changed.cell "visits" = some (.int (activity.add visit).visits) := by
    have written := updates.written _ (visitsColumn_mem schema) (by decide)
    rw [show (countColumn "visits").name = "visits" from rfl] at written
    rw [adds.visits, shows.visits] at written
    refine (written ?_).of_int rfl
    rw [Bool.eq_false_iff, ne_eq, Option.getD_some, Option.getD_some, int_agrees_iff]
    simp [add]
  have lastCell : changed.cell "last_active" = some (.time visit.time.naive) := by
    have written := updates.written _ (lastColumn_mem schema) (by decide)
    simp only [adds.last, lastFound, Option.getD_some] at written
    refine (written ?_).of_time rfl
    rw [Bool.eq_false_iff]
    intro agrees
    have zones := (Bool.and_eq_true_iff.mp agrees).1
    rw [utc, noZone] at zones
    cases zones
  refine ⟨spentCell.trans sumCell, ?_, visitsCell, _, lastCell, DateTime.sameTime_refl _⟩
  rw [← sumCell, ← spentCell]
  exact updates.required _ (spentColumn_mem schema) rfl

/-! ## Batches -/

/-- The customer is stored, with this activity. -/
structure Stored (activity : Activity) (id : String) (t : Table) : Prop where
  schema : t.schema = customerSchema
  row : ∃ row, t.row? id = some row ∧ activity.Holds row

variable {id : String} {s next : Session} {clock : Clock} {w : Writes.Write}

/-- A patch of visits names columns only. -/
theorem patched_visit (schema : s.table.schema = customerSchema) {visit : Visit}
    (patchEq : w.patch = visit.patch) {fields patched : Fields}
    (patchedEq : s.patched w fields = .ok patched) :
    visit.patch.applyTo (some fields) = .ok patched := by
  have restricted : (⟨Keyed.restrict s.columnNames w.patch.set,
      Keyed.restrict s.columnNames w.patch.inc⟩ : Writes.Patch) = visit.patch := by
    rw [patchEq, Session.columnNames, schema]
    rfl
  simp only [Session.patched, restricted] at patchedEq
  split at patchedEq
  · rename_i applied
    rw [applied, Except.ok.inj patchedEq]
  · cases patchedEq

/-- A visit always changes the row. -/
theorem Adds.changes_ne_nil {visit : Visit} {patched : Fields} (adds : activity.Adds visit patched)
    (shows : activity.Shows fields) (schema : t.schema = customerSchema) :
    Session.changes t.schema.columns fields patched ≠ [] := by
  have changed : (countColumn "visits", .int (activity.add visit).visits) ∈
      Session.changes t.schema.columns fields patched := by
    refine List.mem_filterMap.mpr ⟨_, visitsColumn_mem schema, ?_⟩
    rw [show (countColumn "visits").name = "visits" from rfl, adds.visits, shows.visits]
    have differs : (Value.int (activity.add visit).visits).agrees (.int activity.visits) =
        false := by
      rw [Bool.eq_false_iff, ne_eq, int_agrees_iff]
      simp [add]
    simp [differs]
  exact List.ne_nil_of_mem changed

/-- A write of a visit adds it. -/
theorem Stored.apply (stored : activity.Stored id s.table) {visit : Visit} (utc : visit.time.IsUtc)
    (idEq : w.id = id) (patchEq : w.patch = visit.patch) (applied : s.apply clock w = .ok next) :
    (activity.add visit).Stored id next.table := by
  subst idEq
  obtain ⟨schema, row, found, holds⟩ := stored
  generalize next.table = after, (Session.applies_of_apply applied).1 = applies
  cases applies with
  | creates _ missing _ _ =>
      rw [found] at missing
      cases missing
  | keeps otherFound read patchedEq unchanged =>
      obtain rfl := Option.some.inj (found.symm.trans otherFound)
      have shows := holds.shows schema read
      have adds := shows.adds holds.present (patched_visit schema patchEq patchedEq)
      exact absurd unchanged (adds.changes_ne_nil shows schema)
  | updates otherFound read patchedEq updated =>
      obtain rfl := Option.some.inj (found.symm.trans otherFound)
      have shows := holds.shows schema read
      have adds := shows.adds holds.present (patched_visit schema patchEq patchedEq)
      obtain ⟨changed, updates, rfl⟩ :=
        Table.updates_of_update (customerColumns_nodup schema) updated
      refine ⟨schema, changed, ?_, holds.updates shows utc adds schema updates⟩
      rw [Table.row?_replace, found, Option.map_some, if_pos updates.id_eq.symm]

/-- A write of another identifier leaves the customer alone. -/
theorem Stored.apply_other (stored : activity.Stored id s.table) (other : id ≠ w.id)
    (applied : s.apply clock w = .ok next) : activity.Stored id next.table := by
  obtain ⟨row, found, holds⟩ := stored.row
  have applies := (Session.applies_of_apply applied).1
  exact ⟨applies.schema_eq.trans stored.schema, row, (applies.row?_other other).trans found, holds⟩

/-- A batch adds the visits of the writes that it accepts, in their order. -/
theorem Stored.takesAll (stored : activity.Stored id t) {marked : List (Writes.Write × Bool)}
    {final : Session} (takes : (Session.start t).TakesAll clock marked final)
    (visits : ∀ verdict ∈ marked, verdict.1.id = id →
      ∃ visit : Visit, verdict.1.patch = visit.patch ∧ visit.time.IsUtc) :
    ∃ made : List Visit, ((acceptedOf marked).filter (·.id = id)).map Writes.Write.patch =
      made.map Visit.patch ∧ (made.foldl add activity).Stored id final.table := by
  induction takes with
  | start => exact ⟨[], rfl, stored⟩
  | @last marked middle next w accepted earlier taken ih =>
      obtain ⟨made, patches, after⟩ := ih fun verdict verdictMem =>
        visits verdict (List.mem_append_left _ verdictMem)
      cases taken with
      | accepts admitted applied =>
          rw [acceptedOf_concat_true, List.filter_append, List.map_append, patches]
          by_cases own : w.id = id
          · obtain ⟨visit, patchEq, utc⟩ := visits (w, true) (by simp) own
            refine ⟨made ++ [visit], by simpa [own] using patchEq, ?_⟩
            rw [List.foldl_append]
            exact after.apply utc own patchEq applied
          · refine ⟨made, by simp [own], ?_⟩
            exact after.apply_other (Ne.symm own) applied
      | skips _ | refuses _ _ =>
          rw [acceptedOf_concat_false]
          exact ⟨made, patches, after⟩

end Activity

/-! ## The table behind its coalescer -/

/-- A coalescer and its table in a run that queues nothing but visits for a customer: the row has
those that were delivered. -/
structure Credited (activity : Activity) (id : String) (visits : List Visit) (s : Writes.Coalescer)
    (t : Table) : Prop where
  regular : Regular s
  utc : ∀ visit ∈ visits, visit.time.IsUtc
  queued : (s.processor.accepted.filter (·.id = id)).map Writes.Write.patch = visits.map Visit.patch
  delivered : ∃ made : List Visit,
    (s.processor.deliveries.filter (·.id = id)).map Writes.Write.patch =
    made.map Visit.patch ∧ (made.foldl Activity.add activity).Stored id t

namespace Credited

variable {activity : Activity} {id : String} {visits : List Visit} {s s' : Writes.Coalescer}
  {t t' : Table}

theorem idle (stored : activity.Stored id t) (name : String) (config : Writes.Config) :
    Credited activity id [] (.idle name config) t :=
  ⟨idle_regular name config, by simp, rfl, [], rfl, stored⟩

/-- A visit of the customer is queued. -/
theorem enqueue (credited : Credited activity id visits s t) {visit : Visit}
    (utc : visit.time.IsUtc) {now : Nat} {p : Writes.Processor}
    (queued : s.processor.enqueue now id visit.patch = .ok p) :
    Credited activity id (visits ++ [visit]) { s with processor := p } t := by
  obtain ⟨regular, deliveriesEq, acceptedEq⟩ := credited.regular.enqueue queued
  obtain ⟨made, patches, stored⟩ := credited.delivered
  refine ⟨regular, ?_, ?_, made, deliveriesEq ▸ patches, stored⟩
  · intro other otherMem
    rcases List.mem_append.mp otherMem with earlier | last
    · exact credited.utc other earlier
    · rwa [List.mem_singleton.mp last]
  · rw [patches_of_changes, acceptedEq, List.filter_append, List.map_append, ← patches_of_changes,
      credited.queued]
    simp

/-- A write of another identifier is queued. -/
theorem enqueue_other (credited : Credited activity id visits s t) {other : String}
    {patch : Writes.Patch} {now : Nat} {p : Writes.Processor}
    (queued : s.processor.enqueue now other patch = .ok p) (different : other ≠ id) :
    Credited activity id visits { s with processor := p } t := by
  obtain ⟨regular, deliveriesEq, acceptedEq⟩ := credited.regular.enqueue queued
  obtain ⟨made, patches, stored⟩ := credited.delivered
  refine ⟨regular, credited.utc, ?_, made, deliveriesEq ▸ patches, stored⟩
  rw [patches_of_changes, acceptedEq, List.filter_append, List.map_append, ← patches_of_changes,
    credited.queued]
  simp [different]

/-- The table takes writes of the customer and of others. -/
theorem tableStep (credited : Credited activity id visits s t) (step : TableStep s t s' t') :
    Credited activity id visits s' t' := by
  obtain ⟨regular, delivers, acceptedEq⟩ := step.delivers credited.regular
  obtain ⟨made, patches, stored⟩ := credited.delivered
  refine ⟨regular, credited.utc, ?_, ?_⟩
  · rw [patches_of_changes, acceptedEq, ← patches_of_changes, credited.queued]
  cases delivers with
  | nothing same =>
      rw [same]
      exact ⟨made, patches, stored⟩
  | @batch clock marked final markedEq takesAll deliveriesEq =>
      have visitOf : ∀ verdict ∈ marked, verdict.1.id = id →
          ∃ visit : Visit, verdict.1.patch = visit.patch ∧ visit.time.IsUtc := by
        intro verdict verdictMem own
        have flying : verdict.1 ∈ s.processor.flight := by
          rw [← markedEq]
          exact List.mem_map_of_mem verdictMem
        obtain ⟨w, wMem, sameChange⟩ :=
          List.mem_map.mp (credited.regular.accounted.change_mem_of_flight flying)
        obtain ⟨sameId, samePatch⟩ := Prod.mk.inj sameChange
        have accepted : w.patch ∈ visits.map Visit.patch := by
          rw [← credited.queued]
          apply List.mem_map_of_mem
          simp [wMem, sameId, own]
        obtain ⟨visit, visitMem, visitEq⟩ := List.mem_map.mp accepted
        exact ⟨visit, samePatch.symm.trans visitEq.symm, credited.utc visit visitMem⟩
      obtain ⟨more, morePatches, after⟩ := stored.takesAll takesAll visitOf
      refine ⟨made ++ more, ?_, ?_⟩
      · rw [deliveriesEq, List.filter_append, List.map_append, patches, morePatches,
          List.map_append]
      · rw [List.foldl_append]
        exact after

/-- The table may change in the rows of others. -/
theorem aside (credited : Credited activity id visits s t) (schema : t'.schema = t.schema)
    (row : t'.row? id = t.row? id) : Credited activity id visits s t' := by
  obtain ⟨made, patches, stored⟩ := credited.delivered
  refine ⟨credited.regular, credited.utc, credited.queued, made, patches,
    schema.trans stored.schema, ?_⟩
  rw [row]
  exact stored.row

/-- Once the coalescer is drained, the row has all visits, in the order in which
they were queued. -/
theorem drained (credited : Credited activity id visits s t) (drained : Drained s.processor) :
    (visits.foldl Activity.add activity).Stored id t := by
  obtain ⟨made, patches, stored⟩ := credited.delivered
  have same := credited.regular.patches_eq drained id
  rw [patches, credited.queued] at same
  rw [← List.map_injective_iff.mpr Visit.patch_injective same]
  exact stored

end Credited

end Customers

end Outreach
