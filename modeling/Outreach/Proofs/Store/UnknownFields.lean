import Outreach.Proofs.Store.Verdicts
import Outreach.Proofs.Writes.Patches
import Outreach.Store.Tables

/-!
# Fields that are no columns

A patch may name fields that are no columns of the table. Neither an insert nor an update stores
them, and without them the same batch does the same. Only one way is left in which they can be felt:
a write that creates a row applies its whole patch before it looks for columns, so a sum on an
unknown field that cannot be made gives up the batch. A write that founders in this way is described
by what it meets, and a batch in which none does is the same without unknown fields.
-/

namespace Outreach.Store

open Writes (Write)

/-- The name is that of a column. -/
def TableSchema.isColumn (schema : TableSchema) (name : String) : Bool :=
  (schema.columns.map Column.name).contains name

/-- The write without the fields that are no columns. -/
def TableSchema.known (schema : TableSchema) (w : Write) : Write := w.only schema.isColumn

/-- The part of a patch on fields that are no columns. -/
def TableSchema.unknownPart (schema : TableSchema) (p : Writes.Patch) : Writes.Patch :=
  p.only (!schema.isColumn ·)

/-- The write comes to the creation of its row, and cannot add up a field that is no column. -/
structure Founders (t : Table) (result : Writes.BulkResult) (w : Write) : Prop where
  admitted : w.id ∉ result.failed.map Writes.Rejection.id
  encodable : Text.hasLoneSurrogate w.id = false
  missing : t.row? w.id = none
  faulty : ∃ fault, (t.schema.unknownPart w.patch).applyTo none = .error fault

namespace Session

variable {s next : Session} {clock : Clock} {w : Write}

/-! ## What a batch remembers -/

/-- A batch in progress remembers the identifiers of the writes that it has refused. -/
def Consistent (s : Session) : Prop :=
  ∀ id, Keyed.get? id s.refused = none ↔ id ∉ s.result.failed.map Writes.Rejection.id

theorem start_consistent (t : Table) : (start t).Consistent := by
  simp [Consistent, start]

theorem Takes.consistent {accepted : Bool} (takes : Takes clock w s accepted next)
    (consistent : s.Consistent) : next.Consistent := by
  intro id
  have before := consistent id
  cases takes with
  | accepts _ applied =>
      have steady := (applies_of_apply applied).2
      rw [steady.refused, steady.failed]
      exact before
  | skips refused =>
      by_cases same : id = w.id
      · simp [refuse, same, refused]
      · simpa [refuse, same] using before
  | refuses _ _ =>
      by_cases same : id = w.id
      · simp [refuse, same]
      · simpa [refuse, same, Keyed.get?_put_of_ne same] using before

theorem take_consistent (consistent : s.Consistent) (taken : s.take clock w = .ok next) :
    next.Consistent := by
  obtain ⟨accepted, takes⟩ := take_eq_ok_iff.mp taken
  exact takes.consistent consistent

theorem take_schema (taken : s.take clock w = .ok next) :
    next.table.schema = s.table.schema := by
  obtain ⟨accepted, takes⟩ := take_eq_ok_iff.mp taken
  cases takes with
  | accepts _ applied => exact (applies_of_apply applied).1.schema_eq
  | skips _ => rfl
  | refuses _ _ => rfl

/-! ## One write -/

/-- An update sees the columns of a patch alone. -/
theorem patched_known (w : Write) (fields : Fields) (s : Session) :
    s.patched (s.table.schema.known w) fields = s.patched w fields := by
  have twice : (s.table.schema.known w).patch.only s.table.schema.isColumn =
      w.patch.only s.table.schema.isColumn :=
    Writes.Patch.only_only s.table.schema.isColumn w.patch
  have columns (v : Write) : Writes.Patch.mk (Keyed.restrict s.columnNames v.patch.set)
      (Keyed.restrict s.columnNames v.patch.inc) = v.patch.only s.table.schema.isColumn := rfl
  simp only [patched, columns, twice]

/-- An insert sees the columns of a patch alone, if the rest of the patch can be applied. -/
theorem create_known (clock : Clock) {untouched : Fields}
    (unknown : (s.table.schema.unknownPart w.patch).applyTo none = .ok untouched) :
    s.create clock (s.table.schema.known w) = s.create clock w := by
  unfold create
  cases applied : w.patch.applyTo none with
  | ok values =>
      have knownApplied : (s.table.schema.known w).patch.applyTo none =
          .ok (values.filter (s.table.schema.isColumn ·.1)) := Writes.Patch.applyTo_only _ applied
      have twice : Keyed.restrict s.columnNames (values.filter (s.table.schema.isColumn ·.1)) =
          Keyed.restrict s.columnNames values := by
        simp [Keyed.restrict, TableSchema.isColumn, columnNames, List.filter_filter]
      rw [knownApplied]
      change (s.table.insert clock w.id
        (Keyed.restrict s.columnNames (values.filter (s.table.schema.isColumn ·.1))) >>= _) = _
      rw [twice]
      rfl
  | error fault =>
      rcases Writes.Patch.applyTo_none_eq_error s.table.schema.isColumn applied with
        knownFailed | unknownFailed
      · rw [show (s.table.schema.known w).patch.applyTo none = .error fault from knownFailed]
        rfl
      · rw [show (s.table.schema.unknownPart w.patch).applyTo none =
          .error fault from unknownFailed]
          at unknown
        cases unknown

theorem take_of_founders (clock : Clock) (consistent : s.Consistent)
    (founders : Founders s.table s.result w) :
    ∃ fault, s.take clock w = .error (.addition fault) := by
  have admitted := (consistent w.id).mpr founders.admitted
  have missing := load_eq_none_iff.mpr ⟨founders.encodable, founders.missing⟩
  obtain ⟨unknownFault, unknownFailed⟩ := founders.faulty
  cases applied : w.patch.applyTo none with
  | ok values =>
      have unknownApplied := Writes.Patch.applyTo_only (!s.table.schema.isColumn ·) applied
      have refused :
          (w.patch.only (!s.table.schema.isColumn ·)).applyTo none = .error unknownFault :=
        unknownFailed
      rw [Option.map_none, refused] at unknownApplied
      cases unknownApplied
  | error fault =>
      refine ⟨fault, ?_⟩
      simp only [take, admitted, apply, missing, create, applied]
      rfl

/-- A write that does not founder is taken as it would be without its unknown fields. -/
theorem take_known (clock : Clock) (consistent : s.Consistent)
    (steady : ¬ Founders s.table s.result w) :
    s.take clock (s.table.schema.known w) = s.take clock w := by
  cases admitted : Keyed.get? w.id s.refused with
  | some earlier =>
      simp only [take, TableSchema.known, Write.only, admitted]
      rfl
  | none =>
      have applied : s.apply clock (s.table.schema.known w) = s.apply clock w := by
        unfold apply
        rw [show (s.table.schema.known w).id = w.id from rfl]
        cases loaded : s.load w.id with
        | error why => rfl
        | ok found =>
            cases found with
            | some found => simp only [modify, patched_known]
            | none =>
                obtain ⟨encodable, missing⟩ := load_eq_none_iff.mp loaded
                cases unknown : (s.table.schema.unknownPart w.patch).applyTo none with
                | ok untouched => exact create_known clock unknown
                | error fault =>
                    have named := (consistent w.id).mp admitted
                    exact absurd ⟨named, encodable, missing, fault, unknown⟩ steady
      unfold take
      rw [applied]
      rfl

/-! ## A whole batch -/

/-- Without its unknown fields the batch would come to a write that founders. -/
def FoundersAmong (clock : Clock) (writes : List Write) (s : Session) : Prop :=
  ∃ before w after between, writes = before ++ w :: after ∧
    s.takeAll clock (before.map s.table.schema.known) = .ok between ∧
    Founders between.table between.result w

theorem takeAll_of_foundersAmong (consistent : s.Consistent) {writes : List Write}
    (founders : s.FoundersAmong clock writes) :
    ∃ fault, s.takeAll clock writes = .error (.addition fault) := by
  obtain ⟨before, w, after, between, rfl, taken, founders⟩ := founders
  induction before generalizing s with
  | nil =>
      obtain rfl := Except.ok.inj taken
      obtain ⟨fault, failed⟩ := take_of_founders clock consistent founders
      exact ⟨fault, bind_eq_error_iff.mpr (Or.inl failed)⟩
  | cons first rest ih =>
      by_cases early : Founders s.table s.result first
      · obtain ⟨fault, failed⟩ := take_of_founders clock consistent early
        exact ⟨fault, bind_eq_error_iff.mpr (Or.inl failed)⟩
      · obtain ⟨next, firstTaken, restTaken⟩ := bind_eq_ok_iff.mp taken
        rw [take_known clock consistent early] at firstTaken
        rw [← take_schema firstTaken] at restTaken
        obtain ⟨fault, failed⟩ := ih (take_consistent consistent firstTaken) restTaken
        exact ⟨fault, bind_eq_error_iff.mpr (Or.inr ⟨next, firstTaken, failed⟩)⟩

theorem takeAll_known (consistent : s.Consistent) {writes : List Write}
    (steady : ¬ s.FoundersAmong clock writes) :
    s.takeAll clock (writes.map s.table.schema.known) = s.takeAll clock writes := by
  induction writes generalizing s with
  | nil => rfl
  | cons first rest ih =>
      have firstSteady : ¬ Founders s.table s.result first :=
        fun founders => steady ⟨[], first, rest, s, rfl, rfl, founders⟩
      have firstSame := take_known clock consistent firstSteady
      simp only [List.map_cons, takeAll, firstSame]
      cases firstTaken : s.take clock first with
      | error why => rfl
      | ok next =>
          have schemaEq := take_schema firstTaken
          rw [← schemaEq]
          refine ih (take_consistent consistent firstTaken) ?_
          rintro ⟨before, w, after, between, rfl, taken, founders⟩
          rw [schemaEq] at taken
          refine steady ⟨first :: before, w, after, between, rfl, ?_, founders⟩
          exact bind_eq_ok_iff.mpr ⟨next, firstSame.trans firstTaken, taken⟩

end Session

/-! ## Upserts -/

section Upsert

variable {clock : Clock} {t : Table} {writes : List Write}

/-- Without its unknown fields a batch would come to a write that founders on them: the writes
before it, without theirs, leave a table and a result at which it does. -/
def FoundersOnUnknown (clock : Clock) (writes : List Write) (t : Table) : Prop :=
  ∃ before w after between result, writes = before ++ w :: after ∧
    t.upsert clock (before.map t.schema.known) = (between, .ok result) ∧ Founders between result w

theorem foundersOnUnknown_iff :
    FoundersOnUnknown clock writes t ↔ (Session.start t).FoundersAmong clock writes := by
  constructor
  · rintro ⟨before, w, after, between, result, rfl, upserted, founders⟩
    obtain ⟨marked, final, markedEq, takesAll, rfl, rfl⟩ := upsert_eq_ok_iff.mp upserted
    exact ⟨before, w, after, final, rfl,
      Session.takeAll_eq_ok_iff.mpr ⟨marked, markedEq, takesAll⟩, founders⟩
  · rintro ⟨before, w, after, between, rfl, taken, founders⟩
    refine ⟨before, w, after, between.table, between.result, rfl, ?_, founders⟩
    unfold Table.upsert
    rw [show (Session.start t).takeAll clock (before.map t.schema.known) = .ok between from taken]

/-- Fields that are no columns are ignored, unless a write founders on them. A batch does the same
to a table and answers the same without them, whatever they are and whatever else the batch holds,
as long as no write comes to the creation of its row with an unknown field that cannot be added up.
Where one does, the whole batch is given up. -/
theorem upsert_ignores_unknown_or_founders (clock : Clock) (writes : List Write) (t : Table) :
    ¬ FoundersOnUnknown clock writes t ∧
        t.upsert clock (writes.map t.schema.known) = t.upsert clock writes ∨
      FoundersOnUnknown clock writes t ∧
        ∃ fault, t.upsert clock writes = (t, .error (.addition fault)) := by
  rw [foundersOnUnknown_iff]
  by_cases founders : (Session.start t).FoundersAmong clock writes
  · right
    obtain ⟨fault, failed⟩ := Session.takeAll_of_foundersAmong (Session.start_consistent t) founders
    refine ⟨founders, fault, ?_⟩
    simp only [Table.upsert, failed]
  · left
    have same : (Session.start t).takeAll clock (writes.map t.schema.known) =
        (Session.start t).takeAll clock writes :=
      Session.takeAll_known (Session.start_consistent t) founders
    refine ⟨founders, ?_⟩
    simp only [Table.upsert, same]

/-- A new customer with a colour that is counted up. -/
def colourfulSignup : Write :=
  ⟨0, "alice",
    ⟨[("name", .text "Alice"), ("email", .text "alice@example.com"),
      ("favourite_colour", .text "green")],
      [("favourite_colour", .int 1)]⟩, 0⟩

/-- A colour is no column of customers, and yet the customer is stored only without it. -/
theorem colourfulSignup_not_ignored :
    let clock : Clock := ⟨⟨2024, 6, 1⟩, 12, 0, 0, 0, some 0⟩
    let customers := Table.empty customerSchema
    (customers.upsert clock [colourfulSignup]).2.isOk = false ∧
      (customers.upsert clock [customers.schema.known colourfulSignup]).2.isOk = true ∧
      ((customers.upsert clock [customers.schema.known colourfulSignup]).1.row? "alice").isSome =
      true := by
  decide +kernel

end Upsert

end Outreach.Store
