import Outreach.Proofs.Store.Deliveries
import Outreach.Proofs.Store.Documents

/-!
# Rows mirror what was written

The row of an identifier stores the document that its accepted writes tell, column by column, in
whatever batches they come and whatever else these hold: an insert makes it so, and an update, which
starts from the fields that are read back, keeps it so.
-/

namespace Outreach.Store

open Writes (Write valueOf)

/-- Every column of the row but the stamp stores the value that it has in the document. -/
structure Row.Mirrors (schema : TableSchema) (document : Fields) (row : Row) : Prop where
  stores : ∀ column ∈ schema.columns, column.name ≠ stampColumn →
    column.Stores (valueOf column.name document) (row.cell column.name)
  required : ∀ column ∈ schema.columns, column.nullable = false → row.cell column.name ≠ none

/-- The fields show the value of every column but the stamp. -/
def Row.Shows (schema : TableSchema) (document : Fields) (row : Row) (fields : Fields) : Prop :=
  ∀ column ∈ schema.columns, column.name ≠ stampColumn →
    column.Shows (valueOf column.name document) (row.cell column.name) (valueOf column.name fields)

section Rows

variable {schema : TableSchema} {t after : Table} {clock : Clock} {id : String} {row changed : Row}
  {document next fields patched given : Fields} {column : Column} {p : Writes.Patch}

/-! ## Reading -/

theorem Row.Mirrors.shows (mirrors : row.Mirrors t.schema document) (faithful : t.schema.Faithful)
    (types : t.schema.Types document) (read : t.readRow row = .ok fields) :
    row.Shows t.schema document fields := by
  intro column columnMem unstamped
  obtain ⟨value, valueRead, found⟩ :=
    get?_readRow read faithful.distinct columnMem (faithful.noId column columnMem)
  have valueEq : valueOf column.name fields = value := by
    rw [valueOf, found]
    rfl
  rw [valueEq]
  exact (mirrors.stores column columnMem unstamped).shows (faithful.columns column columnMem)
    (types column columnMem) (mirrors.required column columnMem) valueRead

/-! ## Inserts -/

/-- An insert names the value that a column gets, unless the store fills in its clock or
there is no document. -/
theorem initialValue_cases (clock : Clock) (given : Fields) (column : Column) :
    initialValue clock given column = some (column.initial clock given) ∨
      initialValue clock given column = none ∧ column.initial clock given = column.preset clock ∧
        (column.default = .storeClock ∨ column.default = .nothing ∧ column.kind = .structured) := by
  have fallback : initialValue.fallback clock column = some (column.preset clock) ∨
      initialValue.fallback clock column = none ∧
        (column.default = .storeClock ∨ column.default = .nothing ∧ column.kind = .structured) := by
    unfold initialValue.fallback Column.preset
    cases column.default with
    | nothing => by_cases document : column.kind = .structured <;> simp [document]
    | _ => simp
  unfold initialValue Column.initial
  cases Keyed.get? column.name given with
  | none => exact fallback.imp_right fun ⟨nothing, why⟩ => ⟨nothing, rfl, why⟩
  | some value =>
      dsimp only
      split
      · exact fallback.imp_right fun ⟨nothing, why⟩ => ⟨nothing, rfl, why⟩
      · exact Or.inl rfl

/-- Where an insert names no value, the new row has what the store fills in. -/
theorem cell_newRow_of_none {prepared : List (Column × Cell)} {bound : List (String × Cell)}
    (distinct : (t.schema.columns.map Column.name).Nodup)
    (preparedEq : prepareAll (t.namedValues clock given) = .ok prepared)
    (boundEq : bindAll 2 prepared = .ok bound)
    (columnMem : column ∈ t.schema.columns) (unnamed : initialValue clock given column = none) :
    (t.newRow clock id bound).cell column.name = storeDefault clock column := by
  have absent : Keyed.get? column.name bound = none := by
    rw [Keyed.get?_eq_none_iff, (get?_bindAll preparedEq boundEq).1]
    intro nameMem
    obtain ⟨named, namedMem, sameName⟩ := List.mem_map.mp nameMem
    obtain ⟨other, otherMem, chosen⟩ := List.mem_filterMap.mp namedMem
    obtain ⟨value, valueEq, rfl⟩ := Option.map_eq_some_iff.mp chosen
    obtain rfl := List.inj_on_of_nodup_map distinct otherMem columnMem sameName
    rw [unnamed] at valueEq
    cases valueEq
  rw [Row.cell, Table.newRow, Keyed.get?_map_of_mem _ distinct columnMem, absent]
  rfl

/-- An insert makes a row that mirrors the new document. -/
theorem mirrors_of_insert (faithful : t.schema.Faithful)
    (inserted : t.insert clock id given = .ok after) :
    ∃ row, after = { t with rows := t.rows ++ [row] } ∧ row.id = id ∧
      row.Mirrors t.schema (t.schema.filled clock given) := by
  obtain ⟨row, inserts, afterEq⟩ := Table.inserts_of_insert faithful.distinct inserted
  obtain ⟨prepared, bound, preparedEq, boundEq, -, rowEq⟩ := Table.insert_eq_ok_iff.mp inserted
  obtain rfl : row = t.newRow clock id bound := by
    rw [afterEq] at rowEq
    exact List.singleton_inj.mp (List.append_cancel_left (Table.mk.inj rowEq).2)
  refine ⟨_, afterEq, rfl, ?_, inserts.required⟩
  intro column columnMem unstamped
  rw [valueOf_filled faithful.distinct columnMem]
  rcases initialValue_cases clock given column with named |
    ⟨unnamed, presetEq, default | ⟨default, document⟩⟩
  · exact .inl (inserts.written column columnMem _ named)
  · have kind := faithful.clock column columnMem default
    have cellEq : (t.newRow clock id bound).cell column.name = some (.time (storeTime clock)) := by
      rw [cell_newRow_of_none faithful.distinct preparedEq boundEq columnMem unnamed,
        storeDefault, default]
    have valueEq : column.initial clock given = .time (storeTime clock) := by
      rw [presetEq, Column.preset, default]
    rw [valueEq, cellEq]
    refine .inl ⟨some (.time (storeTime clock)), 0, ?_, bindCell_of_noText 0 (.inr kind) (by simp)⟩
    simp [Column.prepare, kind, storeTime, DateTime.naive]
  · have empty : (t.newRow clock id bound).cell column.name = none := by
      rw [cell_newRow_of_none faithful.distinct preparedEq boundEq columnMem unnamed,
        storeDefault, default]
    have required := (faithful.columns column columnMem).required (.inr document)
    exact absurd empty (inserts.required column columnMem required)

/-! ## Updates -/

/-- An update rewrites every column but the stamp. -/
theorem rewrites_of_updates (updates : t.Updates row changed fields patched)
    (columnMem : column ∈ t.schema.columns)
    (unstamped : column.name ≠ stampColumn) : column.Rewrites (valueOf column.name fields)
      (valueOf column.name patched) (row.cell column.name) (changed.cell column.name) :=
  ⟨updates.kept column columnMem unstamped, updates.written column columnMem unstamped⟩

/-- A row in which no column changes is as good as rewritten. -/
theorem rewrites_of_unchanged (unchanged : Session.changes t.schema.columns fields patched = [])
    (columnMem : column ∈ t.schema.columns) : column.Rewrites (valueOf column.name fields)
      (valueOf column.name patched) (row.cell column.name) (row.cell column.name) := by
  refine ⟨fun _ => rfl, fun differs => ?_⟩
  have chosen := List.filterMap_eq_nil_iff.mp unchanged column columnMem
  unfold valueOf at differs
  simp [differs] at chosen

/-- A row that is rewritten by a patch mirrors the document after the patch. -/
theorem Row.Mirrors.patch (mirrors : row.Mirrors schema document)
    (shows : row.Shows schema document fields)
    (types : schema.Types document) (suits : schema.Suits p)
    (nextEq : p.applyTo (some document) = .ok next)
    (patchedEq : p.applyTo (some fields) = .ok patched) (nextTypes : schema.Types next)
    (required : ∀ column ∈ schema.columns, column.nullable = false →
      changed.cell column.name ≠ none)
    (rewrites : ∀ column ∈ schema.columns, column.name ≠ stampColumn →
      column.Rewrites (valueOf column.name fields) (valueOf column.name patched)
        (row.cell column.name) (changed.cell column.name)) :
    changed.Mirrors schema next where
  stores column columnMem unstamped :=
    (mirrors.stores column columnMem unstamped).patch (types column columnMem)
      (shows column columnMem unstamped) (suits.columns column columnMem)
      (Writes.Patch.effect_of_applyTo suits.setDistinct suits.incDistinct patchedEq column.name)
      (Writes.Patch.effect_of_applyTo suits.setDistinct suits.incDistinct nextEq column.name)
      (nextTypes column columnMem) (rewrites column columnMem unstamped)
  required := required

end Rows

/-! ## Batches -/

/-- The identifier has no row as long as nothing was written, and then one that
mirrors its document. -/
def Table.Mirrors (id : String) (t : Table) : Option Fields → Prop
  | none => t.row? id = none
  | some document =>
    t.schema.Types document ∧ ∃ row, t.row? id = some row ∧ row.Mirrors t.schema document

namespace Session

variable {s next : Session} {clock : Clock} {w : Write} {document fields patched values : Fields}
  {document? : Option Fields} {row changed : Row} {after : Table}

/-- The first write of an identifier makes the document. -/
theorem mirrors_of_create (faithful : s.table.schema.Faithful) (wall : clock.IsWallClock)
    (suits : s.table.schema.Suits w.patch) (missing : s.table.row? w.id = none)
    (applied : w.patch.applyTo none = .ok values)
    (inserted : s.table.insert clock w.id (Keyed.restrict s.columnNames values) = .ok after) :
    ∃ document, s.table.schema.tell clock (s.table.schema.known w) none = .ok document ∧
      (s.table.schema.Exact document → after.Mirrors w.id (some document)) := by
  have knownApplied := Writes.Patch.applyTo_only s.table.schema.isColumn applied
  refine ⟨_, bind_eq_ok_iff.mpr ⟨_, knownApplied, rfl⟩, fun exactly => ?_⟩
  have types := types_filled faithful wall (suits_known suits) knownApplied exactly
  obtain ⟨row, rfl, idEq, rowMirrors⟩ := mirrors_of_insert faithful inserted
  refine ⟨types, row, ?_, rowMirrors⟩
  rw [Table.row?_append, missing, if_pos idEq]
  rfl

theorem patched_eq_ok (patchedEq : s.patched w fields = .ok patched) :
    (w.patch.only s.table.schema.isColumn).applyTo (some fields) = .ok patched := by
  unfold Session.patched at patchedEq
  simp only at patchedEq
  split at patchedEq
  · rename_i applied
    rw [← Except.ok.inj patchedEq]
    exact applied
  · cases patchedEq

/-- A further write changes the document. -/
theorem mirrors_of_patched (faithful : s.table.schema.Faithful)
    (suits : s.table.schema.Suits w.patch)
    (types : s.table.schema.Types document) (mirrors : row.Mirrors s.table.schema document)
    (read : s.table.readRow row = .ok fields) (patchedEq : s.patched w fields = .ok patched)
    (required : ∀ column ∈ s.table.schema.columns, column.nullable = false →
      changed.cell column.name ≠ none)
    (rewrites : ∀ column ∈ s.table.schema.columns, column.name ≠ stampColumn →
      column.Rewrites (valueOf column.name fields) (valueOf column.name patched)
        (row.cell column.name) (changed.cell column.name)) :
    ∃ next, s.table.schema.tell clock (s.table.schema.known w) (some document) = .ok next ∧
      (s.table.schema.Exact next →
        s.table.schema.Types next ∧ changed.Mirrors s.table.schema next) := by
  have shows := mirrors.shows faithful types read
  have knownSuits := suits_known suits
  obtain ⟨next, applied⟩ := exists_applyTo_known suits types
  refine ⟨next, applied, fun exactly => ?_⟩
  have nextTypes := types_applyTo knownSuits types applied exactly
  exact ⟨nextTypes,
    mirrors.patch shows types knownSuits applied (patched_eq_ok patchedEq) nextTypes
    required rewrites⟩

theorem Applies.mirrors (applies : Applies clock w s after) (faithful : s.table.schema.Faithful)
    (wall : clock.IsWallClock) (suits : s.table.schema.Suits w.patch)
    (mirrors : s.table.Mirrors w.id document?) :
    ∃ document, s.table.schema.tell clock (s.table.schema.known w) document? = .ok document ∧
      (s.table.schema.Exact document → after.Mirrors w.id (some document)) := by
  cases document? with
  | none =>
      have missing : s.table.row? w.id = none := mirrors
      cases applies with
      | creates _ _ applied inserted =>
          exact mirrors_of_create faithful wall suits missing applied inserted
      | updates found _ _ _ | keeps found _ _ _ =>
          rw [missing] at found
          cases found
  | some document =>
      obtain ⟨types, row, stored, rowMirrors⟩ := mirrors
      cases applies with
      | creates _ missing _ _ =>
          rw [stored] at missing
          cases missing
      | updates found read patchedEq updated =>
          obtain rfl := Option.some.inj (stored.symm.trans found)
          obtain ⟨changed, updates, rfl⟩ := Table.updates_of_update faithful.distinct updated
          obtain ⟨next, toldEq, nextMirrors⟩ :=
            mirrors_of_patched faithful suits types rowMirrors read
            patchedEq updates.required fun column columnMem unstamped =>
              rewrites_of_updates updates columnMem unstamped
          refine ⟨next, toldEq, fun exactly => ?_⟩
          obtain ⟨nextTypes, changedMirrors⟩ := nextMirrors exactly
          refine ⟨nextTypes, changed, ?_, changedMirrors⟩
          rw [Table.row?_replace, found, Option.map_some, if_pos updates.id_eq.symm]
      | keeps found read patchedEq unchanged =>
          obtain rfl := Option.some.inj (stored.symm.trans found)
          obtain ⟨next, toldEq, nextMirrors⟩ :=
            mirrors_of_patched faithful suits types rowMirrors read
            patchedEq rowMirrors.required fun column columnMem _ =>
              rewrites_of_unchanged unchanged columnMem
          refine ⟨next, toldEq, fun exactly => ?_⟩
          obtain ⟨nextTypes, keptMirrors⟩ := nextMirrors exactly
          exact ⟨nextTypes, row, found, keptMirrors⟩

/-- A write of another identifier changes nothing of this. -/
theorem Applies.mirrors_other (applies : Applies clock w s after) {id : String} (other : id ≠ w.id)
    (mirrors : s.table.Mirrors id document?) : after.Mirrors id document? := by
  have rowEq := applies.row?_other other
  cases document? with
  | none => exact rowEq.trans mirrors
  | some document =>
      obtain ⟨types, row, found, rowMirrors⟩ := mirrors
      rw [Table.Mirrors, applies.schema_eq, rowEq]
      exact ⟨types, row, found, rowMirrors⟩

end Session

/-- The writes of an identifier among those that were accepted, without their unknown fields. -/
def TableSchema.toldOf (schema : TableSchema) (id : String) (accepted : List (Clock × Write)) :
    List (Clock × Write) :=
  (accepted.filter (·.2.id = id)).map fun w => (w.1, schema.known w.2)

theorem toldOf_append (schema : TableSchema) (id : String) (first second : List (Clock × Write)) :
    schema.toldOf id (first ++ second) = schema.toldOf id first ++ schema.toldOf id second := by
  simp [TableSchema.toldOf]

/-- Whatever the writes tell at some time, its whole numbers in columns of doubles have up to 53
binary digits. -/
def TableSchema.ExactThroughout (schema : TableSchema) (told : List (Clock × Write)) : Prop :=
  ∀ part document, part <+: told → schema.document? part = .ok (some document) →
  schema.Exact document

theorem TableSchema.ExactThroughout.of_append {schema : TableSchema}
    {first second : List (Clock × Write)}
    (exactly : schema.ExactThroughout (first ++ second)) : schema.ExactThroughout first :=
  fun part document partPrefix =>
    exactly part document (partPrefix.trans (List.prefix_append first second))

namespace Session

variable {id : String} {s final : Session} {clock : Clock} {marked : List (Write × Bool)}
  {before : List (Clock × Write)} {document? : Option Fields}

/-- A batch leaves a row that mirrors what was written before it and what the batch has accepted. -/
theorem TakesAll.mirrors (takesAll : TakesAll clock s marked final)
    (faithful : s.table.schema.Faithful) (wall : clock.IsWallClock)
    (beforeEq : s.table.schema.document? (s.table.schema.toldOf id before) = .ok document?)
    (mirrors : s.table.Mirrors id document?)
    (suits : ∀ w ∈ acceptedOf marked, w.id = id → s.table.schema.Suits w.patch)
    (exactly : s.table.schema.ExactThroughout
      (s.table.schema.toldOf id (before ++ (acceptedOf marked).map (clock, ·)))) :
    final.table.schema = s.table.schema ∧ ∃ after?,
      s.table.schema.document?
      (s.table.schema.toldOf id (before ++ (acceptedOf marked).map (clock, ·))) = .ok after? ∧
      final.table.Mirrors id after? := by
  induction takesAll with
  | start => exact ⟨rfl, document?, by simpa [acceptedOf] using beforeEq, mirrors⟩
  | @last marked middle next w accepted earlier takes ih =>
      cases takes with
      | skips _ =>
          rw [acceptedOf_concat_false] at suits exactly ⊢
          obtain ⟨schemaEq, after?, toldEq, middleMirrors⟩ := ih suits exactly
          exact ⟨schemaEq, after?, toldEq, middleMirrors⟩
      | refuses _ _ =>
          rw [acceptedOf_concat_false] at suits exactly ⊢
          obtain ⟨schemaEq, after?, toldEq, middleMirrors⟩ := ih suits exactly
          exact ⟨schemaEq, after?, toldEq, middleMirrors⟩
      | accepts _ applied =>
          rw [acceptedOf_concat_true] at suits
          rw [acceptedOf_concat_true, List.map_append, ← List.append_assoc,
            toldOf_append] at exactly ⊢
          obtain ⟨schemaEq, after?, toldEq, middleMirrors⟩ :=
            ih (fun other otherMem => suits other (List.mem_append_left _ otherMem))
            (exactly.of_append)
          have applies := (applies_of_apply applied).1
          refine ⟨applies.schema_eq.trans schemaEq, ?_⟩
          by_cases own : w.id = id
          · subst own
            have ownSuits := suits w (List.mem_append_right _ (List.mem_singleton_self w)) rfl
            rw [← schemaEq] at faithful ownSuits
            obtain ⟨document, toldNow, nextMirrors⟩ :=
              applies.mirrors faithful wall ownSuits middleMirrors
            rw [schemaEq] at toldNow nextMirrors
            have alone : s.table.schema.toldOf w.id ([w].map (clock, ·)) =
                [(clock, s.table.schema.known w)] := by
              simp [TableSchema.toldOf]
            rw [alone] at exactly ⊢
            have toldAll := document?_concat toldEq toldNow
            exact ⟨some document, toldAll, nextMirrors (exactly _ document List.prefix_rfl toldAll)⟩
          · have none : s.table.schema.toldOf id ([w].map (clock, ·)) = [] := by
              simp [TableSchema.toldOf, own]
            rw [none, List.append_nil]
            exact ⟨after?, toldEq, applies.mirrors_other (Ne.symm own) middleMirrors⟩

end Session

end Outreach.Store
