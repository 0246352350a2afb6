import Outreach.Proofs.Store.Mirrors

/-!
# The last value that a column was given

A column that is assigned and never added to keeps the value that it was given last, in whatever
batches the assignments come and whatever else these hold. A value that agrees with what the cell
reads as is not put down again, but of such a value the column keeps the same.
-/

namespace Outreach.Store

open Writes (Write Patch Coalescer valueOf)

namespace Column

variable {column : Column} {given : Fields}

/-- A null counts as no value to start from. -/
theorem initial_of_null (plain : column.kind ≠ .structured)
    (null : valueOf column.name given = .null)
    (clock : Clock) : column.initial clock given = column.preset clock := by
  unfold valueOf at null
  unfold initial
  cases found : Keyed.get? column.name given with
  | none => rfl
  | some value =>
      rw [found] at null
      have isNull : value = .null := null
      simp [isNull, Value.isNull, plain]

/-- A new row starts from any other value that is given. -/
theorem initial_of_ne_null (present : valueOf column.name given ≠ .null) (clock : Clock) :
    column.initial clock given = valueOf column.name given := by
  unfold valueOf at present ⊢
  unfold initial
  cases found : Keyed.get? column.name given with
  | none =>
      rw [found] at present
      exact absurd rfl present
  | some value =>
      rw [found] at present
      have notNull : value.isNull = false := by
        cases value <;> first | rfl | exact absurd rfl present
      simp [notNull]

end Column

/-- A column with the value that it starts from, and the values that it is given. -/
structure Track where
  column : Column
  base : Value
  given : Value → Prop

namespace Track

variable (track : Track)

/-- The values of the column can be told by what is kept of them. -/
structure Sound (schema : TableSchema) : Prop where
  faithful : schema.Faithful
  mem : track.column ∈ schema.columns
  unstamped : track.column.name ≠ stampColumn
  plain : track.column.kind ≠ .structured
  preset : ∀ clock, track.column.preset clock = track.base
  unclocked : track.column.default ≠ .storeClock
  base : track.given track.base
  present : track.base = .null ∨ ∀ v, track.given v → v ≠ .null
  reads : ∀ v cell seen, track.given v → track.column.Keeps v cell →
    track.column.read cell = .ok seen → seen.agrees seen = true ∧
      ∀ next, track.given next → next.agrees seen = true → track.column.Keeps next cell

/-- The patch gives the column one of its values, or says nothing of it. -/
structure Gives (p : Patch) : Prop where
  setDistinct : (p.set.map Prod.fst).Nodup
  incDistinct : (p.inc.map Prod.fst).Nodup
  noSum : Keyed.get? track.column.name p.inc = none
  given : ∀ v, Keyed.get? track.column.name p.set = some v → track.given v

/-- The value of the column after a patch. -/
def after (v : Value) (p : Patch) : Value := (Keyed.get? track.column.name p.set).getD v

/-- The value of the column after patches. -/
def last (patches : List Patch) : Value := patches.foldl track.after track.base

variable {track}

theorem last_concat (patches : List Patch) (p : Patch) :
    track.last (patches ++ [p]) = track.after (track.last patches) p := by
  simp [last]

/-! ## Cells -/

section Cells

variable {schema : TableSchema} {p : Patch} {v seen : Value} {cell written : Cell}

theorem Gives.given_after (gives : track.Gives p) (given : track.given v) :
    track.given (track.after v p) := by
  unfold after
  cases assigned : Keyed.get? track.column.name p.set with
  | none => exact given
  | some next => exact gives.given next assigned

theorem given_last (sound : track.Sound schema) {patches : List Patch}
    (gives : ∀ p ∈ patches, track.Gives p) :
    track.given (track.last patches) := by
  induction patches using List.reverseRecOn with
  | nil => exact sound.base
  | append_singleton patches p ih =>
      rw [last_concat]
      exact (gives p (by simp)).given_after (ih fun other otherMem =>
        gives other (List.mem_append_left _ otherMem))

/-- What a patch makes of the value of the column. -/
theorem Gives.valueOf_applyTo (gives : track.Gives p) {document : Option Fields} {next : Fields}
    (applied : p.applyTo document = .ok next) : valueOf track.column.name next =
      track.after (valueOf track.column.name (document.getD [])) p := by
  have effect :=
    Patch.effect_of_applyTo gives.setDistinct gives.incDistinct applied track.column.name
  rw [Patch.effect, gives.noSum] at effect
  exact (Except.ok.inj effect).symm

/-- The column sees all of a patch that concerns it. -/
theorem Gives.only (gives : track.Gives p) {keep : String → Bool}
    (keeps : keep track.column.name = true) :
    track.Gives (p.only keep) ∧ ∀ v, track.after v (p.only keep) = track.after v p := by
  refine ⟨⟨gives.setDistinct.sublist (List.filter_sublist.map Prod.fst),
    gives.incDistinct.sublist (List.filter_sublist.map Prod.fst), ?_, ?_⟩, fun v => ?_⟩
  · rw [Patch.only, Keyed.get?_filter keep keeps]
    exact gives.noSum
  · rw [Patch.only, Keyed.get?_filter keep keeps]
    exact gives.given
  · rw [after, Patch.only, Keyed.get?_filter keep keeps]
    rfl

/-- After a rewrite by a patch the cell keeps the value after the patch. -/
theorem Sound.patch (sound : track.Sound schema) (given : track.given v)
    (keeps : track.column.Keeps v cell)
    (read : track.column.read cell = .ok seen) (gives : track.Gives p)
    (rewrites : track.column.Rewrites seen (track.after seen p) cell written) :
    track.column.Keeps (track.after v p) written := by
  obtain ⟨alike, again⟩ := sound.reads v cell seen given keeps read
  unfold after at rewrites ⊢
  cases assigned : Keyed.get? track.column.name p.set with
  | none =>
      rw [assigned] at rewrites
      rw [rewrites.kept alike]
      exact keeps
  | some next =>
      rw [assigned, Option.getD_some] at rewrites
      rw [Option.getD_some]
      cases agrees : next.agrees seen with
      | false => exact rewrites.put agrees
      | true =>
          rw [rewrites.kept agrees]
          exact again next (gives.given next assigned) agrees

end Cells

/-! ## New rows -/

section Rows

variable {t next : Table} {clock : Clock} {id : String} {p : Patch} {values : Fields}

theorem Sound.isColumn (sound : track.Sound t.schema) :
    t.schema.isColumn track.column.name = true :=
  isColumn_name sound.mem

/-- A new row starts from the base of the column. -/
theorem Sound.initial_eq (sound : track.Sound t.schema) (gives : track.Gives p)
    (applied : p.applyTo none = .ok values) (clock : Clock) :
    track.column.initial clock (values.filter (t.schema.isColumn ·.1)) =
    track.after track.base p := by
  have valueEq : valueOf track.column.name (values.filter (t.schema.isColumn ·.1)) =
      track.after .null p := by
    rw [valueOf, Keyed.get?_filter _ sound.isColumn]
    exact gives.valueOf_applyTo applied
  unfold after at valueEq ⊢
  cases assigned : Keyed.get? track.column.name p.set with
  | none =>
      rw [assigned] at valueEq
      rw [Column.initial_of_null sound.plain valueEq, sound.preset]
      rfl
  | some next =>
      rw [assigned] at valueEq
      have nextEq : valueOf track.column.name (values.filter (t.schema.isColumn ·.1)) = next :=
        valueEq
      by_cases isNull : next = .null
      · -- Nulls are given only to columns that start from null.
        have base : track.base = .null :=
          sound.present.resolve_right fun present => present next (gives.given next assigned) isNull
        rw [Column.initial_of_null sound.plain (nextEq.trans isNull), sound.preset, base, isNull]
        rfl
      · rw [Column.initial_of_ne_null (fun null => isNull (nextEq.symm.trans null)), nextEq]
        rfl

/-- An insert makes a row that keeps what the patch gives the column. -/
theorem Sound.insert (sound : track.Sound t.schema) (gives : track.Gives p)
    (applied : p.applyTo none = .ok values)
    (inserted : t.insert clock id (values.filter (t.schema.isColumn ·.1)) = .ok next) :
    ∃ row, next = { t with rows := t.rows ++ [row] } ∧ row.id = id ∧
      track.column.Keeps (track.after track.base p) (row.cell track.column.name) := by
  obtain ⟨row, inserts, nextEq⟩ := Table.inserts_of_insert sound.faithful.distinct inserted
  have initialEq := sound.initial_eq gives applied clock
  refine ⟨row, nextEq, inserts.id_eq, inserts.written track.column sound.mem _ ?_⟩
  rcases initialValue_cases clock (values.filter (t.schema.isColumn ·.1)) track.column with
    named | ⟨-, -, default | ⟨-, structured⟩⟩
  · rw [named, initialEq]
  · exact absurd default sound.unclocked
  · exact absurd structured sound.plain

end Rows

end Track

/-! ## Batches -/

/-- The identifier has no row as long as nothing was written, and then one whose column
keeps its last value. -/
def Table.Tracked (track : Track) (id : String) (patches : List Patch) (t : Table) : Prop :=
  (patches = [] ∧ t.row? id = none) ∨
    ∃ row, t.row? id = some row ∧
    track.column.Keeps (track.last patches) (row.cell track.column.name)

namespace Session

variable {track : Track} {id : String} {patches : List Patch} {s final : Session}
    {clock : Clock} {w : Write}
  {after : Table}

/-- A write of the identifier sets the last value. -/
theorem Applies.tracked (applies : Applies clock w s after) (sound : track.Sound s.table.schema)
    (given : track.given (track.last patches)) (gives : track.Gives w.patch)
    (tracked : s.table.Tracked track w.id patches) :
    after.Tracked track w.id (patches ++ [w.patch]) := by
  right
  rw [Track.last_concat]
  obtain ⟨givesKnown, afterKnown⟩ := gives.only sound.isColumn
  have rewritten {row changed : Row} {fields patched : Fields}
      (stored : s.table.row? w.id = some row)
      (read : s.table.readRow row = .ok fields) (patchedEq : s.patched w fields = .ok patched)
      (rewrites : track.column.Rewrites (valueOf track.column.name fields)
        (valueOf track.column.name patched) (row.cell track.column.name)
        (changed.cell track.column.name)) :
      track.column.Keeps (track.after (track.last patches) w.patch)
        (changed.cell track.column.name) := by
    rcases tracked with ⟨-, missing⟩ | ⟨other, found, keeps⟩
    · rw [missing] at stored
      cases stored
    · obtain rfl := Option.some.inj (stored.symm.trans found)
      obtain ⟨value, valueRead, valueFound⟩ :=
        get?_readRow read sound.faithful.distinct sound.mem (sound.faithful.noId _ sound.mem)
      have valueEq := (givesKnown.valueOf_applyTo (patched_eq_ok patchedEq)).trans (afterKnown _)
      rw [Option.getD_some] at valueEq
      rw [valueEq] at rewrites
      refine sound.patch given keeps ?_ gives rewrites
      rw [valueOf, valueFound]
      exact valueRead
  cases applies with
  | creates _ missing applied inserted =>
      obtain ⟨row, rfl, idEq, keeps⟩ := sound.insert gives applied inserted
      refine ⟨row, ?_, ?_⟩
      · rw [Table.row?_append, missing, if_pos idEq]
        rfl
      · rcases tracked with ⟨rfl, -⟩ | ⟨other, found, -⟩
        · exact keeps
        · rw [missing] at found
          cases found
  | updates found read patchedEq updated =>
      obtain ⟨changed, updates, rfl⟩ := Table.updates_of_update sound.faithful.distinct updated
      refine ⟨changed, ?_,
        rewritten found read patchedEq (rewrites_of_updates updates sound.mem sound.unstamped)⟩
      rw [Table.row?_replace, found, Option.map_some, if_pos updates.id_eq.symm]
  | keeps found read patchedEq unchanged =>
      exact ⟨_, found, rewritten found read patchedEq (rewrites_of_unchanged unchanged sound.mem)⟩

/-- A batch tracks the writes that it accepts. -/
theorem TakesAll.tracked {marked : List (Write × Bool)} (takesAll : TakesAll clock s marked final)
    (sound : track.Sound s.table.schema) (tracked : s.table.Tracked track id patches)
    (gives : ∀ p ∈ patches, track.Gives p)
    (more : ∀ w ∈ acceptedOf marked, w.id = id → track.Gives w.patch) :
    final.table.Tracked track id
      (patches ++ ((acceptedOf marked).filter (·.id = id)).map Write.patch) := by
  induction takesAll with
  | start => simpa [acceptedOf] using tracked
  | @last marked middle next w accepted earlier takes ih =>
      cases takes with
      | skips _ | refuses _ _ =>
          rw [acceptedOf_concat_false] at more ⊢
          exact ih more
      | accepts _ applied =>
          rw [acceptedOf_concat_true] at more ⊢
          have applies := (applies_of_apply applied).1
          have middleTracked :=
            ih fun other otherMem => more other (List.mem_append_left _ otherMem)
          have middleSound : track.Sound middle.table.schema := earlier.schema_eq ▸ sound
          rw [List.filter_append, List.map_append, ← List.append_assoc]
          by_cases own : w.id = id
          · subst own
            have allGive :
                ∀ p ∈ patches ++ ((acceptedOf marked).filter (·.id = w.id)).map Write.patch,
                track.Gives p := by
              intro p pMem
              rcases List.mem_append.mp pMem with before | inBatch
              · exact gives p before
              · obtain ⟨other, otherMem, rfl⟩ := List.mem_map.mp inBatch
                obtain ⟨inAccepted, same⟩ := List.mem_filter.mp otherMem
                exact more other (List.mem_append_left _ inAccepted) (by simpa using same)
            have given := Track.given_last sound allGive
            simpa using applies.tracked middleSound given (more w (by simp) rfl) middleTracked
          · have others : [w].filter (·.id = id) = [] := by simp [own]
            rw [others, List.map_nil, List.append_nil, Table.Tracked,
              applies.row?_other (Ne.symm own)]
            exact middleTracked

end Session

/-! ## The table behind its coalescer -/

/-- A coalescer and its table in a run in which these patches were queued for an identifier: the
column of its row keeps the last value of those that were delivered. -/
structure Track.Behind (track : Track) (id : String) (patches : List Patch) (s : Coalescer)
    (t : Table) :
    Prop where
  regular : Regular s
  sound : track.Sound t.schema
  gives : ∀ p ∈ patches, track.Gives p
  queued : (s.processor.accepted.filter (·.id = id)).map Write.patch = patches
  tracked : t.Tracked track id ((s.processor.deliveries.filter (·.id = id)).map Write.patch)

namespace Track.Behind

variable {track : Track} {id : String} {patches : List Patch} {s s' : Coalescer} {t t' : Table}

/-- Before anything is queued for the identifier. -/
theorem fresh (regular : Regular s) (sound : track.Sound t.schema)
    (unused : id ∉ s.processor.accepted.map Write.id) (missing : t.row? id = none) :
    track.Behind id [] s t where
  regular := regular
  sound := sound
  gives := nofun
  queued := by
    have none : ∀ w ∈ s.processor.accepted, w.id ≠ id := fun w wMem own =>
      unused (own ▸ List.mem_map_of_mem wMem)
    rw [List.filter_eq_nil_iff.mpr fun w wMem => by simpa using none w wMem]
    rfl
  tracked := by
    rw [List.filter_eq_nil_iff.mpr fun w wMem => by simpa using regular.undelivered unused w wMem]
    exact .inl ⟨rfl, missing⟩

/-- A write of the identifier is queued. -/
theorem enqueue (behind : track.Behind id patches s t) {now : Nat} {patch : Patch}
    {p : Writes.Processor}
    (gives : track.Gives patch) (queued : s.processor.enqueue now id patch = .ok p) :
    track.Behind id (patches ++ [patch]) { s with processor := p } t := by
  obtain ⟨regular, deliveriesEq, acceptedEq⟩ := behind.regular.enqueue queued
  refine ⟨regular, behind.sound, ?_, ?_, deliveriesEq ▸ behind.tracked⟩
  · intro other otherMem
    rcases List.mem_append.mp otherMem with earlier | last
    · exact behind.gives other earlier
    · rwa [List.mem_singleton.mp last]
  · rw [patches_of_changes, acceptedEq, List.filter_append, List.map_append, ← patches_of_changes,
      behind.queued]
    simp

/-- A write of another identifier is queued. -/
theorem enqueue_other (behind : track.Behind id patches s t) {other : String} {now : Nat}
    {patch : Patch} {p : Writes.Processor} (queued : s.processor.enqueue now other patch = .ok p)
    (different : other ≠ id) :
    track.Behind id patches { s with processor := p } t := by
  obtain ⟨regular, deliveriesEq, acceptedEq⟩ := behind.regular.enqueue queued
  refine ⟨regular, behind.sound, behind.gives, ?_, deliveriesEq ▸ behind.tracked⟩
  rw [patches_of_changes, acceptedEq, List.filter_append, List.map_append, ← patches_of_changes,
    behind.queued]
  simp [different]

/-- The patches of the writes that stand in some place were queued. -/
theorem gives_of_mem (behind : track.Behind id patches s t) {w : Write}
    (wMem : w ∈ s.processor.places) (own : w.id = id) : track.Gives w.patch := by
  have change : w.change ∈ s.processor.accepted.map Write.change :=
    behind.regular.accounted.changes_perm.subset (List.mem_map_of_mem (List.mem_append_left _ wMem))
  obtain ⟨accepted, acceptedMem, same⟩ := List.mem_map.mp change
  obtain ⟨sameId, samePatch⟩ := Prod.mk.inj same
  apply behind.gives
  rw [← behind.queued, ← samePatch]
  exact List.mem_map_of_mem (List.mem_filter.mpr ⟨acceptedMem, by simpa using sameId.trans own⟩)

/-- The table takes writes of the identifier and of others. -/
theorem tableStep (behind : track.Behind id patches s t) (step : TableStep s t s' t') :
    track.Behind id patches s' t' := by
  obtain ⟨regular, delivers, acceptedEq⟩ := step.delivers behind.regular
  have queued : (s'.processor.accepted.filter (·.id = id)).map Write.patch = patches := by
    rw [patches_of_changes, acceptedEq, ← patches_of_changes, behind.queued]
  cases delivers with
  | nothing same => exact ⟨regular, behind.sound, behind.gives, queued, same ▸ behind.tracked⟩
  | @batch clock marked final markedEq takesAll deliveriesEq =>
      have delivered : ∀ p ∈ (s.processor.deliveries.filter (·.id = id)).map Write.patch,
          track.Gives p := by
        intro p pMem
        obtain ⟨w, wMem, rfl⟩ := List.mem_map.mp pMem
        obtain ⟨inDeliveries, own⟩ := List.mem_filter.mp wMem
        exact behind.gives_of_mem (by simp [Writes.Processor.places, inDeliveries])
          (by simpa using own)
      have more : ∀ w ∈ acceptedOf marked, w.id = id → track.Gives w.patch := by
        intro w wMem own
        have flying : w ∈ s.processor.flight := by
          rw [← markedEq]
          exact (List.filter_sublist.map Prod.fst).mem wMem
        exact behind.gives_of_mem (by simp [Writes.Processor.places, flying]) own
      refine ⟨regular, takesAll.schema_eq ▸ behind.sound, behind.gives, queued, ?_⟩
      rw [deliveriesEq, List.filter_append, List.map_append]
      exact takesAll.tracked behind.sound behind.tracked delivered more

/-- The table may change in the rows of others. -/
theorem aside (behind : track.Behind id patches s t) (schema : t'.schema = t.schema)
    (row : t'.row? id = t.row? id) : track.Behind id patches s t' :=
  ⟨behind.regular, schema ▸ behind.sound, behind.gives, behind.queued, by
    rw [Table.Tracked, row]
    exact behind.tracked⟩

/-- Once nothing of the identifier waits or was given up, its row keeps the value
that was queued last. -/
theorem settled (behind : track.Behind id patches s t) (settled : SettledFor id s.processor)
    (written : patches ≠ []) : ∃ row, t.row? id = some row ∧
      track.column.Keeps (track.last patches) (row.cell track.column.name) := by
  have tracked := behind.tracked
  rw [behind.regular.patches_eq_of_settled settled, behind.queued] at tracked
  exact tracked.resolve_left fun ⟨unwritten, _⟩ => written unwritten

end Track.Behind

end Outreach.Store
