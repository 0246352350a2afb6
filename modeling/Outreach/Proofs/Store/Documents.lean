import Outreach.Proofs.Store.Typed
import Outreach.Proofs.Store.UnknownFields
import Outreach.Proofs.Writes.Transparency

/-!
# The document that writes tell

Writes of one identifier tell a document without any table: the first one makes it, the columns that
it leaves open get their defaults, and the others change it. If what the writes say is of the types
of the columns, each of them can be applied, and so is the document.
-/

namespace Outreach.Store

open Writes (Write valueOf)

/-- What a column gets where a new row is given nothing. -/
def Column.preset (clock : Clock) (column : Column) : Value :=
  match column.default with
  | .nothing => .null
  | .value v => v
  | .clock => .time clock
  | .storeClock => .time (storeTime clock)

/-- A schema whose columns can be told from their cells, with defaults of their types. -/
structure TableSchema.Faithful (schema : TableSchema) : Prop where
  distinct : (schema.columns.map Column.name).Nodup
  noId : ∀ column ∈ schema.columns, column.name ≠ "id"
  columns : ∀ column ∈ schema.columns, column.Faithful
  preset : ∀ column ∈ schema.columns, ∀ clock : Clock, clock.IsWallClock →
    column.kind.Takes (column.preset clock)
  clock : ∀ column ∈ schema.columns, column.default = .storeClock → column.kind = .time

/-- The schemas of the program. -/
def schemas : List TableSchema :=
  [customerSchema, orderSchema, segmentSchema, campaignSchema, logSchema]

theorem isWallClock_storeTime {clock : Clock} (wall : clock.IsWallClock) :
    (storeTime clock).IsWallClock :=
  ⟨wall.date, wall.hour, wall.minute, wall.second, by simp [storeTime]⟩

/-- Every default of the program is of the type of its column. -/
theorem takes_preset {schema : TableSchema} (schemaMem : schema ∈ schemas) {column : Column}
    (columnMem : column ∈ schema.columns) {clock : Clock} (wall : clock.IsWallClock) :
    column.kind.Takes (column.preset clock) := by
  have zero : ColumnKind.real.Takes (.int 0) := .digits (by decide)
  have pending :=
    @ColumnKind.Takes.member "order_status_enum" orderStatuses ("PENDING", "pending") (by decide)
  have email :=
    @ColumnKind.Takes.member "campaign_type_enum" campaignTypes ("EMAIL", "email") (by decide)
  have draft := @ColumnKind.Takes.member "campaign_status_enum" campaignStatuses
    ("DRAFT", "draft") (by decide)
  have unsent :=
    @ColumnKind.Takes.member "delivery_status_enum" deliveryStatuses ("PENDING", "PENDING")
    (by decide)
  have now := ColumnKind.Takes.time wall
  have stamp := ColumnKind.Takes.time (isWallClock_storeTime wall)
  simp only [schemas, List.mem_cons, List.not_mem_nil, or_false] at schemaMem
  revert column
  rcases schemaMem with rfl | rfl | rfl | rfl | rfl <;>
    simp [customerSchema, orderSchema, segmentSchema, campaignSchema, logSchema, textColumn,
      optionalText, countColumn, optionalTime, stampColumns, Column.preset, zero, pending, email,
      draft, unsent, now, stamp,
      ColumnKind.Takes.null, ColumnKind.Takes.whole, ColumnKind.Takes.list]

theorem schemas_faithful {schema : TableSchema} (schemaMem : schema ∈ schemas) :
    schema.Faithful := by
  have required : ∀ schema ∈ schemas, ∀ column ∈ schema.columns,
      column.kind = .real ∨ column.kind = .structured → column.nullable = false := by decide
  have names : ∀ schema ∈ schemas, ∀ column ∈ schema.columns,
      (column.kind.members.map Prod.fst).Nodup := by
    decide
  have values : ∀ schema ∈ schemas, ∀ column ∈ schema.columns,
      (column.kind.members.map Prod.snd).Nodup := by
    decide
  have distinct : ∀ schema ∈ schemas, (schema.columns.map Column.name).Nodup := by decide
  have noId : ∀ schema ∈ schemas, ∀ column ∈ schema.columns, column.name ≠ "id" := by decide
  refine ⟨distinct schema schemaMem, noId schema schemaMem, fun column columnMem =>
    ⟨required schema schemaMem column columnMem, names schema schemaMem column columnMem,
      values schema schemaMem column columnMem⟩,
    fun column columnMem _ => takes_preset schemaMem columnMem, ?_⟩
  simp only [schemas, List.mem_cons, List.not_mem_nil, or_false] at schemaMem
  rcases schemaMem with rfl | rfl | rfl | rfl | rfl <;>
    simp [customerSchema, orderSchema, segmentSchema, campaignSchema, logSchema, textColumn,
      optionalText, countColumn, optionalTime, stampColumns]

/-! ## The fold -/

/-- What a column of a new row gets: what it is given, or its preset. A null counts as given only
among documents. -/
def Column.initial (clock : Clock) (created : Fields) (column : Column) : Value :=
  match Keyed.get? column.name created with
  | some value => if value.isNull && column.kind ≠ .structured then column.preset clock else value
  | none => column.preset clock

/-- A new document with all columns of a table. -/
def TableSchema.filled (schema : TableSchema) (clock : Clock) (created : Fields) : Fields :=
  schema.columns.map fun column => (column.name, column.initial clock created)

/-- What a write makes of nothing, or of a document. -/
def TableSchema.tell (schema : TableSchema) (clock : Clock) (w : Write) :
    Option Fields → Except AddFault Fields
  | none => do .ok (schema.filled clock (← w.patch.applyTo none))
  | some document => w.patch.applyTo (some document)

/-- The document that writes tell, each with the clock of its batch: the first makes it
from nothing, with the presets of the columns that it leaves open, and the others change
it one after the other. -/
def TableSchema.document? (schema : TableSchema) :
    List (Clock × Write) → Except AddFault (Option Fields)
  | [] => .ok none
  | (clock, first) :: rest => do
    let created ← first.patch.applyTo none
    Writes.applyAll (rest.map (·.2.patch)) (some (schema.filled clock created))

/-- What a patch has for each column is of the type of the column, and it names nothing twice. -/
structure TableSchema.Suits (schema : TableSchema) (p : Writes.Patch) : Prop where
  setDistinct : (p.set.map Prod.fst).Nodup
  incDistinct : (p.inc.map Prod.fst).Nodup
  columns : ∀ column ∈ schema.columns, column.Suits p

/-- The values of a document are of the types of their columns. -/
def TableSchema.Types (schema : TableSchema) (document : Fields) : Prop :=
  ∀ column ∈ schema.columns, column.kind.Takes (valueOf column.name document)

/-- The whole numbers of a document in columns of doubles have up to 53 binary digits. -/
def TableSchema.Exact (schema : TableSchema) (document : Fields) : Prop :=
  ∀ column ∈ schema.columns, column.kind = .real →
    ∀ i, valueOf column.name document = .int i → i.natAbs ≤ 2 ^ 53

section Fold

variable {schema : TableSchema} {clock : Clock} {w : Write} {told : List (Clock × Write)}
  {document created after : Fields} {p : Writes.Patch} {column : Column}

theorem applyAll_ne_none (patches : List Writes.Patch) (document : Fields) :
    Writes.applyAll patches (some document) ≠ .ok none := by
  induction patches generalizing document with
  | nil => simp [Writes.applyAll]
  | cons first rest ih =>
      intro applied
      obtain ⟨next, -, restApplied⟩ := bind_eq_ok_iff.mp applied
      exact ih next restApplied

/-- A further write makes the document or changes it. -/
theorem document?_concat {document? : Option Fields}
    (earlier : schema.document? told = .ok document?)
    (applied : schema.tell clock w document? = .ok after) :
    schema.document? (told ++ [(clock, w)]) = .ok (some after) := by
  cases told with
  | nil =>
      obtain rfl := Except.ok.inj earlier
      obtain ⟨created, createdEq, filledEq⟩ := bind_eq_ok_iff.mp applied
      obtain rfl := Except.ok.inj filledEq
      exact bind_eq_ok_iff.mpr ⟨created, createdEq, rfl⟩
  | cons first rest =>
      obtain ⟨created, firstApplied, restApplied⟩ := bind_eq_ok_iff.mp earlier
      cases document? with
      | none => exact absurd restApplied (applyAll_ne_none _ _)
      | some document =>
          rw [List.cons_append]
          refine bind_eq_ok_iff.mpr ⟨created, firstApplied, ?_⟩
          rw [List.map_append, Writes.applyAll_append, restApplied]
          exact bind_eq_ok_iff.mpr ⟨some document, rfl, bind_eq_ok_iff.mpr ⟨after, applied, rfl⟩⟩

theorem valueOf_filled (distinct : (schema.columns.map Column.name).Nodup)
    (columnMem : column ∈ schema.columns) (clock : Clock) (created : Fields) :
    valueOf column.name (schema.filled clock created) = column.initial clock created := by
  rw [valueOf, TableSchema.filled, Keyed.get?_map_of_mem _ distinct columnMem]
  rfl

/-! ## Without unknown fields -/

theorem isColumn_name (columnMem : column ∈ schema.columns) :
    schema.isColumn column.name = true := by
  simpa [TableSchema.isColumn] using ⟨column, columnMem, rfl⟩

theorem filled_filter (clock : Clock) (created : Fields) :
    schema.filled clock (created.filter (schema.isColumn ·.1)) = schema.filled clock created := by
  apply List.map_congr_left
  intro column columnMem
  rw [Column.initial, Keyed.get?_filter schema.isColumn (isColumn_name columnMem)]
  rfl

/-- If writes tell a document, they tell its columns without their unknown fields. -/
theorem document?_known (toldEq : schema.document? told = .ok (some document)) :
    schema.document? (told.map fun w => (w.1, schema.known w.2)) =
      .ok (some (document.filter (schema.isColumn ·.1))) := by
  cases told with
  | nil => cases toldEq
  | cons first rest =>
      obtain ⟨created, firstApplied, restApplied⟩ := bind_eq_ok_iff.mp toldEq
      have filledKnown :
          (schema.filled first.1 created).filter (schema.isColumn ·.1) =
          schema.filled first.1 created := by
        apply List.filter_eq_self.mpr
        intro entry entryMem
        obtain ⟨column, columnMem, rfl⟩ := List.mem_map.mp entryMem
        exact isColumn_name columnMem
      have restKnown := Writes.applyAll_only schema.isColumn restApplied
      rw [filledKnown, ← filled_filter] at restKnown
      refine bind_eq_ok_iff.mpr ⟨_, Writes.Patch.applyTo_only _ firstApplied, ?_⟩
      rw [List.map_map] at restKnown ⊢
      exact restKnown

/-! ## Documents of the columns' types -/

theorem suits_known (suits : schema.Suits p) : schema.Suits (p.only schema.isColumn) where
  setDistinct := suits.setDistinct.sublist (List.filter_sublist.map Prod.fst)
  incDistinct := suits.incDistinct.sublist (List.filter_sublist.map Prod.fst)
  columns column columnMem := by
    have keeps := isColumn_name columnMem
    constructor
    · intro value found
      rw [Writes.Patch.only, Keyed.get?_filter schema.isColumn keeps] at found
      exact (suits.columns column columnMem).set value found
    · intro delta found
      rw [Writes.Patch.only, Keyed.get?_filter schema.isColumn keeps] at found
      exact (suits.columns column columnMem).inc delta found

/-- A suitable patch of columns can be applied. -/
theorem exists_applyTo_known (suits : schema.Suits p) (types : schema.Types document) :
    ∃ after, (p.only schema.isColumn).applyTo (some document) = .ok after := by
  have known := suits_known suits
  apply Writes.Patch.exists_applyTo known.setDistinct known.incDistinct
  intro entry entryMem
  obtain ⟨column, columnMem, nameEq⟩ : ∃ column ∈ schema.columns, column.name = entry.1 := by
    simpa [TableSchema.isColumn] using List.of_mem_filter entryMem
  have columnSuits := known.columns column columnMem
  have adds := columnSuits.inc entry.2 (nameEq ▸ Keyed.get?_of_mem known.incDistinct entryMem)
  obtain ⟨sum, sumEq, -⟩ := adds.exists_increase (columnSuits.takes_base (types column columnMem))
  rw [← nameEq]
  exact ⟨sum, sumEq⟩

theorem types_applyTo (suits : schema.Suits p) (types : schema.Types document)
    (applied : p.applyTo (some document) = .ok after) (exactly : schema.Exact after) :
    schema.Types after := by
  intro column columnMem
  have effect :=
    Writes.Patch.effect_of_applyTo suits.setDistinct suits.incDistinct applied column.name
  exact (suits.columns column columnMem).takes_effect (types column columnMem) effect
    (exactly column columnMem)

theorem types_filled (faithful : schema.Faithful) (wall : clock.IsWallClock)
    (suits : schema.Suits p) (applied : p.applyTo none = .ok created)
    (exactly : schema.Exact (schema.filled clock created)) :
    schema.Types (schema.filled clock created) := by
  intro column columnMem
  have few := exactly column columnMem
  rw [valueOf_filled faithful.distinct columnMem] at few ⊢
  have effect :=
    Writes.Patch.effect_of_applyTo suits.setDistinct suits.incDistinct applied column.name
  have preset := faithful.preset column columnMem clock wall
  unfold Column.initial at few ⊢
  unfold valueOf at effect
  cases given : Keyed.get? column.name created with
  | none => exact preset
  | some value =>
      rw [given] at effect few
      dsimp only at few ⊢
      split
      · exact preset
      · rename_i counts
        rw [if_neg counts] at few
        exact (suits.columns column columnMem).takes_effect (.null _) effect few

end Fold

end Outreach.Store
