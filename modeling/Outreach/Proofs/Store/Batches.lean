import Outreach.Proofs.Store.Mirrors

/-!
# Rows hold what was written

However the writes of an identifier are split over batches, and whatever writes of others stand
between them, the row holds the document that the accepted ones tell. It is as if the patches had
been applied one after the other without any table, up to what the columns do to values. Three
things set a table apart: a null that creates a row counts as given in a column of documents, a
document that is equal to the one before is not put down again, and whole numbers of more than 53
binary digits are no doubles.
-/

namespace Outreach.Store

open Writes (Write valueOf)

/-- Batches that a table is given one after the other: the writes that it accepts, each with the
clock of its batch, and the table afterwards. -/
inductive Batches (t : Table) : List (Clock × Write) → Table → Prop
  | start : Batches t [] t
  | taken {accepted : List (Clock × Write)} {between after : Table} {clock : Clock}
      {writes : List Write}
      {result : Writes.BulkResult} (before : Batches t accepted between) (wall : clock.IsWallClock)
      (distinct : (writes.map Write.ticket).Nodup)
      (upserted : between.upsert clock writes = (after, .ok result)) :
      Batches t (accepted ++ (writes.filter fun w => !Writes.rejects result.failed w).map
        (clock, ·)) after
  | givenUp {accepted : List (Clock × Write)} {between after : Table} {clock : Clock}
      {writes : List Write} {why : Breakdown} (before : Batches t accepted between)
      (upserted : between.upsert clock writes = (after, .error why)) : Batches t accepted after

section Batches

variable {t after : Table} {accepted : List (Clock × Write)} {id : String}

theorem Batches.mirrors (batches : Batches t accepted after) (faithful : t.schema.Faithful)
    (fresh : t.row? id = none) (suits : ∀ w ∈ accepted, w.2.id = id → t.schema.Suits w.2.patch)
    (exactly : t.schema.ExactThroughout (t.schema.toldOf id accepted)) :
    after.schema = t.schema ∧
    ∃ document?, t.schema.document? (t.schema.toldOf id accepted) = .ok document? ∧
      after.Mirrors id document? := by
  induction batches with
  | start => exact ⟨rfl, none, rfl, fresh⟩
  | @givenUp accepted between after clock writes why before upserted ih =>
      have untouched : after = between := by
        unfold Table.upsert at upserted
        split at upserted
        · simp at upserted
        · exact (Prod.mk.inj upserted).1.symm
      rw [untouched]
      exact ih suits exactly
  | @taken accepted between after clock writes result before wall distinct upserted ih =>
      obtain ⟨marked, final, rfl, takesAll, rfl, rfl⟩ := upsert_eq_ok_iff.mp upserted
      rw [List.map_map] at distinct
      rw [(verdicts_of_takesAll takesAll).filter_eq_acceptedOf distinct] at suits exactly ⊢
      have earlier :=
        toldOf_append t.schema id accepted ((acceptedOf marked).map (clock, ·)) ▸ exactly
      obtain ⟨schemaEq, before?, beforeEq, mirrors⟩ :=
        ih (fun w wMem => suits w (List.mem_append_left _ wMem)) earlier.of_append
      rw [← schemaEq] at faithful suits exactly beforeEq ⊢
      obtain ⟨finalSchema, after?, toldEq, finalMirrors⟩ :=
        takesAll.mirrors faithful wall beforeEq mirrors
          (fun w wMem own =>
            suits (clock, w) (List.mem_append_right _ (List.mem_map_of_mem wMem)) own) exactly
      exact ⟨finalSchema, after?, toldEq, finalMirrors⟩

/-- A row holds what was written to its identifier. In whatever batches the writes come and whatever
else these hold, the row stores the document that its accepted writes tell: the patch of the first
one applied to nothing, with the presets of the columns that it leaves open, and then the patches of
the others, one after the other. Fields that are no columns make no difference to it. -/
theorem row_stores_document (schemaMem : t.schema ∈ schemas) (fresh : t.row? id = none)
    (batches : Batches t accepted after)
    (suits : ∀ w ∈ accepted, w.2.id = id → t.schema.Suits w.2.patch)
    (exactly : t.schema.ExactThroughout (t.schema.toldOf id accepted)) :
    ∃ document?, t.schema.document? (t.schema.toldOf id accepted) = .ok document? ∧
      (∀ whole, t.schema.document? (accepted.filter (·.2.id = id)) = .ok (some whole) →
        document? = some (whole.filter (t.schema.isColumn ·.1))) ∧
      match document?, after.row? id with
      | none, none => True
      | some document, some row => ∀ column ∈ t.schema.columns, column.name ≠ stampColumn →
          column.Stores (valueOf column.name document) (row.cell column.name)
      | _, _ => False := by
  obtain ⟨schemaEq, document?, toldEq, mirrors⟩ :=
    batches.mirrors (schemas_faithful schemaMem) fresh suits exactly
  refine ⟨document?, toldEq, ?_, ?_⟩
  · intro whole wholeEq
    exact Except.ok.inj (toldEq.symm.trans (document?_known wholeEq))
  · cases document? with
    | none =>
        have missing : after.row? id = none := mirrors
        rw [missing]
        trivial
    | some document =>
        obtain ⟨-, row, found, rowMirrors⟩ := mirrors
        have foundRow : after.row? id = some row := found
        rw [foundRow]
        intro column columnMem unstamped
        have afterMem : column ∈ after.schema.columns := schemaEq ▸ columnMem
        exact rowMirrors.stores column afterMem unstamped

/-! ## A customer who comes back -/

/-- A batch of which nothing is refused is accepted as a whole. -/
theorem Batches.takenAll {between : Table} {clock : Clock} {writes : List Write}
    (before : Batches t accepted between) (wall : clock.IsWallClock)
    (distinct : (writes.map Write.ticket).Nodup) (all : (match (between.upsert clock writes).2 with
      | .ok result => result.failed.isEmpty
      | .error _ => false) = true) :
    Batches t (accepted ++ writes.map (clock, ·)) (between.upsert clock writes).1 := by
  cases upserted : between.upsert clock writes with
  | mk after outcome =>
      rw [upserted] at all
      cases outcome with
      | error why => cases all
      | ok result =>
          have none : result.failed = [] := List.isEmpty_iff.mp all
          have taken := before.taken wall distinct upserted
          rw [none] at taken
          simpa [Writes.rejects, Writes.lastReason?] using taken

/-- Noon of a day. -/
def noon : Clock := ⟨⟨2024, 6, 1⟩, 12, 0, 0, 0, some 0⟩

theorem noon_isWallClock : noon.IsWallClock :=
  ⟨by decide, by decide, by decide, by decide, by decide⟩

/-- Two new customers, one of whom has spent something. -/
def newCustomers : List Write :=
  [⟨0, "alice", ⟨[("name", .text "Alice"), ("email", .text "alice@example.com")],
    [("total_spend", .int 5)]⟩, 0⟩,
    ⟨1, "bob", ⟨[("name", .text "Bob"), ("email", .text "bob@example.com")], []⟩, 0⟩]

/-- A customer who comes back. -/
def secondVisit : List Write :=
  [⟨2, "alice", ⟨[("phone", .text "555")], [("total_spend", .int 3), ("visits", .int 1)]⟩, 0⟩]

theorem suits_visits {w : Write} (wMem : w ∈ newCustomers ++ secondVisit) :
    customerSchema.Suits w.patch := by
  have five : ColumnKind.real.Adds (.int 5) := ⟨Or.inl rfl, .digits (by decide), by simp⟩
  have three : ColumnKind.real.Adds (.int 3) := ⟨Or.inl rfl, .digits (by decide), by simp⟩
  have one : ColumnKind.whole.Adds (.int 1) := ⟨Or.inr rfl, .whole 1, by simp⟩
  simp only [newCustomers, secondVisit, List.cons_append, List.nil_append, List.mem_cons,
    List.not_mem_nil, or_false] at wMem
  rcases wMem with rfl | rfl | rfl
  all_goals
    refine ⟨by decide, by decide, fun column columnMem => ⟨?_, ?_⟩⟩
    all_goals
      revert column
      simp [customerSchema, textColumn, optionalText, countColumn, stampColumns, stampColumn,
        Keyed.get?_cons, ColumnKind.Takes.text, five, three, one]

theorem exact_of_spent {told : List (Clock × Write)} {document : Fields} {spent : Int}
    (toldEq : customerSchema.document? told = .ok (some document)) (few : spent.natAbs ≤ 2 ^ 53)
    (spentEq : (customerSchema.document? told).map (·.map (valueOf "total_spend")) =
      .ok (some (.int spent))) :
    customerSchema.Exact document := by
  have only : ∀ column ∈ customerSchema.columns, column.kind = .real →
      column.name = "total_spend" := by decide
  rw [toldEq] at spentEq
  have spentEq : valueOf "total_spend" document = .int spent :=
    Option.some.inj (Except.ok.inj spentEq)
  intro column columnMem kind i valueEq
  rw [only column columnMem kind, spentEq] at valueEq
  cases valueEq
  exact few

/-- Both batches are accepted as a whole. -/
theorem visits_accepted :
    Batches (Table.empty customerSchema) ((newCustomers ++ secondVisit).map (noon, ·))
    (((Table.empty customerSchema).upsert noon newCustomers).1.upsert noon secondVisit).1 := by
  have first : Batches (Table.empty customerSchema) (newCustomers.map (noon, ·))
      ((Table.empty customerSchema).upsert noon newCustomers).1 :=
    @Batches.takenAll _ [] _ noon newCustomers .start noon_isWallClock (by decide)
    (by decide +kernel)
  rw [List.map_append]
  exact first.takenAll noon_isWallClock (by decide) (by decide +kernel)

/-- What is spent in the two visits has few digits. -/
theorem visits_exact : customerSchema.ExactThroughout
    (customerSchema.toldOf "alice" ((newCustomers ++ secondVisit).map (noon, ·))) := by
  intro part document partPrefix partEq
  have few : part.length ≤ 2 := partPrefix.length_le
  rw [List.prefix_iff_eq_take] at partPrefix
  generalize part.length = k at few partPrefix
  subst partPrefix
  obtain rfl | rfl | rfl : k = 0 ∨ k = 1 ∨ k = 2 := by omega
  · cases partEq
  · exact @exact_of_spent _ _ 5 partEq (by decide) rfl
  · exact @exact_of_spent _ _ 8 partEq (by decide) rfl

/-- The row of a customer who comes back holds what both writes tell. -/
theorem secondVisit_stored :
    let customers := Table.empty customerSchema
    let after := ((customers.upsert noon newCustomers).1.upsert noon secondVisit).1
    let accepted := (newCustomers ++ secondVisit).map (noon, ·)
    let told := customers.schema.toldOf "alice" accepted
    (customers.schema ∈ schemas ∧ customers.row? "alice" = none ∧ Batches customers accepted after ∧
      (∀ w ∈ accepted, w.2.id = "alice" → customers.schema.Suits w.2.patch) ∧
      customers.schema.ExactThroughout told) ∧
    ∃ document row, customers.schema.document? told = .ok (some document) ∧
      after.row? "alice" = some row ∧ valueOf "total_spend" document = .int 8 ∧
      ∀ column ∈ customers.schema.columns, column.name ≠ stampColumn →
        column.Stores (valueOf column.name document) (row.cell column.name) := by
  intro customers after accepted told
  have schemaMem : customers.schema ∈ schemas := List.mem_cons_self
  have batches : Batches customers accepted after := visits_accepted
  have exactly : customers.schema.ExactThroughout told := visits_exact
  have suits : ∀ w ∈ accepted, w.2.id = "alice" → customers.schema.Suits w.2.patch := by
    intro w wMem _
    obtain ⟨write, writeMem, rfl⟩ := List.mem_map.mp wMem
    exact suits_visits writeMem
  have spentBoth : (customerSchema.document? told).map (·.map (valueOf "total_spend")) =
      .ok (some (.int 8)) := rfl
  refine ⟨⟨schemaMem, rfl, batches, suits, exactly⟩, ?_⟩
  obtain ⟨document?, toldEq, -, stored⟩ := row_stores_document schemaMem rfl batches suits exactly
  have toldEq : customerSchema.document? told = .ok document? := toldEq
  rw [toldEq] at spentBoth
  cases document? with
  | none => cases spentBoth
  | some document =>
      cases found : after.row? "alice" with
      | none =>
          rw [found] at stored
          exact stored.elim
      | some row =>
          rw [found] at stored
          exact ⟨document, row, toldEq, rfl, Option.some.inj (Except.ok.inj spentBoth), stored⟩

/-! ## Where rows differ -/

/-- The cell of a row. -/
def cellOf (id name : String) (t : Table) : Cell := (t.row? id).bind (Row.cell name)

/-- An order whose items are null. -/
def orderOfNothing : Write :=
  ⟨0, "o1", ⟨[("amount", .float 10.5), ("customer_id", .text "alice"), ("items", .null)], []⟩, 0⟩

/-- An order of one thing, and the same order with its items spelled in another way. -/
def respelledOrder : List Write :=
  [⟨0, "o1", ⟨[("amount", .float 10.5), ("customer_id", .text "alice"), ("items", .list [.int 1])],
    []⟩, 0⟩,
    ⟨1, "o1", ⟨[("items", .list [.bool true])], []⟩, 0⟩]

/-- A customer who has spent more than doubles can count. -/
def bigSpender : Write :=
  ⟨0, "alice", ⟨[("name", .text "Alice"), ("email", .text "alice@example.com"),
    ("total_spend", .int (2 ^ 53))],
    [("total_spend", .int 1)]⟩, 0⟩

/-- One more is spent. -/
def oneMore : Write := ⟨1, "alice", ⟨[], [("total_spend", .int 1)]⟩, 0⟩

/-- A number in a column of doubles is kept as its nearest double. -/
theorem floatOfInt?_of_keeps {column : Column} (kind : column.kind = .real) {i : Int} {x : Float}
    (keeps : column.Keeps (.int i) (some (.float x))) : Decimal.floatOfInt? i = some x := by
  obtain ⟨prepared, place, preparedEq, bound⟩ := keeps
  simp only [Column.prepare, kind, keepReal, Value.whole?] at preparedEq
  split at preparedEq
  · rename_i nearest nearestEq
    cases preparedEq
    have keptEq := bindCell_eq (Or.inl kind) (by simp) bound
    cases keptEq
    exact nearestEq
  · cases preparedEq

/-- The items of an order. -/
def itemsColumn : Column := ⟨"items", .structured, false, .value (.list [])⟩

/-- What a customer has spent. -/
def spendColumn : Column := ⟨"total_spend", .real, false, .value (.int 0)⟩

theorem null_not_preset : ¬itemsColumn.Stores (itemsColumn.preset noon) (some .null) := by
  rintro (keeps | ⟨-, kept, agrees, keeps⟩)
  · cases keeps.of_document rfl (.list [])
  · cases kept with
    | list items => cases keeps.of_document rfl (.list items)
    | _ =>
        simp [itemsColumn, Column.preset, Value.agrees, Value.sameNumber, Value.quantity?] at agrees

theorem true_not_one {kept : Cell} (written : kept.map Value.literal = some "[1]") :
    ¬itemsColumn.Keeps (.list [.bool true]) kept := by
  intro keeps
  cases keeps.of_document rfl (.list _)
  revert written
  decide +kernel

theorem long_not_double :
    ¬spendColumn.Stores (.int (2 ^ 53 + 2)) (some (.float (Float.ofInt (2 ^ 53)))) := by
  rintro (keeps | ⟨other, -⟩)
  · have nearest := congrArg (Option.map Float.toBits) (floatOfInt?_of_keeps rfl keeps)
    revert nearest
    decide +kernel
  · cases other

/-- A table does not simply apply patches. It keeps a null among documents where a row is created,
although the column has a preset; it keeps a document as it was when a later one is equal to it; and
it forgets the last digit of a long whole number between two writes, although the patches add up to
one that is a double. -/
theorem rows_set_apart :
    (let upserted := (Table.empty orderSchema).upsert noon [orderOfNothing]
     itemsColumn ∈ orderSchema.columns ∧ upserted.2.isOk = true ∧
      ¬itemsColumn.Stores (itemsColumn.preset noon) (cellOf "o1" "items" upserted.1)) ∧
    (let upserted := (Table.empty orderSchema).upsert noon respelledOrder
     upserted.2.isOk = true ∧
      (Writes.applyAll (respelledOrder.map Write.patch) none).map (·.map (valueOf "items")) =
        .ok (some (.list [.bool true])) ∧
      ¬itemsColumn.Keeps (.list [.bool true]) (cellOf "o1" "items" upserted.1)) ∧
    (let first := (Table.empty customerSchema).upsert noon [bigSpender]
     let second := first.1.upsert noon [oneMore]
     spendColumn ∈ customerSchema.columns ∧ first.2.isOk = true ∧ second.2.isOk = true ∧
      (Writes.applyAll [bigSpender.patch, oneMore.patch] none).map (·.map (valueOf "total_spend")) =
        .ok (some (.int (2 ^ 53 + 2))) ∧
      ¬spendColumn.Stores (.int (2 ^ 53 + 2)) (cellOf "alice" "total_spend" second.1)) := by
  refine ⟨⟨?_, by decide +kernel, null_not_preset⟩,
    ⟨by decide +kernel, rfl, true_not_one (by decide +kernel)⟩,
    ⟨?_, by decide +kernel, by decide +kernel, rfl, long_not_double⟩⟩
  · simp [itemsColumn, orderSchema]
  · simp [spendColumn, customerSchema]

end Batches

end Outreach.Store
