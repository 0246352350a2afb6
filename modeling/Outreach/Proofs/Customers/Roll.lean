import Mathlib.Data.List.Forall2
import Outreach.Customers
import Outreach.Proofs.Decimal.Range
import Outreach.Proofs.Segments.Creation
import Outreach.Proofs.Store.Verdicts
import Outreach.Proofs.Writes.Conservation

/-!
# New customers in their table

Of the writes of new customers a table takes the first one of each address and refuses every other
one, whatever the batches are. So the rows it adds are those of a roll on which a customer is
entered unless the address is already there.
-/

namespace Outreach.Customers

open Store

/-- A new customer, with the identifier and the time that were given. -/
structure Signup where
  id : String
  customer : Form.NewCustomer
  time : DateTime

/-! ## The roll -/

/-- Enters a new customer at the end of a roll, unless the address is on it. -/
def enroll (roll : List Signup) (signup : Signup) : List Signup :=
  if signup.customer.email ∈ roll.map (·.customer.email) then roll else roll ++ [signup]

/-- The roll of customers who came one after the other. -/
def rollOf (signups : List Signup) : List Signup := signups.foldl enroll []

section Roll

variable {roll signups : List Signup} {signup : Signup} {address : String}

theorem enroll_of_taken (taken : signup.customer.email ∈ roll.map (·.customer.email)) :
    enroll roll signup = roll := if_pos taken

theorem enroll_of_free (free : signup.customer.email ∉ roll.map (·.customer.email)) :
    enroll roll signup = roll ++ [signup] := if_neg free

theorem address_mem_enroll : address ∈ (enroll roll signup).map (·.customer.email) ↔
    address ∈ roll.map (·.customer.email) ∨ address = signup.customer.email := by
  unfold enroll
  split
  · rename_i taken
    constructor
    · exact .inl
    · rintro (known | rfl)
      · exact known
      · exact taken
  · simp

/-- An address is on the roll as soon as somebody came with it. -/
theorem address_mem_foldl_enroll : address ∈ (signups.foldl enroll roll).map (·.customer.email) ↔
    address ∈ roll.map (·.customer.email) ∨ address ∈ signups.map (·.customer.email) := by
  induction signups generalizing roll with
  | nil => simp
  | cons first rest ih =>
      rw [List.foldl_cons, ih, address_mem_enroll, List.map_cons, List.mem_cons, or_assoc]

/-- Customers whose addresses are on the roll change nothing. -/
theorem foldl_enroll_of_taken
    (taken : ∀ signup ∈ signups, signup.customer.email ∈ roll.map (·.customer.email)) :
    signups.foldl enroll roll = roll := by
  induction signups with
  | nil => rfl
  | cons first rest ih =>
      rw [List.foldl_cons, enroll_of_taken (taken first List.mem_cons_self)]
      exact ih fun other otherMem => taken other (List.mem_cons_of_mem _ otherMem)

theorem rollOf_concat (signups : List Signup) (signup : Signup) :
    rollOf (signups ++ [signup]) = enroll (rollOf signups) signup := by
  simp [rollOf]

/-- Whoever is on the roll stays there. -/
theorem subset_foldl_enroll (signups roll : List Signup) : roll ⊆ signups.foldl enroll roll := by
  induction signups generalizing roll with
  | nil => exact List.Subset.refl roll
  | cons first rest ih =>
      refine List.Subset.trans ?_ (ih (enroll roll first))
      unfold enroll
      split
      · exact List.Subset.refl roll
      · exact List.subset_append_left roll [first]

theorem foldl_enroll_subset (signups roll : List Signup) :
    signups.foldl enroll roll ⊆ roll ++ signups := by
  induction signups generalizing roll with
  | nil => simp
  | cons first rest ih =>
      refine List.Subset.trans (ih (enroll roll first)) ?_
      unfold enroll
      split
      · intro signup signupMem
        simp only [List.mem_append, List.mem_cons] at signupMem ⊢
        tauto
      · rw [List.append_assoc, List.singleton_append]
        exact List.Subset.refl _

theorem nodup_addresses_rollOf (signups : List Signup) :
    ((rollOf signups).map (·.customer.email)).Nodup := by
  induction signups using List.reverseRecOn with
  | nil => exact List.nodup_nil
  | append_singleton signups last ih =>
      rw [rollOf_concat]
      unfold enroll
      split
      · exact ih
      · rename_i free
        rw [List.map_append]
        exact ih.append (List.nodup_singleton _) (by simpa using free)

/-- A customer is on the roll exactly if nobody came before with that address. -/
theorem mem_rollOf_iff : signup ∈ rollOf signups ↔ ∃ earlier later,
    signups = earlier ++ signup :: later ∧
      signup.customer.email ∉ earlier.map (·.customer.email) := by
  have known (others : List Signup) :
      signup.customer.email ∈ (rollOf others).map (·.customer.email) ↔
      signup.customer.email ∈ others.map (·.customer.email) := by
    rw [rollOf, address_mem_foldl_enroll]
    simp
  constructor
  · intro entered
    induction signups using List.reverseRecOn with
    | nil => cases entered
    | append_singleton signups last ih =>
        rw [rollOf_concat] at entered
        unfold enroll at entered
        split at entered
        · rcases ih entered with ⟨earlier, later, rfl, first⟩
          exact ⟨earlier, later ++ [last], by simp, first⟩
        · rename_i free
          rcases List.mem_append.mp entered with old | new
          · rcases ih old with ⟨earlier, later, rfl, first⟩
            exact ⟨earlier, later ++ [last], by simp, first⟩
          · obtain rfl := List.mem_singleton.mp new
            exact ⟨signups, [], rfl, mt (known signups).mpr free⟩
  · rintro ⟨earlier, later, rfl, first⟩
    rw [rollOf, List.foldl_append, List.foldl_cons]
    apply subset_foldl_enroll
    rw [show earlier.foldl enroll [] = rollOf earlier from rfl,
      enroll_of_free (mt (known earlier).mp first)]
    exact List.mem_append_right _ (List.mem_singleton_self signup)

theorem rollOf_eq_self (different : (signups.map (·.customer.email)).Nodup) :
    rollOf signups = signups := by
  induction signups using List.reverseRecOn with
  | nil => rfl
  | append_singleton signups last ih =>
      rw [List.map_append] at different
      rcases List.nodup_append.mp different with ⟨before, -, apart⟩
      rw [rollOf_concat, ih before]
      apply enroll_of_free
      intro known
      exact apart _ known _ (List.mem_singleton_self _) rfl

/-- Everybody is on the roll exactly if all addresses are different. -/
theorem subset_rollOf_iff (distinct : signups.Nodup) :
    signups ⊆ rollOf signups ↔ (signups.map (·.customer.email)).Nodup := by
  constructor
  · intro all
    apply distinct.map_on
    intro signup signupMem other otherMem sameAddress
    exact List.inj_on_of_nodup_map (nodup_addresses_rollOf signups) (all signupMem) (all otherMem)
      sameAddress
  · intro different
    rw [rollOf_eq_self different]
    exact List.Subset.refl signups

end Roll

/-! ## The row of a new customer -/

/-- A customer in the table has the address. -/
def HasAddress (address : String) (t : Table) : Prop :=
  some (.text address) ∈ t.rows.map (Row.cell "email")

namespace Signup

/-- The write that a new customer queues. -/
def queued (signup : Signup) : String × Writes.Patch :=
  (signup.id, .ofFields (newDocument signup.id signup.time signup.customer))

/-- The row is that of the customer. -/
structure Records (signup : Signup) (row : Row) : Prop where
  id_eq : row.id = signup.id
  name : row.cell "name" = some (.text signup.customer.name)
  email : row.cell "email" = some (.text signup.customer.email)

/-- What is given of a new customer, by column. -/
def given (signup : Signup) : Fields :=
  [("name", .text signup.customer.name), ("email", .text signup.customer.email),
    ("phone", .ofText? signup.customer.phone), ("total_spend", .int 0), ("visits", .int 0),
    ("last_active", .time signup.time), ("created_at", .time signup.time)]

variable {signup : Signup} {t after : Table} {clock : Clock}

theorem restrict_eq_given (schema : t.schema = customerSchema) {values : Fields}
    (applied : signup.queued.2.applyTo none = .ok values) :
    Keyed.restrict (t.schema.columns.map Column.name) values = signup.given := by
  have valuesEq : Keyed.putAll [] (newDocument signup.id signup.time signup.customer) = values :=
    Except.ok.inj applied
  rw [← valuesEq, schema]
  rfl

/-- What is given, prepared for its columns, with the double that stands for no money. -/
def prepared (nothing : Float) (signup : Signup) : List (Column × Cell) :=
  [(textColumn "name", some (.text signup.customer.name)),
    (textColumn "email", some (.text signup.customer.email)),
    (optionalText "phone", some (.ofText? signup.customer.phone)),
    (⟨"total_spend", .real, false, .value (.int 0)⟩, some (.float nothing)),
    (countColumn "visits", some (.int 0)),
    (⟨"last_active", .time, false, .clock⟩, some (.time signup.time.naive)),
    (⟨"created_at", .time, false, .storeClock⟩, some (.time signup.time.naive))]

/-- What is given, as the columns keep it. -/
def cells (nothing : Float) (signup : Signup) : List (String × Cell) :=
  [("name", some (.text signup.customer.name)), ("email", some (.text signup.customer.email)),
    ("phone", signup.customer.phone.map .text), ("total_spend", some (.float nothing)),
    ("visits", some (.int 0)), ("last_active", some (.time signup.time.naive)),
    ("created_at", some (.time signup.time.naive))]

theorem namedValues_given (schema : t.schema = customerSchema) (signup : Signup) (clock : Clock) :
    t.namedValues clock signup.given =
      [(textColumn "name", .text signup.customer.name),
        (textColumn "email", .text signup.customer.email),
        (optionalText "phone", .ofText? signup.customer.phone),
        (⟨"total_spend", .real, false, .value (.int 0)⟩, .int 0), (countColumn "visits", .int 0),
        (⟨"last_active", .time, false, .clock⟩, .time signup.time),
        (⟨"created_at", .time, false, .storeClock⟩, .time signup.time)] := by
  rw [Table.namedValues, schema, given]
  cases signup.customer.phone <;> rfl

/-- Everything given of a new customer fits its column. -/
theorem prepareAll_given (schema : t.schema = customerSchema) (signup : Signup) (clock : Clock) :
    ∃ nothing, prepareAll (t.namedValues clock signup.given) = .ok (signup.prepared nothing) := by
  cases zero : Decimal.floatOfInt? 0 with
  | none => exact absurd (Decimal.floatOfInt?_eq_none_iff.mp zero) (by decide +kernel)
  | some nothing =>
      refine ⟨nothing, ?_⟩
      rw [namedValues_given schema]
      simp [prepareAll, Column.prepare, textColumn, optionalText, countColumn, keepReal,
        Value.whole?, zero, prepared, bind, Except.bind]

/-- Nothing but a text without an encoding keeps a new customer from being handed over. -/
theorem bindAll_prepared (nothing : Float) (signup : Signup) :
    bindAll 2 (signup.prepared nothing) = .ok (signup.cells nothing) ∨
      ∃ why, bindAll 2 (signup.prepared nothing) = .error (.broken why) := by
  unfold prepared
  -- The first text without an encoding ends the statement.
  by_cases name : Text.hasLoneSurrogate signup.customer.name = true
  · exact .inr ⟨.unencodable signup.customer.name,
      by simp [bindAll, textColumn, name, bind, Except.bind]⟩
  by_cases email : Text.hasLoneSurrogate signup.customer.email = true
  · exact .inr ⟨.unencodable signup.customer.email,
      by simp [bindAll, textColumn, name, email, bind, Except.bind]⟩
  cases phone : signup.customer.phone with
  | none =>
      left
      simp [bindAll, textColumn, optionalText, countColumn, name, email, keepPlain, cells,
        phone, fitsWord, Value.ofText?, bind, Except.bind]
  | some number =>
      by_cases plain : Text.hasLoneSurrogate number = true
      · exact .inr ⟨.unencodable number, by
          simp [bindAll, textColumn, optionalText, name, email, plain, Value.ofText?, bind,
            Except.bind]⟩
      · left
        simp [bindAll, textColumn, optionalText, countColumn, name, email, keepPlain, cells,
          phone, plain, fitsWord, Value.ofText?, bind, Except.bind]

theorem records_newRow (schema : t.schema = customerSchema) (clock : Clock) (nothing : Float)
    (signup : Signup) :
    signup.Records (t.newRow clock signup.id (signup.cells nothing)) where
  id_eq := rfl
  name := by
    rw [Row.cell, Table.newRow, schema]
    rfl
  email := by
    rw [Row.cell, Table.newRow, schema]
    rfl

theorem firstEmpty?_newRow (schema : t.schema = customerSchema) (clock : Clock) (nothing : Float)
    (signup : Signup) :
    firstEmpty? t.schema.columns (t.newRow clock signup.id (signup.cells nothing)).cells =
      none := by
  rw [Table.newRow, schema]
  rfl

/-- A new row of a customer clashes exactly if another customer has the address. -/
theorem firstClash?_eq_none_iff (schema : t.schema = customerSchema) {row : Row} {address : String}
    (email : row.cell "email" = some (.text address)) (missing : t.row? row.id = none) :
    firstClash? t row = none ↔ ¬ HasAddress address t := by
  have rowCell : (Keyed.get? "email" row.cells).getD none = some (.text address) := email
  have sameAddress (other : Row) : clashes ["email"] row.cells other.cells = true ↔
      some (.text address) = other.cell "email" := by
    simp only [clashes, List.all_cons, List.all_nil, Bool.and_true, rowCell]
    constructor
    · intro same
      exact (eq_of_sameCell same).symm
    · intro same
      rw [show (Keyed.get? "email" other.cells).getD none = some (.text address) from same.symm]
      simp [sameCell, Value.agrees]
  have different : ∀ other ∈ t.rows, other.id ≠ row.id := by
    intro other otherMem same
    exact Table.row?_eq_none_iff.mp missing (same ▸ List.mem_map_of_mem otherMem)
  rw [firstClash?, schema, HasAddress]
  simp only [customerSchema, List.find?_eq_none, List.mem_singleton, forall_eq, List.any_eq_true,
    Bool.and_eq_true, decide_eq_true_eq, sameAddress, List.mem_map, not_exists, not_and]
  constructor
  · intro noClash other otherMem email
    exact noClash other otherMem (different other otherMem) email.symm
  · intro free other otherMem _ email
    exact free other otherMem email.symm

/-- What becomes of a table when a new customer is inserted: the row is refused exactly if another
customer has the address, unless something given has no encoding. -/
inductive Insertion (signup : Signup) (t : Table) : Except Trouble Table → Prop
  | adds {row : Row} (records : signup.Records row) (free : ¬ HasAddress signup.customer.email t) :
      Insertion signup t (.ok { t with rows := t.rows ++ [row] })
  | taken {why : Refused} (taken : HasAddress signup.customer.email t) :
      Insertion signup t (.error (.refused why))
  | broken {why : Breakdown} : Insertion signup t (.error (.broken why))

theorem insertion_of_insert (schema : t.schema = customerSchema) (missing : t.row? signup.id = none)
    (clock : Clock) : Insertion signup t (t.insert clock signup.id signup.given) := by
  rcases prepareAll_given schema signup clock with ⟨nothing, prepares⟩
  rcases bindAll_prepared nothing signup with binds | ⟨why, binds⟩
  · have records := records_newRow schema clock nothing signup
    have noneEmpty := firstEmpty?_newRow schema clock nothing signup
    have noClash := firstClash?_eq_none_iff schema records.email missing
    cases clash : firstClash? t (t.newRow clock signup.id (signup.cells nothing)) with
    | none =>
        have checks : checkRow t (t.newRow clock signup.id (signup.cells nothing)) = .ok () := by
          simp only [checkRow, noneEmpty, clash]
        rw [Table.insert_eq_ok_iff.mpr ⟨_, _, prepares, binds, checks, rfl⟩]
        exact .adds records (noClash.mp clash)
    | some columns =>
        have checks : checkRow t (t.newRow clock signup.id (signup.cells nothing)) =
            .error (.refused (.duplicate t.schema.name columns)) := by
          simp only [checkRow, noneEmpty, clash]
        rw [Table.insert_eq_error_iff.mpr (.inr ⟨_, prepares, .inr ⟨_, binds, checks⟩⟩)]
        rw [clash, iff_comm, iff_false_right (Option.some_ne_none columns), not_not] at noClash
        exact .taken noClash
  · rw [Table.insert_eq_error_iff.mpr (.inr ⟨_, prepares, .inl binds⟩)]
    exact .broken

/-- The write of a new customer inserts the row. -/
theorem insertion_of_apply {s : Session} {w : Writes.Write}
    (schema : s.table.schema = customerSchema) (queued : w.change = signup.queued)
    (missing : s.table.row? signup.id = none) (clock : Clock) :
    Insertion signup s.table ((s.apply clock w).map Session.table) := by
  have idEq : w.id = signup.id := congrArg Prod.fst queued
  have patchEq : w.patch = signup.queued.2 := congrArg Prod.snd queued
  rcases Session.apply_of_row?_eq_none clock (idEq ▸ missing) with creates | ⟨why, broken⟩
  · obtain ⟨values, applied⟩ : ∃ values, signup.queued.2.applyTo none = .ok values := ⟨_, rfl⟩
    rw [creates, Session.map_table_create clock s (patchEq ▸ applied), idEq, Session.columnNames,
      restrict_eq_given schema applied]
    exact insertion_of_insert schema missing clock
  · rw [broken]
    exact .broken

end Signup

/-! ## The table -/

/-- Neither the identifier nor the address of a new customer is in the table. -/
structure Signup.New (signup : Signup) (t : Table) : Prop where
  id : t.row? signup.id = none
  address : ¬ HasAddress signup.customer.email t

/-- The table has the rows of another one, and then one row for each customer of a roll. -/
structure Enrolled (before : Table) (roll : List Signup) (t : Table) : Prop where
  schema : t.schema = customerSchema
  rows : ∃ added, t.rows = before.rows ++ added ∧ List.Forall₂ Signup.Records roll added

/-- What the rows of customers have in common with them, in the same order. -/
theorem map_of_records {α : Type} {ofRow : Row → α} {ofSignup : Signup → α}
    (same : ∀ signup row, signup.Records row → ofRow row = ofSignup signup) {roll : List Signup}
    {added : List Row} (records : List.Forall₂ Signup.Records roll added) :
    added.map ofRow = roll.map ofSignup := by
  induction records with
  | nil => rfl
  | cons first _ ih => rw [List.map_cons, List.map_cons, same _ _ first, ih]

theorem map_id_of_records {roll : List Signup} {added : List Row}
    (records : List.Forall₂ Signup.Records roll added) : added.map Row.id = roll.map Signup.id :=
  map_of_records (fun _ _ first => first.id_eq) records

theorem map_email_of_records {roll : List Signup} {added : List Row}
    (records : List.Forall₂ Signup.Records roll added) :
    added.map (Row.cell "email") = roll.map fun signup => some (.text signup.customer.email) :=
  map_of_records (fun _ _ first => first.email) records

theorem exists_records_of_mem {roll : List Signup} {added : List Row}
    (records : List.Forall₂ Signup.Records roll added) {row : Row} (rowMem : row ∈ added) :
    ∃ signup ∈ roll, signup.Records row := by
  induction records with
  | nil => cases rowMem
  | @cons signup _ roll added first _ ih =>
      rcases List.mem_cons.mp rowMem with rfl | later
      · exact ⟨signup, List.mem_cons_self, first⟩
      · rcases ih later with ⟨other, otherMem, otherRecords⟩
        exact ⟨other, List.mem_cons_of_mem _ otherMem, otherRecords⟩

/-- The customer has a row. -/
def Signup.IsStored (signup : Signup) (t : Table) : Prop :=
  ∃ row, t.row? signup.id = some row ∧ signup.Records row

namespace Enrolled

variable {before t : Table} {roll : List Signup} {signup : Signup}

/-- A new identifier has no row exactly if it is not on the roll. -/
theorem row?_eq_none_iff (enrolled : Enrolled before roll t) {id : String}
    (missing : before.row? id = none) : t.row? id = none ↔ id ∉ roll.map Signup.id := by
  rcases enrolled.rows with ⟨added, rowsEq, records⟩
  rw [Table.row?_eq_none_iff] at missing ⊢
  rw [rowsEq, List.map_append, map_id_of_records records, List.mem_append, or_iff_right missing]

/-- An address that was in the table before is there still. -/
theorem hasAddress_of_before (enrolled : Enrolled before roll t) {address : String}
    (had : HasAddress address before) : HasAddress address t := by
  rcases enrolled.rows with ⟨added, rowsEq, -⟩
  rw [HasAddress, rowsEq, List.map_append]
  exact List.mem_append_left _ had

/-- A new address is in the table exactly if it is on the roll. -/
theorem hasAddress_iff (enrolled : Enrolled before roll t) (new : signup.New before) :
    HasAddress signup.customer.email t ↔
      signup.customer.email ∈ roll.map (·.customer.email) := by
  rcases enrolled.rows with ⟨added, rowsEq, records⟩
  have notBefore : some (.text signup.customer.email) ∉ before.rows.map (Row.cell "email") :=
    new.address
  rw [HasAddress, rowsEq, List.map_append, List.mem_append, or_iff_right notBefore,
    map_email_of_records records]
  simp

/-- The row of a new customer goes to the end. -/
theorem insert (enrolled : Enrolled before roll t) {row : Row} (records : signup.Records row) :
    Enrolled before (roll ++ [signup]) { t with rows := t.rows ++ [row] } := by
  rcases enrolled.rows with ⟨added, rowsEq, recordsBefore⟩
  refine ⟨enrolled.schema, added ++ [row], by rw [rowsEq, List.append_assoc], ?_⟩
  exact List.rel_append recordsBefore (.cons records .nil)

/-- The table gives the verdict of the roll on a new customer. -/
theorem takes {s next : Session} {clock : Clock} {w : Writes.Write} {accepted : Bool}
    (enrolled : Enrolled before roll s.table)
    (takes : Session.Takes clock w s accepted next) (queued : w.change = signup.queued)
    (admitted : Keyed.get? w.id s.refused = none) (new : signup.New before)
    (missing : signup.id ∉ roll.map Signup.id) :
    Enrolled before (enroll roll signup) next.table ∧
      enroll roll signup = if accepted then roll ++ [signup] else roll := by
  have known := enrolled.hasAddress_iff new
  have inserts := Signup.insertion_of_apply enrolled.schema queued
    ((enrolled.row?_eq_none_iff new.id).mpr missing) clock
  cases takes with
  | accepts _ applied =>
      rw [applied] at inserts
      change Signup.Insertion signup s.table (.ok next.table) at inserts
      generalize next.table = after at inserts
      cases inserts with
      | adds records free =>
          rw [enroll_of_free (mt known.mpr free)]
          exact ⟨enrolled.insert records, (if_pos rfl).symm⟩
  | skips refused =>
      rw [admitted] at refused
      cases refused
  | @refuses why _ refused =>
      rw [refused] at inserts
      change Signup.Insertion signup s.table (.error (.refused why)) at inserts
      cases inserts with
      | taken taken =>
          rw [enroll_of_taken (known.mp taken)]
          exact ⟨enrolled, (if_neg Bool.false_ne_true).symm⟩

/-- A table that takes a batch of new customers enters them on the roll one after the other: it
accepts the first one of each address that is not there yet, and no other. -/
theorem takesAll {clock : Clock} {marked : List (Writes.Write × Bool)} {final : Session}
    {arriving : List Signup} (enrolled : Enrolled before roll t)
    (takesAll : (Session.start t).TakesAll clock marked final)
    (changes : marked.map (·.1.change) = arriving.map Signup.queued)
    (new : ∀ signup ∈ arriving, signup.New before)
    (distinct : (roll.map Signup.id ++ arriving.map Signup.id).Nodup) :
    Enrolled before (arriving.foldl enroll roll) final.table ∧
      (arriving.foldl enroll roll).map Signup.queued =
        roll.map Signup.queued ++ (acceptedOf marked).map Writes.Write.change := by
  induction takesAll generalizing arriving with
  | start =>
      obtain rfl : arriving = [] := by simpa using changes.symm
      exact ⟨enrolled, by simp [acceptedOf]⟩
  | @last marked middle next w accepted earlier taken ih =>
      rw [List.map_append, List.map_singleton] at changes
      rcases List.map_eq_append_iff.mp changes.symm with ⟨first, others, rfl,
        firstChanges, lastChange⟩
      rcases List.map_eq_singleton_iff.mp lastChange with ⟨last, rfl, queued⟩
      rw [List.map_append, ← List.append_assoc] at distinct
      rcases List.nodup_append.mp distinct with ⟨distinctBefore, -, apart⟩
      rcases ih firstChanges.symm (fun signup signupMem =>
        new signup (List.mem_append_left _ signupMem))
        distinctBefore with ⟨enrolledBefore, changesBefore⟩
      have idEq : w.id = last.id := congrArg Prod.fst queued.symm
      have other : last.id ∉ roll.map Signup.id ++ first.map Signup.id := fun known =>
        apart _ known _ (List.mem_singleton_self _) rfl
      have markedIds : marked.map (·.1.id) = first.map Signup.id := by
        simpa [Function.comp_def, Writes.Write.change, Signup.queued] using
          congrArg (List.map Prod.fst) firstChanges.symm
      have admitted : Keyed.get? w.id middle.refused = none :=
        earlier.refused_eq_none rfl (by
          rw [markedIds, idEq]
          exact fun known => other (List.mem_append_right _ known))
      have missing : last.id ∉ (first.foldl enroll roll).map Signup.id := fun known =>
        other (by
          rw [← List.map_append]
          exact List.map_subset _ (foldl_enroll_subset first roll) known)
      rcases enrolledBefore.takes taken queued.symm admitted
        (new last (by simp)) missing with ⟨enrolledAfter, verdict⟩
      rw [List.foldl_append, List.foldl_cons, List.foldl_nil]
      refine ⟨enrolledAfter, ?_⟩
      rw [verdict]
      cases accepted with
      | true => simp [changesBefore, queued]
      | false => simp [changesBefore]

/-- A row that was not there before is that of a customer on the roll. -/
theorem exists_records (enrolled : Enrolled before roll t) {row : Row} (rowMem : row ∈ t.rows)
    (missing : before.row? row.id = none) : ∃ other ∈ roll, other.Records row := by
  rcases enrolled.rows with ⟨added, rowsEq, records⟩
  rw [rowsEq] at rowMem
  rcases List.mem_append.mp rowMem with old | recent
  · exact absurd (List.mem_map_of_mem old) (Table.row?_eq_none_iff.mp missing)
  · exact exists_records_of_mem records recent

/-- A new customer has a row exactly if it is on the roll. -/
theorem isStored_iff (enrolled : Enrolled before roll t) (missing : before.row? signup.id = none)
    (only : ∀ other ∈ roll, other.id = signup.id → other = signup) :
    signup.IsStored t ↔ signup ∈ roll := by
  have ofRow {row : Row} (found : t.row? signup.id = some row) :
      signup ∈ roll ∧ signup.Records row := by
    have idEq := Table.row?_id found
    rcases enrolled.exists_records (List.mem_of_find?_eq_some found) (idEq ▸ missing) with
      ⟨other, otherMem, records⟩
    obtain rfl := only other otherMem (records.id_eq.symm.trans idEq)
    exact ⟨otherMem, records⟩
  constructor
  · rintro ⟨row, found, -⟩
    exact (ofRow found).1
  · intro signupMem
    cases found : t.row? signup.id with
    | some row => exact ⟨row, found, (ofRow found).2⟩
    | none =>
        exact absurd (List.mem_map_of_mem signupMem) ((enrolled.row?_eq_none_iff missing).mp found)

end Enrolled

end Outreach.Customers
