import Outreach.Customers
import Outreach.Proofs.Audience.Validated
import Outreach.Proofs.Segments.Creation

/-!
# Who belongs to a segment

A customer is shown the segments that it belongs to, and a segment is shown with its audience. Both
sides ask of the same record whether the same rules are true of it, and a rule that cannot be
evaluated is true on neither. So the audience of a stored segment consists of the stored customers
who are shown that segment.
-/

namespace Outreach

open Store

/-- The stored customers and segments are committed, and the customers can be fetched. -/
structure Office.Committed (o : Office) : Prop where
  customers : (o.table .customers).Committed customerSchema
  segments : (o.table .segments).Committed segmentSchema
  available : o.outage = none

variable {o : Office}

namespace Office.Committed

theorem opened (clock : DateTime) (config : Writes.Config) (vendor : Delivery.Vendor) :
    (Office.opened clock config vendor).Committed :=
  ⟨.empty customerSchema, .empty segmentSchema, rfl⟩

variable (committed : o.Committed)

include committed

theorem flush (c : Collection) : (o.flush c).2.Committed where
  customers := committed.customers.flush customerSchema_sound c
  segments := committed.segments.flush segmentSchema_sound c
  available := committed.available

theorem exists_isRecordOf (c : Row) :
    ∃ record, Audience.IsRecordOf (o.table .customers) c record := by
  rcases committed.customers.exists_readRow customerSchema_plain c with ⟨fields, read⟩
  exact ⟨_, fields, read, rfl⟩

/-- An audience is always found. It consists of the records of stored customers
that the rule is true of. -/
theorem exists_audience (rule : Value) :
    ∃ records, Task.perform (Task.audience rule) o = (.ok records, o) ∧
    ∀ record, record ∈ records ↔ Audience.belongs rule record = true ∧
      ∃ c ∈ (o.table .customers).rows, Audience.IsRecordOf (o.table .customers) c record := by
  rcases committed.customers.exists_readRows customerSchema_plain
    (Task.customersByAge (o.table .customers))
    with ⟨found, read⟩
  have populated : Task.perform Task.population o = (.ok (found.map customerRecord), o) :=
    Task.perform_population_eq_ok_iff.mpr ⟨committed.available, found, read, rfl, rfl⟩
  refine ⟨_, Task.perform_audience_eq_ok_iff.mpr ⟨_, populated, rfl⟩, fun record => ?_⟩
  rw [Audience.audience, List.mem_filter, List.mem_map, and_comm]
  apply and_congr_right
  intro _
  constructor
  · rintro ⟨fields, fieldsMem, rfl⟩
    rcases (mem_readRows_iff read).mp fieldsMem with ⟨c, cMem, cRead⟩
    exact ⟨c, (Task.customersByAge_perm _).mem_iff.mp cMem, fields, cRead, rfl⟩
  · rintro ⟨c, cMem, fields, cRead, rfl⟩
    exact ⟨fields,
      (mem_readRows_iff read).mpr ⟨c, (Task.customersByAge_perm _).mem_iff.mpr cMem, cRead⟩, rfl⟩

end Office.Committed

/-! ## The side of the customer -/

namespace Customers

variable {record seen : Value}

theorem membership?_eq_some_iff {segment : Fields} : membership? record segment = some seen ↔
    Audience.belongs (fieldOf "rules" segment) record = true ∧
      Form.View.customerSegment.checkParts .top (.map segment) = .valid seen := by
  unfold membership?
  split
  · rename_i belongs
    cases Form.View.customerSegment.checkParts .top (.map segment) <;>
      simp [Form.Checked.toOption, belongs]
  · rename_i belongsNot
    simp [belongsNot]

/-- The stored segment of an identifier is shown to a customer. -/
def Lists (customerId segmentId : String) (o : Office) : Prop := ∃ shown,
  Task.perform (segmentsOf customerId none) o = (.ok shown, o) ∧
    ∃ segment ∈ shown, segment.field "id" = .text segmentId

variable {s c : Row} {rules : Fields}

/-- A stored segment is shown to a stored customer if its rules are true of the
customer's record. -/
theorem exists_segmentsOf (committed : o.Committed) (stored : Segments.Stored s rules o)
    (cMem : c ∈ (o.table .customers).rows)
    (isRecord : Audience.IsRecordOf (o.table .customers) c record) :
    ∃ shown, Task.perform (segmentsOf c.id none) o = (.ok shown, o) ∧
      ((∃ segment ∈ shown, segment.field "id" = .text s.id) ↔
        Audience.belongs (.map rules) record = true) := by
  rcases isRecord with ⟨customer, customerRead, rfl⟩
  let t := o.table .segments
  rcases committed.segments.exists_readRows segmentSchema_plain
    (newestFirst "created_at" (t.rowsOf "creator" none)) with ⟨found, read⟩
  have rowsMem (row : Row) : row ∈ newestFirst "created_at" (t.rowsOf "creator" none) ↔
      row ∈ t.rows :=
    (List.mergeSort_perm _ _).mem_iff
  have readsOf {fields : Fields} (fieldsRead : t.readRow s = .ok fields) :
      Segments.Reads s rules fields :=
    Segments.reads_of_readRow committed.segments stored.mem stored.rules fieldsRead
  have rulesOf {fields : Fields} (reads : Segments.Reads s rules fields) :
      fieldOf "rules" fields = .map rules := by
    rw [fieldOf, reads.rules]
    rfl
  refine ⟨found.filterMap (membership? (customerRecord customer)), ?_, ?_⟩
  · unfold segmentsOf get
    refine Task.perform_bind_eq_ok_iff.mpr ⟨customer, o, Task.perform_demand_eq_ok_iff.mpr
      ⟨c, committed.customers.row?_eq cMem, customerRead, rfl⟩, ?_⟩
    exact Task.perform_bind_eq_ok_iff.mpr
      ⟨found, o, Task.perform_select_eq_ok_iff.mpr ⟨read, rfl⟩, rfl⟩
  · constructor
    · rintro ⟨segment, shown, segmentId⟩
      rcases List.mem_filterMap.mp shown with ⟨fields, fieldsMem, member⟩
      rcases membership?_eq_some_iff.mp member with ⟨belongs, valid⟩
      rcases (mem_readRows_iff read).mp fieldsMem with ⟨row, rowMem, rowRead⟩
      -- Only the row of the segment has its identifier.
      rcases Form.shows_id valid with ⟨more, rfl⟩
      have sameId : row.id = s.id := by
        rw [← textField_id_of_readRow rowRead]
        exact Value.text.inj segmentId
      have same : row = s :=
        List.inj_on_of_nodup_map committed.segments.distinct ((rowsMem row).mp rowMem)
        stored.mem sameId
      rw [same] at rowRead
      rw [rulesOf (readsOf rowRead)] at belongs
      exact belongs
    · intro belongs
      rcases committed.segments.exists_readRow segmentSchema_plain s with ⟨fields, fieldsRead⟩
      have reads := readsOf fieldsRead
      rcases reads.check_customerSegment { Form.Place.top with attributes := true } with
        ⟨segment, valid, id⟩
      refine ⟨segment, List.mem_filterMap.mpr ⟨fields, ?_, membership?_eq_some_iff.mpr ⟨?_, valid⟩⟩,
        id⟩
      · exact (mem_readRows_iff read).mpr ⟨s, (rowsMem s).mpr stored.mem, fieldsRead⟩
      · rw [rulesOf reads]
        exact belongs

theorem lists_iff (committed : o.Committed) (stored : Segments.Stored s rules o)
    (cMem : c ∈ (o.table .customers).rows)
    (isRecord : Audience.IsRecordOf (o.table .customers) c record) :
    Lists c.id s.id o ↔ Audience.belongs (.map rules) record = true := by
  rcases exists_segmentsOf committed stored cMem isRecord with ⟨shown, ran, listed⟩
  rw [← listed, Lists]
  constructor
  · rintro ⟨again, ranAgain, among⟩
    rw [ran] at ranAgain
    cases ranAgain
    exact among
  · exact fun among => ⟨shown, ran, among⟩

end Customers

/-! ## The side of the segment -/

namespace Segments

/-- The stored customers who are shown a segment, each once and in the order in
which they were created. -/
structure Members (segmentId : String) (o : Office) (members : List Row) : Prop where
  all : ∀ c, c ∈ members ↔ c ∈ (o.table .customers).rows ∧ Customers.Lists c.id segmentId o
  distinct : (members.map Row.id).Nodup
  ordered : members.Pairwise Row.CreatedBefore

/-- The answer gives the number of members and the names of the first of them. -/
structure Describes (sampleSize : Nat) (members : List Row) (answer : Value) : Prop where
  size : answer.field "audience_size" = .int members.length
  names : answer.field "audience_names" =
    .list ((members.take sampleSize).map fun m => .text ((m.textCell? "name").getD ""))

variable {s : Row} {rules : Fields} {members : List Row} {records : List Value}

theorem namesOf_records {t : Table} (committed : t.Committed customerSchema)
    (stored : ∀ m ∈ members, m ∈ t.rows)
    (isRecordOf : List.Forall₂ (Audience.IsRecordOf t) members records) :
    namesOf records = members.map fun m => .text ((m.textCell? "name").getD "") := by
  have nameMem : textColumn "name" ∈ customerSchema.columns := by simp [customerSchema]
  induction isRecordOf with
  | nil => rfl
  | @cons m record rest others first _ ih =>
      rcases List.forall_mem_cons.mp stored with ⟨firstStored, restStored⟩
      rcases first with ⟨fields, read, rfl⟩
      rcases (committed.fits m firstStored).exists_text nameMem rfl rfl with ⟨name, nameEq, -⟩
      have found := committed.get?_of_readRow customerSchema_plain customerSchema_sound read nameMem
      have cellEq : m.cell "name" = some (.text name) := nameEq
      rw [show (textColumn "name").name = "name" from rfl, cellEq] at found
      have shown : ((customerRecord fields).field "name").display = name := by
        rw [show (customerRecord fields).field "name" = fieldOf "name" fields from rfl,
          fieldOf, found]
        rfl
      rw [namesOf, List.map_cons, List.map_cons, shown, Row.textCell?, cellEq]
      exact congrArg _ (ih restStored)

theorem Summarizes.describes {sampleSize : Nat} {answer : Value}
    (summarizes : Summarizes sampleSize records answer) (committed : o.Committed)
    (finds : Task.Finds (.map rules) (o.table .customers) members records) :
    Describes sampleSize members answer := by
  have stored (m : Row) (mMem : m ∈ members) : m ∈ (o.table .customers).rows :=
    List.mem_of_mem_filter (finds.all.mem_iff.mp mMem)
  constructor
  · rw [summarizes.size, sizeOf, finds.records.length_eq]
  · rw [summarizes.names]
    apply congrArg
    apply namesOf_records committed.customers
    · exact fun m mMem => stored m (List.mem_of_mem_take mMem)
    · exact List.forall₂_take sampleSize finds.records

/-- The members of a segment are the customers whom its rules reach. -/
theorem members_of_finds (committed : o.Committed) (stored : Stored s rules o)
    (finds : Task.Finds (.map rules) (o.table .customers) members records) :
    Members s.id o members where
  all c := by
    rw [finds.all.mem_iff, List.mem_filter]
    apply and_congr_right
    intro cMem
    rcases committed.exists_isRecordOf c with ⟨record, fields, read, rfl⟩
    rw [Customers.lists_iff committed stored cMem ⟨fields, read, rfl⟩, Audience.reaches, read]
  distinct := by
    have ids := finds.all.map Row.id
    exact ids.nodup_iff.mpr (committed.customers.distinct.sublist (List.filter_sublist.map Row.id))
  ordered := finds.ordered

/-- Rules that restate one another have the same audience. -/
theorem perform_audience_of_restates {value : Value} {rule : Form.SegmentRule}
    (restates : Form.Restates value rule)
    (found : Task.perform (Task.audience value) o = (.ok records, o)) :
    Task.perform (Task.audience rule.toValue) o = (.ok records, o) := by
  rcases Task.perform_audience_eq_ok_iff.mp found with ⟨everyone, populated, rfl⟩
  refine Task.perform_audience_eq_ok_iff.mpr ⟨everyone, populated, ?_⟩
  apply List.filter_congr
  intro record _
  rw [Audience.belongs, Audience.belongs, restates.evaluate_eq]

/-- Every service that finds the audience of the rules of a segment describes the same members. -/
structure Described (s : Row) (rules : Fields) (members : List Row) (o : Office) : Prop where
  look : ∃ answer, Task.perform (look s.id) o = (.ok answer, o) ∧
    Describes o.sampleSize members answer
  preview : ∀ rule, Form.Restates (.map rules) rule → ∃ answer,
    Task.perform (preview ⟨rule⟩ >>= Task.present .preview) o = (.ok answer, o) ∧
      Describes o.sampleSize members answer
  create : ∀ segment : Form.NewSegment, Form.Restates (.map rules) segment.rules →
    (o.table .segments).row? (Office.identifier (o.drawn + 1)) = none →
    (∀ answer after, Task.perform (create segment >>= Task.present .segment) o =
      (.ok answer, after) →
      answer.field "audience_size" = .int members.length) ∧
    (Storable segment members.length o → ∃ answer after,
      Task.perform (create segment >>= Task.present .segment) o = (.ok answer, after))

/-- A stored segment is shown to a stored customer exactly when the customer is in its audience, and
every service counts and names the customers to whom it is shown. -/
theorem membership_agrees (committed : o.Committed) (stored : Stored s rules o) :
    (∀ c ∈ (o.table .customers).rows, ∃ shown records record,
      Task.perform (Customers.segmentsOf c.id none) o = (.ok shown, o) ∧
      Task.perform (Task.audience (.map rules)) o = (.ok records, o) ∧
      Audience.IsRecordOf (o.table .customers) c record ∧
      ((∃ segment ∈ shown, segment.field "id" = .text s.id) ↔ record ∈ records)) ∧
    ∃ members, Members s.id o members ∧ Described s rules members o := by
  rcases committed.exists_audience (.map rules) with ⟨records, found, recordsMem⟩
  constructor
  · intro c cMem
    rcases committed.exists_isRecordOf c with ⟨record, isRecord⟩
    rcases Customers.exists_segmentsOf committed stored cMem isRecord with ⟨shown, ran, listed⟩
    refine ⟨shown, records, record, ran, found, isRecord, ?_⟩
    rw [listed, recordsMem]
    exact ⟨fun belongs => ⟨belongs, c, cMem, isRecord⟩, And.left⟩
  · rcases Task.finds_of_audience found with ⟨-, members, finds⟩
    have length : records.length = members.length := finds.records.length_eq.symm
    refine ⟨members, members_of_finds committed stored finds, ?_, ?_, ?_⟩
    · rcases look_summarizes committed.segments stored found with ⟨answer, ran, summarizes⟩
      exact ⟨answer, ran, summarizes.describes committed finds⟩
    · intro rule restates
      rcases preview_summarizes (perform_audience_of_restates restates found) with
        ⟨answer, ran, summarizes⟩
      exact ⟨answer, ran, summarizes.describes committed finds⟩
    · intro segment restates fresh
      have again := perform_audience_of_restates restates found
      constructor
      · intro answer after ran
        rw [create_shows_size committed.segments fresh again ran, sizeOf, length]
      · intro storable
        rw [← length] at storable
        exact exists_create committed.segments fresh again storable

/-! ## A theatre -/

/-- A patron with a number of visits. -/
def patron (id name : String) (visits : Int) : Row :=
  ⟨id, [("name", some (.text name)), ("email", some (.text id)), ("total_spend", some (.float 0.0)),
    ("visits", some (.int visits)), ("last_active", some (.time (.midnight ⟨2026, 1, 1⟩))),
    ("created_at", some (.time (.midnight ⟨2026, 1, 1⟩))),
    ("updated_at", some (.time (.midnight ⟨2026, 1, 1⟩)))], []⟩

/-- More than two visits, or else more than there are doubles for. -/
def loyalty : Fields :=
  [("operator", .text "OR"), ("conditions", .list [Audience.conditionNode "visits" .gt (.int 2),
    Audience.conditionNode "visits" .gt (.int (10 ^ 400))])]

/-- The segment of loyal patrons. -/
def loyal : Row :=
  ⟨"loyal", [("name", some (.text "Loyal")), ("rules", some (.map loyalty)),
    ("creator", some (.text "editor")),
    ("audience_size", some (.int 0)), ("created_at", some (.time (.midnight ⟨2026, 1, 1⟩))),
    ("updated_at", some (.time (.midnight ⟨2026, 1, 1⟩)))], []⟩

/-- An office with two patrons and one segment. The rules of the segment are true of the first
patron, and they cannot be evaluated for the second. -/
def theatre : Office :=
  let opened := Office.opened (.midnight ⟨2026, 1, 2⟩) .standard (.fresh "http://vendor" true [])
  { opened with
    tables :=
      (opened.tables.set .customers ⟨customerSchema,
      [patron "ada" "Ada" 3, patron "bob" "Bob" 1]⟩).set .segments ⟨segmentSchema, [loyal]⟩ }

theorem patron_fits {id name : String} (visits : Int) (idPlain : Text.hasLoneSurrogate id = false)
    (namePlain : Text.hasLoneSurrogate name = false) :
    (patron id name visits).Fits customerSchema := by
  apply Row.Fits.of_isSome
  · intro column columnMem value valueEq
    simp only [customerSchema, stampColumns, List.cons_append, List.nil_append, List.mem_cons,
      List.not_mem_nil, or_false] at columnMem
    rcases columnMem with rfl | rfl | rfl | rfl | rfl | rfl | rfl | rfl
    · cases valueEq
      exact .text namePlain
    · cases valueEq
      exact .text idPlain
    · cases valueEq
    · cases valueEq
      exact .real _
    · cases valueEq
      exact .int _
    · cases valueEq
      exact .time _
    · cases valueEq
      exact .time _
    · cases valueEq
      exact .time _
  · simp [customerSchema, stampColumns, textColumn, optionalText, countColumn, patron,
      Row.cell, Keyed.get?, stampColumn]

theorem loyal_fits : loyal.Fits segmentSchema := by
  apply Row.Fits.of_isSome
  · intro column columnMem value valueEq
    simp only [segmentSchema, stampColumns, List.cons_append, List.nil_append, List.mem_cons,
      List.not_mem_nil, or_false] at columnMem
    rcases columnMem with rfl | rfl | rfl | rfl | rfl | rfl
    · cases valueEq
      exact .text (by decide)
    · exact .structured value
    · cases valueEq
      exact .text (by decide)
    · cases valueEq
      exact .int 0
    · cases valueEq
      exact .time _
    · cases valueEq
      exact .time _
  · simp [segmentSchema, stampColumns, textColumn, countColumn, loyal, Row.cell, Keyed.get?,
      stampColumn]

theorem theatre_committed : theatre.Committed where
  customers := {
    schema_eq := rfl
    distinct := by decide
    fits := by
      have ada : (patron "ada" "Ada" 3).Fits customerSchema := patron_fits 3 (by decide) (by decide)
      have bob : (patron "bob" "Bob" 1).Fits customerSchema := patron_fits 1 (by decide) (by decide)
      exact List.forall_mem_cons.mpr ⟨ada, List.forall_mem_singleton.mpr bob⟩ }
  segments := {
    schema_eq := rfl
    distinct := by decide
    fits := List.forall_mem_singleton.mpr loyal_fits }
  available := rfl

theorem loyal_stored : Stored loyal loyalty theatre where
  mem := List.mem_singleton.mpr rfl
  rules := rfl
  size := ⟨0, rfl⟩

/-- The record of a patron. -/
def patronRecord (id name : String) (visits : Int) : Value :=
  customerRecord (((theatre.table .customers).readRow (patron id name visits)).toOption.getD [])

/-- The rules of the segment as they may be stored. -/
def loyaltyRule : Form.SegmentRule :=
  .group .any [.condition "visits" .gt (.whole 2), .condition "visits" .gt (.whole (10 ^ 400))]

/-- Only the first patron is shown the segment and counted, here and in a segment that
is made of its rules. -/
theorem ada_alone_is_loyal :
    (Audience.evaluate (.map loyalty) (patronRecord "bob" "Bob" 1)).isOk = false ∧
    Customers.Lists "ada" "loyal" theatre ∧ ¬Customers.Lists "bob" "loyal" theatre ∧
    (∃ answer, Task.perform (look "loyal") theatre = (.ok answer, theatre) ∧
      answer.field "audience_size" = .int 1 ∧ answer.field "audience_names" = .list [.text "Ada"]) ∧
    ∃ answer after,
      Task.perform (create ⟨"Twins", loyaltyRule, "editor"⟩ >>= Task.present .segment) theatre =
      (.ok answer, after) ∧ answer.field "audience_size" = .int 1 := by
  rcases membership_agrees theatre_committed loyal_stored with ⟨-, members, isMembers, described⟩
  have adaMem : patron "ada" "Ada" 3 ∈ (theatre.table .customers).rows := List.mem_cons_self
  have bobMem : patron "bob" "Bob" 1 ∈ (theatre.table .customers).rows :=
    List.mem_cons_of_mem _ List.mem_cons_self
  have adaListed : Customers.Lists "ada" "loyal" theatre :=
    (Customers.lists_iff theatre_committed loyal_stored adaMem ⟨_, rfl, rfl⟩).mpr
    (by decide +kernel)
  have bobUnlisted : ¬Customers.Lists "bob" "loyal" theatre := by
    intro listed
    have belongs :=
      (Customers.lists_iff theatre_committed loyal_stored bobMem ⟨_, rfl, rfl⟩).mp listed
    revert belongs
    decide +kernel
  have same (c : Row) : c ∈ members ↔ c ∈ [patron "ada" "Ada" 3] := by
    rw [isMembers.all, List.mem_singleton]
    constructor
    · rintro ⟨cMem, listed⟩
      rcases List.mem_cons.mp cMem with rfl | others
      · rfl
      · rw [List.mem_singleton.mp others] at listed
        exact absurd listed bobUnlisted
    · rintro rfl
      exact ⟨adaMem, adaListed⟩
  have perm :=
    (List.perm_ext_iff_of_nodup (.of_map _ isMembers.distinct) (List.nodup_singleton _)).mpr same
  rw [List.perm_singleton.mp perm] at described
  rcases described.look with ⟨answer, ran, size, names⟩
  refine ⟨by decide +kernel, adaListed, bobUnlisted, ⟨answer, ran, size, names⟩, ?_⟩
  rcases described.create ⟨"Twins", loyaltyRule, "editor"⟩ (.stored rfl) (by decide +kernel)
    with ⟨showsSize, exists_answer⟩
  rcases exists_answer ⟨by decide, by decide, by decide +kernel,
    List.forall_mem_singleton.mpr (by decide), by decide⟩
    with ⟨created, after, createRan⟩
  exact ⟨created, after, createRan, showsSize created after createRan⟩

end Segments

end Outreach
