import Outreach.Delivery.Logs
import Outreach.Proofs.Office.Population
import Outreach.Proofs.Store.Choices

/-!
# Counts and logs

The counts of many campaigns are found in one pass over all logs. What comes out for a campaign are
the numbers of its own logs, so logs of other campaigns make no difference, and a campaign without
logs has zeros. The same numbers are counted in the list of its logs, which has all of them or fails
when a state cannot be read.
-/

namespace Outreach.Delivery

open Store

/-- How many rows are in a state. -/
def countIn (state : String) (rows : List Row) : Int :=
  (rows.countP fun row => row.textCell? "status" = some state : Nat)

/-- The numbers of rows in each state. -/
def Counts.ofRows (rows : List Row) : Counts :=
  ⟨countIn "SENT" rows, countIn "FAILED" rows, countIn "PENDING" rows⟩

/-! ## One pass over the logs -/

namespace Counts

variable {a b c : Counts}

theorem zero_add (a : Counts) : zero.add a = a := by simp [add, zero]

theorem add_zero (a : Counts) : a.add zero = a := by simp [add, zero]

theorem add_assoc (a b c : Counts) : (a.add b).add c = a.add (b.add c) := by
  simp [add, Int.add_assoc]

theorem ofRows_cons (row : Row) (rows : List Row) :
    ofRows (row :: rows) = (ofRow row).add (ofRows rows) := by
  have each (state : String) :
      countIn state (row :: rows) = ofRow.oneIn row state + countIn state rows := by
    rw [countIn, countIn, ofRow.oneIn, List.countP_cons]
    split <;> simp_all [Int.add_comm]
  simp [ofRows, ofRow, add, each]

end Counts

section Pass

variable {campaignIds : List String} {id : String} (asked : id ∈ campaignIds)
include asked

/-- A log is added to the counts of its own campaign and leaves all others as they are. -/
theorem get?_countLog (counts : List (String × Counts)) (row : Row) :
    (Keyed.get? id (countLog campaignIds counts row)).getD .zero =
      if row.textCell? "campaign_id" = some id then
        ((Keyed.get? id counts).getD .zero).add (.ofRow row)
      else (Keyed.get? id counts).getD .zero := by
  unfold countLog
  cases row.textCell? "campaign_id" with
  | none => simp
  | some campaign =>
      by_cases same : campaign = id
      · subst same
        simp [asked]
      · simp only [Option.some.injEq, same, if_false]
        split
        · rw [Keyed.get?_put_of_ne (Ne.symm same)]
        · rfl

theorem get?_foldl_countLog (rows : List Row) (counts : List (String × Counts)) :
    (Keyed.get? id (rows.foldl (countLog campaignIds) counts)).getD .zero =
      ((Keyed.get? id counts).getD .zero).add
        (.ofRows (rows.filter fun row => row.textCell? "campaign_id" = some id)) := by
  induction rows generalizing counts with
  | nil => exact (Counts.add_zero _).symm
  | cons row rest ih =>
      rw [List.foldl_cons, ih, get?_countLog asked, List.filter_cons]
      by_cases own : row.textCell? "campaign_id" = some id
      · simp only [own, if_true, decide_true]
        rw [Counts.ofRows_cons, Counts.add_assoc]
      · simp [own]

/-- The counts that are found for a campaign are the numbers of its own logs. -/
theorem get?_countsByCampaign (t : Table) :
    (Keyed.get? id (countsByCampaign campaignIds t)).getD .zero =
    .ofRows (t.rowsWith "campaign_id" id) := by
  rw [countsByCampaign, get?_foldl_countLog asked]
  exact Counts.zero_add _

end Pass

/-! ## The list of logs -/

/-- How many logs that were read are in a state. -/
def logsIn (state : String) (logs : List Fields) : Int :=
  (logs.countP fun log => textField "status" log = state : Nat)

/-- The column of the state of a message. -/
def statusChoice : Column :=
  ⟨"status", .choice "delivery_status_enum" deliveryStatuses, false, .value (.text "PENDING")⟩

theorem statusChoice_mem : statusChoice ∈ logSchema.columns := by simp [statusChoice, logSchema]

theorem logSchema_sound : logSchema.Sound where
  distinct := by decide
  noId := by decide
  stamp := by decide
  clock := by simp [logSchema, textColumn, optionalText, optionalTime, stampColumns]

/-- The states of a message are read as they are written. -/
theorem eq_of_mem_deliveryStatuses {name value : String} (mem : (name, value) ∈ deliveryStatuses) :
    value = name ∧ (name = "SENT" ∨ name = "FAILED" ∨ name = "PENDING") := by
  simp only [deliveryStatuses, List.mem_cons, Prod.mk.injEq, List.not_mem_nil, or_false] at mem
  rcases mem with ⟨rfl, rfl⟩ | ⟨rfl, rfl⟩ | ⟨rfl, rfl⟩ <;> simp

variable {t : Table} {row : Row}

/-- A log can be read exactly when its state is known. -/
theorem exists_readRow_log_iff (committed : t.Committed logSchema) (rowMem : row ∈ t.rows) :
    (∃ fields, t.readRow row = .ok fields) ↔ NamesMember deliveryStatuses (row.cell "status") := by
  have status : (∃ value, statusChoice.read (row.cell "status") = .ok value) ↔
      NamesMember deliveryStatuses (row.cell "status") :=
    (committed.fits row rowMem).exists_read_iff statusChoice_mem rfl rfl
  have others : ∀ column ∈ logSchema.columns, column ∉ [statusChoice] →
      ∀ name members, column.kind ≠ .choice name members := by
    simp [logSchema, textColumn, optionalText, optionalTime, stampColumns, statusChoice]
  rw [committed.exists_readRow_iff (List.forall_mem_singleton.mpr statusChoice_mem) others,
    List.forall_mem_singleton, ← status]
  rfl

/-- The state of a log that was read is what its cell says, and one of three. -/
theorem status_of_readRow (committed : t.Committed logSchema) (rowMem : row ∈ t.rows) {log : Fields}
    (read : t.readRow row = .ok log) : row.textCell? "status" = some (textField "status" log) ∧
      (textField "status" log = "SENT" ∨ textField "status" log = "FAILED" ∨
        textField "status" log = "PENDING") := by
  obtain ⟨s, cellEq⟩ := (committed.fits row rowMem).exists_choice statusChoice_mem rfl rfl
  obtain ⟨member, memberMem, found⟩ :=
    committed.exists_member logSchema_sound read statusChoice_mem rfl cellEq
  obtain ⟨rfl, known⟩ := eq_of_mem_deliveryStatuses memberMem
  have textEq : textField "status" log = member := by
    rw [textField, fieldOf, show Keyed.get? "status" log = some (.text member) from found]
    rfl
  rw [textEq, Row.textCell?, show row.cell "status" = some (.text member) from cellEq]
  exact ⟨rfl, known⟩

section Listed

variable {rows : List Row} {logs : List Fields} (committed : t.Committed logSchema)
  (stored : ∀ row ∈ rows, row ∈ t.rows)
  (read : List.Forall₂ (fun row log => t.readRow row = .ok log) rows logs)
include committed stored read

/-- As many logs are read in a state as there are rows in it. -/
theorem logsIn_eq_countIn (state : String) : logsIn state logs = countIn state rows := by
  rw [logsIn, countIn, Int.ofNat_inj]
  induction read with
  | nil => rfl
  | @cons row log rest others first _ ih =>
      obtain ⟨rowMem, restMem⟩ := List.forall_mem_cons.mp stored
      rw [List.countP_cons, List.countP_cons, ih restMem,
        (status_of_readRow committed rowMem first).1]
      simp

/-- Every log that was read is in one of the three states. -/
theorem logsIn_sum :
    logsIn "SENT" logs + logsIn "FAILED" logs + logsIn "PENDING" logs = logs.length := by
  simp only [logsIn]
  induction read with
  | nil => rfl
  | @cons row log rest others first _ ih =>
      obtain ⟨rowMem, restMem⟩ := List.forall_mem_cons.mp stored
      have sum := ih restMem
      simp only [List.countP_cons, List.length_cons]
      rcases (status_of_readRow committed rowMem first).2 with state | state | state <;>
        simp only [state, decide_true, if_true] <;> simp <;> omega

end Listed

variable {o after : Office} {campaignId : String} {logs : List Fields}

theorem rowsWith_mem {column text : String}
    (rowMem : row ∈ oldestFirst "created_at" (t.rowsWith column text)) :
    row ∈ t.rows :=
  List.mem_of_mem_filter ((List.mergeSort_perm _ _).mem_iff.mp rowMem)

/-- The logs of a campaign are listed exactly when all of their states are known. -/
theorem exists_logsOf_iff (committed : (o.table .logs).Committed logSchema) :
    (∃ logs, Task.perform (logsOf campaignId) o = (.ok logs, o)) ↔
      ∀ row ∈ (o.table .logs).rowsWith "campaign_id" campaignId,
        NamesMember deliveryStatuses (row.cell "status") := by
  simp only [logsOf, Task.perform_select_eq_ok_iff, and_true, exists_readRows_iff, oldestFirst,
    (List.mergeSort_perm _ _).mem_iff]
  constructor
  · exact fun each row rowMem =>
      (exists_readRow_log_iff committed (List.mem_of_mem_filter rowMem)).mp (each row rowMem)
  · exact fun each row rowMem =>
      (exists_readRow_log_iff committed (List.mem_of_mem_filter rowMem)).mpr (each row rowMem)

/-- All logs of a campaign are in its list. -/
theorem length_of_logsOf (listed : Task.perform (logsOf campaignId) o = (.ok logs, after)) :
    logs.length = ((o.table .logs).rowsWith "campaign_id" campaignId).length := by
  obtain ⟨read, -⟩ := Task.perform_select_eq_ok_iff.mp listed
  rw [readRows_eq_ok_iff] at read
  rw [← read.length_eq]
  exact (List.mergeSort_perm _ _).length_eq

/-- In the list of the logs of a campaign, each state is there as often as in the rows of the
campaign, and every log is in one of the three states. -/
theorem counts_of_logsOf (committed : (o.table .logs).Committed logSchema)
    (listed : Task.perform (logsOf campaignId) o = (.ok logs, after)) :
    (∀ state, logsIn state logs =
      countIn state ((o.table .logs).rowsWith "campaign_id" campaignId)) ∧
      logsIn "SENT" logs + logsIn "FAILED" logs + logsIn "PENDING" logs = logs.length := by
  obtain ⟨read, -⟩ := Task.perform_select_eq_ok_iff.mp listed
  rw [readRows_eq_ok_iff] at read
  have stored : ∀ row ∈ oldestFirst "created_at"
      ((o.table .logs).rowsWith "campaign_id" campaignId),
      row ∈ (o.table .logs).rows := fun _ => rowsWith_mem
  refine ⟨fun state => ?_, logsIn_sum committed stored read⟩
  rw [logsIn_eq_countIn committed stored read, countIn, countIn, oldestFirst,
    (List.mergeSort_perm _ _).countP_eq]

end Outreach.Delivery
