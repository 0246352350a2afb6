import Outreach.Proofs.Customers.Activity
import Outreach.Proofs.Delivery.Receipts
import Outreach.Proofs.Store.Tracks

/-!
# The columns of a log

Each receipt for a log changes some of its columns: the state always, the time and the error when
the message was sent, the error when it failed. So the last value that the log and its receipts give
a column can be told from the receipts: the state is that of the last one, the time is that of the
last one that said the message was sent, and the error is that of the last failure since.
-/

namespace Outreach.Delivery

open Store
open Writes (Patch)

/-! ## Reports -/

/-- A receipt with the time at which it was recorded. -/
structure Report where
  time : DateTime
  receipt : Form.Receipt

namespace Report

/-- The change of the log that is queued for it. -/
def patch (report : Report) : Patch := .ofFields (receiptChange report.time report.receipt)

/-- The receipt names a state of messages, and it was recorded by a clock that shows UTC. -/
structure Valid (report : Report) : Prop where
  known : report.receipt.status ∈ deliveryStatuses.map Prod.snd
  utc : report.time.IsUtc

/-- The message was sent. -/
def isSent (report : Report) : Bool := report.receipt.status = "SENT"

/-- The message was not sent. -/
def isFailed (report : Report) : Bool := report.receipt.status = "FAILED"

/-- What is said of a failure. -/
def failure (report : Report) : String :=
  match report.receipt.errorMessage with
  | none | some "" => "Unknown error"
  | some message => message

/-- The state after reports. -/
def stateAfter (reports : List Report) : String :=
  (reports.getLast?.map fun report => report.receipt.status).getD "PENDING"

/-- The time of the last report that the message was sent. -/
def sentAfter (reports : List Report) : Option DateTime := (reports.reverse.find? isSent).map time

/-- What the last failure since then says. -/
def errorAfter (reports : List Report) : Option String :=
  ((reports.reverse.takeWhile fun report => !report.isSent).find? isFailed).map failure

theorem failure_ne_empty (report : Report) : report.failure ≠ "" := by
  unfold failure
  split
  · decide
  · decide
  · rename_i message notEmpty found
    rintro rfl
    exact notEmpty rfl

/-! ## One more report -/

section Concat

variable (reports : List Report) (report : Report)

theorem stateAfter_concat : stateAfter (reports ++ [report]) = report.receipt.status := by
  simp [stateAfter]

theorem stateAfter_known {reports : List Report} (valid : ∀ report ∈ reports, report.Valid) :
    stateAfter reports ∈ deliveryStatuses.map Prod.snd := by
  rcases List.eq_nil_or_concat reports with rfl | ⟨earlier, report, rfl⟩
  · decide
  · rw [List.concat_eq_append] at valid ⊢
    rw [stateAfter_concat]
    exact (valid report (by simp)).known

theorem sentAfter_concat : sentAfter (reports ++ [report]) =
    if report.isSent then some report.time else sentAfter reports := by
  unfold sentAfter
  rw [List.reverse_concat, List.find?_cons]
  cases report.isSent <;> rfl

theorem errorAfter_concat : errorAfter (reports ++ [report]) =
      if report.isSent then none
      else if report.isFailed then some report.failure else errorAfter reports := by
  unfold errorAfter
  rw [List.reverse_concat, List.takeWhile_cons]
  cases report.isSent with
  | true => rfl
  | false =>
      simp only [Bool.not_false, if_true, List.find?_cons]
      cases report.isFailed <;> rfl

end Concat

/-! ## What a report changes -/

section Change

variable (report : Report)

theorem get?_status : Keyed.get? "status" report.patch.set = some (.text report.receipt.status) :=
  rfl

theorem get?_sentAt : Keyed.get? "sent_at" report.patch.set =
    if report.isSent then some (.time report.time) else none := by
  unfold patch receiptChange isSent Patch.ofFields
  split
  · simp_all [Keyed.get?_cons]
  · split <;> simp_all [Keyed.get?_cons]

/-- An empty message counts as none. -/
theorem filter_errorMessage :
    (report.receipt.errorMessage.filter (· ≠ "")).getD "Unknown error" = report.failure := by
  unfold failure
  split
  · rename_i missing
    simp [missing]
  · rename_i empty
    simp [empty, Option.filter]
  · rename_i message notEmpty found
    have nonempty : message ≠ "" := fun same => notEmpty same
    simp [found, Option.filter, nonempty]

theorem get?_error : Keyed.get? "error_message" report.patch.set =
      if report.isSent then some .null
      else if report.isFailed then some (.text report.failure) else none := by
  unfold patch receiptChange isSent isFailed Patch.ofFields
  rw [filter_errorMessage]
  split
  · simp_all [Keyed.get?_cons]
  · split <;> simp_all [Keyed.get?_cons]

/-- Nothing else is changed. -/
theorem get?_other {name : String} (other : name ∉ ["status", "sent_at", "error_message"]) :
    Keyed.get? name report.patch.set = none := by
  simp only [List.mem_cons, List.not_mem_nil, or_false, not_or] at other
  obtain ⟨notStatus, notSent, notError⟩ := other
  unfold patch receiptChange Patch.ofFields
  split
  · simp [Keyed.get?_cons, Ne.symm notStatus, Ne.symm notSent, Ne.symm notError]
  · split <;> simp [Keyed.get?_cons, Ne.symm notStatus, Ne.symm notError]

theorem set_distinct : (report.patch.set.map Prod.fst).Nodup := by
  unfold patch receiptChange Patch.ofFields
  split
  · simp
  · split <;> simp

end Change

end Report

/-! ## The columns of a log -/

/-- A column of texts that starts empty. -/
def textTrack (column : Column) : Track := ⟨column, .null, fun v => v = .null ∨ ∃ s, v = .text s⟩

/-- The time at which a message was sent, by a clock in UTC. -/
def sentTrack : Track :=
  ⟨optionalTime "sent_at", .null, fun v => v = .null ∨ ∃ t : DateTime, v = .time t ∧ t.IsUtc⟩

/-- The column of the state of a message. -/
def statusColumn : Column :=
  ⟨"status", .choice "delivery_status_enum" deliveryStatuses, false, .value (.text "PENDING")⟩

/-- The state of a message. -/
def statusTrack : Track :=
  ⟨statusColumn, .text "PENDING", fun v => ∃ s ∈ deliveryStatuses.map Prod.snd, v = .text s⟩

theorem logSchema_faithful : logSchema.Faithful := schemas_faithful (by simp [schemas])

/-- Only a null or a text agrees with itself alone. -/
theorem eq_of_agrees {v next : Value} (plain : v = .null ∨ ∃ s, v = .text s)
    (agrees : next.agrees v = true) :
    next = v := by
  rcases plain with rfl | ⟨s, rfl⟩
  · exact Value.agrees_null_iff.mp agrees
  · exact Value.agrees_text_iff.mp agrees

/-- A column that reads a null or a text as it was given keeps it of every value
that agrees with it. -/
theorem reads_back {track : Track} {v seen : Value} {cell : Cell}
    (plain : v = .null ∨ ∃ s, v = .text s)
    (keeps : track.column.Keeps v cell) (read : track.column.read cell = .ok seen)
    (same : track.column.read cell = .ok v) : seen.agrees seen = true ∧
      ∀ next, track.given next → next.agrees seen = true → track.column.Keeps next cell := by
  obtain rfl := Except.ok.inj (same.symm.trans read)
  refine ⟨?_, fun next _ agrees => ?_⟩
  · rcases plain with rfl | ⟨s, rfl⟩ <;> simp [Value.agrees]
  · rwa [eq_of_agrees plain agrees]

section Text

variable {column : Column} (kind : column.kind = .text)

include kind

theorem textTrack_sound (mem : column ∈ logSchema.columns) (unstamped : column.name ≠ stampColumn)
    (default : column.default = .nothing) : (textTrack column).Sound logSchema where
  faithful := logSchema_faithful
  mem := mem
  unstamped := unstamped
  plain := by simp [textTrack, kind]
  preset clock := by simp [textTrack, Column.preset, default]
  unclocked := by simp [textTrack, default]
  base := .inl rfl
  present := .inl rfl
  reads := by
    intro v cell seen given keeps read
    refine reads_back given keeps read ?_
    rcases given with rfl | ⟨s, rfl⟩
    · rw [keeps.of_null (by simp [textTrack, kind])]
      rfl
    · rw [keeps.of_text kind]
      simp [textTrack, Column.read, kind]

end Text

/-! ### The time -/

/-- A time that is read back has no zone, so no time in UTC agrees with it. -/
theorem sentTrack_sound : sentTrack.Sound logSchema where
  faithful := logSchema_faithful
  mem := by simp [sentTrack, logSchema]
  unstamped := by decide
  plain := by decide
  preset _ := rfl
  unclocked := by simp [sentTrack, optionalTime]
  base := .inl rfl
  present := .inl rfl
  reads := by
    intro v cell seen given keeps read
    rcases given with rfl | ⟨t, rfl, utc⟩
    · refine reads_back (.inl rfl) keeps read ?_
      rw [keeps.of_null (by decide)]
      rfl
    · rw [keeps.of_time rfl] at read
      obtain rfl : .time t.naive = seen := Except.ok.inj read
      refine ⟨by simp [Value.agrees, DateTime.sameTime_refl], ?_⟩
      rintro next (rfl | ⟨u, rfl, uUtc⟩) agrees
      · simp [Value.agrees, Value.sameNumber, Value.quantity?] at agrees
      · have zones := (Bool.and_eq_true_iff.mp agrees).1
        rw [uUtc] at zones
        cases zones

/-! ### The state -/

/-- The states of messages are their own names. -/
theorem keeps_status {s : String} {cell : Cell} (known : s ∈ deliveryStatuses.map Prod.snd)
    (keeps : statusColumn.Keeps (.text s) cell) : cell = some (.text s) := by
  obtain ⟨prepared, place, preparedEq, bound⟩ := keeps
  simp only [deliveryStatuses, List.map_cons, List.map_nil, List.mem_cons, List.not_mem_nil,
    or_false] at known
  rcases known with rfl | rfl | rfl <;>
  · cases preparedEq
    simp only [bindCell, statusColumn] at bound
    split at bound
    · cases bound
    · exact (Except.ok.inj bound).symm

theorem read_status {s : String} (known : s ∈ deliveryStatuses.map Prod.snd) :
    statusColumn.read (some (.text s)) = .ok (.text s) := by
  simp only [deliveryStatuses, List.map_cons, List.map_nil, List.mem_cons, List.not_mem_nil,
    or_false] at known
  rcases known with rfl | rfl | rfl <;> rfl

theorem statusTrack_sound : statusTrack.Sound logSchema where
  faithful := logSchema_faithful
  mem := by simp [statusTrack, statusColumn, logSchema]
  unstamped := by decide
  plain := by simp [statusTrack, statusColumn]
  preset _ := rfl
  unclocked := by simp [statusTrack, statusColumn]
  base := ⟨"PENDING", by decide, rfl⟩
  present := .inr fun v ⟨s, _, same⟩ => by simp [same]
  reads := by
    rintro v cell seen ⟨s, known, rfl⟩ keeps read
    refine reads_back (.inr ⟨s, rfl⟩) keeps read ?_
    rw [keeps_status known keeps]
    exact read_status known

/-! ### What they are given -/

theorem gives_ofFields {track : Track} {fields : Fields} (distinct : (fields.map Prod.fst).Nodup)
    (given : ∀ v, Keyed.get? track.column.name fields = some v → track.given v) :
    track.Gives (.ofFields fields) := ⟨distinct, List.nodup_nil, rfl, given⟩

namespace Report

variable {report : Report}

theorem gives_status (valid : report.Valid) : statusTrack.Gives report.patch := by
  refine gives_ofFields report.set_distinct fun v found => ?_
  cases report.get?_status.symm.trans found
  exact ⟨_, valid.known, rfl⟩

theorem gives_sentAt (valid : report.Valid) : sentTrack.Gives report.patch := by
  refine gives_ofFields report.set_distinct fun v found => ?_
  have found := report.get?_sentAt.symm.trans found
  split at found
  · cases found
    exact .inr ⟨_, rfl, valid.utc⟩
  · cases found

theorem gives_error (report : Report) :
    (textTrack (optionalText "error_message")).Gives report.patch := by
  refine gives_ofFields report.set_distinct fun v found => ?_
  have found := report.get?_error.symm.trans found
  split at found
  · cases found
    exact .inl rfl
  · split at found
    · cases found
      exact .inr ⟨_, rfl⟩
    · cases found

theorem gives_text {name : String} (other : name ∉ ["status", "sent_at", "error_message"])
    (report : Report) :
    (textTrack (textColumn name)).Gives report.patch := by
  refine gives_ofFields report.set_distinct fun v found => ?_
  cases (report.get?_other other).symm.trans found

end Report

section Last

variable (time : DateTime) (campaignId : String) (posting : Posting) (reports : List Report)

/-- The patches of a log: that of its message, and those of its reports. -/
def logPatches : List Patch := (logChange time campaignId posting).2 :: reports.map Report.patch

/-- The last value of a column is what each report makes of the value before it. -/
theorem last_logPatches {track : Track} (value : List Report → Value)
    (first : value [] = track.after track.base (logChange time campaignId posting).2)
    (next : ∀ reports report, value (reports ++ [report]) =
      track.after (value reports) report.patch) :
    track.last (logPatches time campaignId posting reports) = value reports := by
  induction reports using List.reverseRecOn with
  | nil => exact first.symm
  | append_singleton reports report ih =>
      have concat : logPatches time campaignId posting (reports ++ [report]) =
          logPatches time campaignId posting reports ++ [report.patch] := by simp [logPatches]
      rw [concat, Track.last_concat, ih, next]

theorem last_status : statusTrack.last (logPatches time campaignId posting reports) =
    .text (Report.stateAfter reports) := by
  refine last_logPatches time campaignId posting reports (fun reports =>
    .text (Report.stateAfter reports)) rfl ?_
  intro reports report
  rw [Report.stateAfter_concat]
  rfl

theorem last_sentAt : sentTrack.last (logPatches time campaignId posting reports) =
    (Report.sentAfter reports).elim .null .time := by
  refine last_logPatches time campaignId posting reports
    (fun reports => (Report.sentAfter reports).elim .null .time) rfl ?_
  intro reports report
  rw [Report.sentAfter_concat, Track.after, show sentTrack.column.name = "sent_at" from rfl,
    report.get?_sentAt]
  cases report.isSent <;> rfl

theorem last_error :
    (textTrack (optionalText "error_message")).last (logPatches time campaignId posting reports) =
    (Report.errorAfter reports).elim .null .text := by
  refine last_logPatches time campaignId posting reports
    (fun reports => (Report.errorAfter reports).elim .null .text) rfl ?_
  intro reports report
  rw [Report.errorAfter_concat, Track.after,
    show (textTrack (optionalText "error_message")).column.name = "error_message" from rfl,
      report.get?_error]
  cases report.isSent
  · cases report.isFailed <;> rfl
  · rfl

theorem last_text {name text : String} (other : name ∉ ["status", "sent_at", "error_message"])
    (given : Keyed.get? name (pendingLog time campaignId posting) = some (.text text)) :
    (textTrack (textColumn name)).last (logPatches time campaignId posting reports) =
    .text text := by
  refine last_logPatches time campaignId posting reports (fun _ => .text text) ?_ ?_
  · rw [Track.after]
    exact (congrArg (·.getD Value.null) given).symm
  · intro reports report
    rw [Track.after]
    exact (congrArg (·.getD (Value.text text)) (report.get?_other other)).symm

end Last

end Outreach.Delivery
