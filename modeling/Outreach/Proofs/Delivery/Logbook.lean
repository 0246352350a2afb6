import Outreach.Proofs.Delivery.Reports

/-!
# What a log shows of its receipts

A log is queued when its message is posted, and each receipt for it queues a change of some of its
columns. The row of the log tells of its receipts in the order in which they were recorded, in
whatever batches the writes come, also when batches fail as a whole and are tried again, as long as
nothing of the log was given up.
-/

namespace Outreach.Delivery

open Store
open Writes (Patch)

/-! ## Runs -/

/-- The report on a log that recording a receipt has made, if the receipt was for this log. -/
def reportOn (logId : String) (report : Report) : Except Setback String → List Report
  | .ok _ => if report.receipt.logId = logId then [report] else []
  | .error _ => []

/-- What can be reached after a log was queued, with the reports on it: by receipts for any log, by
writing to other customers, by the coalescer of the logs at any time, and by whatever else happens
in the office. -/
inductive Reported (logId : String) (before : Station .logs) : List Report → Station .logs → Prop
  | opens : Reported logId before [] before
  | receipt {reports : List Report} {station : Station .logs}
      (run : Reported logId before reports station)
      (receipt : Form.Receipt) (valid : Report.Valid ⟨station.office.clock, receipt⟩) :
      Reported logId before
        (reports ++ reportOn logId ⟨station.office.clock, receipt⟩
          (Task.perform (recordReceipt receipt) station.desk).1)
        (station.served (Task.perform (recordReceipt receipt) station.desk).2)
  | writes {reports : List Report} {station : Station .logs}
      (run : Reported logId before reports station)
      (campaignId template : String) (customer : Value) :
      Reported logId before reports
        (station.served (Task.perform (deliverOne campaignId template customer) station.desk).2)
  /-- The coalescer works, and the table may take a batch. -/
  | works {reports : List Report} {station : Station .logs} {s : Writes.Coalescer} {t : Table}
      (run : Reported logId before reports station)
      (step : TableStep station.coalescer station.table s t) :
      Reported logId before reports (station.worked s t)
  /-- The row of another log is deleted. -/
  | deletes {reports : List Report} {station : Station .logs}
      (run : Reported logId before reports station) {other : String} (different : logId ≠ other) :
      Reported logId before reports (station.worked station.coalescer (station.table.delete other))
  /-- Anything else happens in the office. -/
  | aside {reports : List Report} {station : Station .logs} {o : Office}
      (run : Reported logId before reports station) (table : o.table .logs = station.table)
      (drawn : station.office.drawn ≤ o.drawn) :
      Reported logId before reports { station with office := o }

/-- What is known of a column of a log that was queued under a number, with the reports on it. -/
structure Kept (track : Track) (number : Nat) (log : Patch) (reports : List Report)
    (station : Station .logs) :
    Prop where
  drawn : number ≤ station.office.drawn
  behind : track.Behind (Office.identifier number) (log :: reports.map Report.patch)
    station.coalescer
    station.table

namespace Kept

variable {track : Track} {number : Nat} {log : Patch} {reports : List Report}
    {station : Station .logs}

/-- A task that leaves the logs alone. -/
theorem untouched (kept : Kept track number log reports station) {after : Office}
    (processor : after.processor .logs = station.coalescer.processor)
    (table : after.table .logs = station.table) (drawn : station.office.drawn ≤ after.drawn) :
    Kept track number log reports (station.served after) := by
  rw [station.served_of_processor_eq processor]
  exact ⟨kept.drawn.trans drawn,
    kept.behind.aside (congrArg Table.schema table) (congrArg (Table.row? _) table)⟩

/-- A task that queues a change of the log. -/
theorem queued (kept : Kept track number log reports station) {report : Report}
    (gives : track.Gives report.patch) {p : Writes.Processor} {after : Office}
    (queued : station.coalescer.processor.enqueue 0 (Office.identifier number) report.patch = .ok p)
    (putBack : after.processors = station.desk.processors.set .logs p)
    (table : after.table .logs = station.table) (drawn : station.office.drawn ≤ after.drawn) :
    Kept track number log (reports ++ [report]) (station.served after) := by
  rw [station.served_of_put_back putBack]
  refine ⟨kept.drawn.trans drawn, ?_⟩
  rw [List.map_append]
  exact (kept.behind.enqueue gives queued).aside (congrArg Table.schema table)
    (congrArg (Table.row? _) table)

/-- A task that queues a change of another log. -/
theorem queued_other (kept : Kept track number log reports station) {id : String}
    (different : id ≠ Office.identifier number) {patch : Patch} {p : Writes.Processor}
    {after : Office} (queued : station.coalescer.processor.enqueue 0 id patch = .ok p)
    (putBack : after.processors = station.desk.processors.set .logs p)
    (table : after.table .logs = station.table) (drawn : station.office.drawn ≤ after.drawn) :
    Kept track number log reports (station.served after) := by
  rw [station.served_of_put_back putBack]
  exact ⟨kept.drawn.trans drawn, (kept.behind.enqueue_other queued different).aside
    (congrArg Table.schema table) (congrArg (Table.row? _) table)⟩

theorem receipt (kept : Kept track number log reports station) {receipt : Form.Receipt}
    (gives : track.Gives (Report.patch ⟨station.office.clock, receipt⟩))
    {result : Except Setback String}
    {after : Office} (records : Records receipt station.desk result after) :
    Kept track number log
      (reports ++ reportOn (Office.identifier number) ⟨station.office.clock, receipt⟩ result)
      (station.served after) := by
  cases records with
  | absent | unreadable | refused =>
      rw [reportOn, List.append_nil]
      exact kept.untouched station.desk_processor rfl (le_refl _)
  | @queues p present queued =>
      rw [Station.desk_processor] at queued
      rw [reportOn]
      by_cases own : receipt.logId = Office.identifier number
      · rw [if_pos own]
        rw [own] at queued
        exact kept.queued gives queued rfl rfl (le_refl _)
      · rw [if_neg own, List.append_nil]
        exact kept.queued_other own queued rfl rfl (le_refl _)

theorem writes (kept : Kept track number log reports station) {campaignId : String}
    {result : Except Setback String} {after : Office}
    (writesTo : WritesTo campaignId station.desk result after) :
    Kept track number log reports (station.served after) := by
  cases writesTo with
  | ends => exact kept.untouched station.desk_processor rfl (Nat.le_succ _)
  | @posts posting p drawn queued =>
      rw [Station.desk_processor] at queued
      have later : number < station.desk.drawn + 1 := Nat.lt_succ_of_le kept.drawn
      refine kept.queued_other ?_ queued rfl rfl (Nat.le_succ _)
      rw [drawn]
      exact fun same => Nat.ne_of_gt later (Office.identifier_injective same)

end Kept

/-- The column of the log is kept through a run. -/
theorem Reported.kept {track : Track} {number : Nat} {log : Patch} {before station : Station .logs}
    {reports : List Report} (run : Reported (Office.identifier number) before reports station)
    (start : Kept track number log [] before)
    (gives : ∀ report : Report, report.Valid → track.Gives report.patch) :
    Kept track number log reports station := by
  induction run with
  | opens => exact start
  | receipt run receipt valid ih =>
      exact ih.receipt (gives _ valid) (records_of_recordReceipt receipt _)
  | writes run campaignId template customer ih =>
      exact ih.writes (writesTo_of_deliverOne campaignId template customer _)
  | works run step ih =>
      refine ⟨ih.drawn, ?_⟩
      rw [Station.worked_table]
      exact ih.behind.tableStep step
  | deletes run different ih =>
      refine ⟨ih.drawn, ?_⟩
      rw [Station.worked_table]
      exact ih.behind.aside rfl (Table.row?_delete_of_ne different _)
  | aside run table drawn ih =>
      exact ⟨ih.drawn.trans drawn,
        ih.behind.aside (congrArg Table.schema table) (congrArg (Table.row? _) table)⟩

/-! ## New logs -/

/-- Under numbers that are not drawn yet nothing was queued, and there is no row. -/
structure Unwritten (before station : Station .logs) : Prop where
  schema : station.table.schema = before.table.schema
  unused : ∀ number, station.office.drawn < number →
    Office.identifier number ∉ station.coalescer.processor.accepted.map Writes.Write.id
  missing : ∀ number, station.office.drawn < number →
    station.table.row? (Office.identifier number) = none

namespace Unwritten

variable {before station : Station .logs}

theorem untouched (unwritten : Unwritten before station) {after : Office}
    (processor : after.processor .logs = station.coalescer.processor)
    (table : after.table .logs = station.table)
    (drawn : station.office.drawn ≤ after.drawn) : Unwritten before (station.served after) := by
  rw [station.served_of_processor_eq processor]
  exact ⟨(congrArg Table.schema table).trans unwritten.schema,
    fun number beyond => unwritten.unused number (drawn.trans_lt beyond),
    fun number beyond =>
      (congrArg (Table.row? _) table).trans (unwritten.missing number (drawn.trans_lt beyond))⟩

/-- A write is queued under an identifier that is in use or was drawn just now. -/
theorem enqueue (unwritten : Unwritten before station) (regular : Regular station.coalescer)
    {id : String} {patch : Patch} {p : Writes.Processor} {after : Office}
    (queued : station.coalescer.processor.enqueue 0 id patch = .ok p)
    (putBack : after.processors = station.desk.processors.set .logs p)
    (table : after.table .logs = station.table) (drawn : station.office.drawn ≤ after.drawn)
    (known : ∀ number, after.drawn < number → id ≠ Office.identifier number) :
    Unwritten before (station.served after) := by
  obtain ⟨-, -, acceptedEq⟩ := regular.enqueue queued
  have idsEq : p.accepted.map Writes.Write.id =
      station.coalescer.processor.accepted.map Writes.Write.id ++ [id] := by
    rw [← Writes.map_fst_change, acceptedEq, List.map_append, Writes.map_fst_change]
    rfl
  rw [station.served_of_put_back putBack]
  refine ⟨(congrArg Table.schema table).trans unwritten.schema, fun number beyond => ?_,
    fun number beyond =>
    (congrArg (Table.row? _) table).trans (unwritten.missing number (drawn.trans_lt beyond))⟩
  rw [idsEq, List.mem_append, not_or, List.mem_singleton]
  exact ⟨unwritten.unused number (drawn.trans_lt beyond), Ne.symm (known number beyond)⟩

theorem receipt (unwritten : Unwritten before station) (regular : Regular station.coalescer)
    {receipt : Form.Receipt} {result : Except Setback String} {after : Office}
    (records : Records receipt station.desk result after) :
    Unwritten before (station.served after) := by
  cases records with
  | absent | unreadable | refused =>
      exact unwritten.untouched station.desk_processor rfl (le_refl _)
  | @queues p present queued =>
      rw [Station.desk_processor] at queued
      refine unwritten.enqueue regular queued rfl rfl (le_refl _) fun number beyond same => ?_
      exact present (same ▸ unwritten.missing number beyond)

theorem writes (unwritten : Unwritten before station) (regular : Regular station.coalescer)
    {campaignId : String} {result : Except Setback String} {after : Office}
    (writesTo : WritesTo campaignId station.desk result after) :
    Unwritten before (station.served after) := by
  cases writesTo with
  | ends => exact unwritten.untouched station.desk_processor rfl (Nat.le_succ _)
  | @posts posting p drawn queued =>
      rw [Station.desk_processor] at queued
      refine unwritten.enqueue regular queued rfl rfl (Nat.le_succ _) fun number beyond same => ?_
      rw [drawn] at same
      exact Nat.ne_of_lt beyond (Office.identifier_injective same)

theorem works (unwritten : Unwritten before station) (regular : Regular station.coalescer)
    {s : Writes.Coalescer} {t : Table} (step : TableStep station.coalescer station.table s t) :
    Unwritten before (station.worked s t) := by
  obtain ⟨regularNext, -, acceptedEq⟩ := step.delivers regular
  have idsEq : s.processor.accepted.map Writes.Write.id =
      station.coalescer.processor.accepted.map Writes.Write.id := by
    rw [← Writes.map_fst_change, acceptedEq, Writes.map_fst_change]
  have unused : ∀ number, station.office.drawn < number →
      Office.identifier number ∉ s.processor.accepted.map Writes.Write.id := by
    rw [idsEq]
    exact unwritten.unused
  refine ⟨?_, unused, fun number beyond => ?_⟩
  · rw [Station.worked_table]
    exact (step.schema_eq regular).trans unwritten.schema
  · have arrives : ArrivesDelivered (Office.identifier number) station.coalescer station.table :=
      iff_of_true (unwritten.missing number beyond)
      (regular.undelivered (unwritten.unused number beyond))
    rw [Station.worked_table]
    exact (step.arrivesDelivered regular arrives).mpr
      (regularNext.undelivered (unused number beyond))

theorem deletes (unwritten : Unwritten before station) (id : String) :
    Unwritten before (station.worked station.coalescer (station.table.delete id)) := by
  refine ⟨?_, unwritten.unused, fun number beyond => ?_⟩
  · rw [Station.worked_table]
    exact unwritten.schema
  · have missing := List.find?_eq_none.mp (unwritten.missing number beyond)
    rw [Station.worked_table, Table.row?, List.find?_eq_none]
    exact fun row rowMem => missing row (List.mem_filter.mp rowMem).1

end Unwritten

theorem Dispatches.unwritten {before station : Station .logs} {sent deleted : List String}
    (run : Dispatches before sent deleted station) {name : String} {config : Writes.Config}
    (idle : before.coalescer = .idle name config)
    (fresh : ∀ number, before.office.drawn < number →
      before.table.row? (Office.identifier number) = none) :
    Unwritten before station := by
  induction run with
  | opens =>
      exact ⟨rfl,
        fun number beyond => by simp [idle, Writes.Coalescer.idle, Writes.Processor.idle], fresh⟩
  | writes run campaignId template customer ih =>
      exact ih.writes (run.posted (.idle idle fresh)).regular
        (writesTo_of_deliverOne campaignId template customer _)
  | receipt run receipt ih =>
      exact ih.receipt (run.posted (.idle idle fresh)).regular (records_of_recordReceipt receipt _)
  | works run step ih => exact ih.works (run.posted (.idle idle fresh)).regular step
  | deletes run id ih => exact ih.deletes id
  | aside run table drawn ih =>
      exact ⟨(congrArg Table.schema table).trans ih.schema,
        fun number beyond => ih.unused number (drawn.trans_lt beyond),
        fun number beyond =>
          (congrArg (Table.row? _) table).trans (ih.missing number (drawn.trans_lt beyond))⟩

/-- What it is to write to one customer successfully. -/
theorem exists_posting_of_deliverOne {campaignId template logId : String} {customer : Value}
    {o after : Office}
    (ran : Task.perform (deliverOne campaignId template customer) o = (.ok logId, after)) :
    ∃ posting p, Addresses template customer posting ∧ posting.logId = logId ∧
      logId = Office.identifier (o.drawn + 1) ∧
      (o.processor .logs).enqueue 0 logId (logChange o.clock campaignId posting).2 = .ok p ∧
      after = { o with
        drawn := o.drawn + 1
        processors := o.processors.set .logs p
        vendor := (o.vendor.send posting).2 } := by
  rw [deliverOne_eq, Task.perform_bind] at ran
  have logs := logs_of_logOne campaignId template customer o
  generalize Task.perform (logOne campaignId template customer) o = outcome at logs ran
  obtain ⟨result, middle⟩ := outcome
  cases logs with
  | malformed => cases ran
  | refused => cases ran
  | @queued posting p addresses drawn queued =>
      cases ran
      exact ⟨posting, p, addresses, rfl, drawn, queued, rfl⟩

/-! ## The row -/

theorem cell_of_sentAt {time? : Option DateTime} {cell : Cell}
    (keeps : sentTrack.column.Keeps (time?.elim .null .time) cell) :
    cell = time?.map fun time => .time time.naive := by
  cases time? with
  | none => exact keeps.of_null (by decide)
  | some time => exact keeps.of_time rfl

theorem cell_of_error {failure : Option String} {cell : Cell}
    (keeps : (optionalText "error_message").Keeps (failure.elim .null .text) cell) :
    cell = failure.map .text := by
  cases failure with
  | none => exact keeps.of_null (by decide)
  | some why => exact keeps.of_text rfl

/-- What the row of a log shows of its message and of the reports on it. -/
structure RowShows (campaignId : String) (posting : Posting) (reports : List Report) (row : Row) :
    Prop where
  campaign : row.cell "campaign_id" = some (.text campaignId)
  customer : row.cell "customer_id" = some (.text posting.customerId)
  message : row.cell "message" = some (.text posting.message)
  status : row.cell "status" = some (.text (Report.stateAfter reports))
  /-- The time at which the message was sent, on a wall clock without a zone. -/
  sentAt : row.cell "sent_at" = (Report.sentAfter reports).map fun time => .time time.naive
  error : row.cell "error_message" = (Report.errorAfter reports).map .text

namespace RowShows

variable {campaignId : String} {posting : Posting} {reports : List Report} {row : Row}

/-- The last report is the one that says the state, if it is not that of a new log. -/
theorem exists_last (shows : RowShows campaignId posting reports row) {state : String}
    (reported : state ≠ "PENDING") (status : row.cell "status" = some (.text state)) :
    ∃ earlier report, reports = earlier ++ [report] ∧ report.receipt.status = state := by
  rw [shows.status] at status
  obtain rfl : Report.stateAfter reports = state := by simpa using status
  rcases List.eq_nil_or_concat reports with rfl | ⟨earlier, report, rfl⟩
  · exact absurd rfl reported
  · rw [List.concat_eq_append]
    exact ⟨earlier, report, rfl, (Report.stateAfter_concat earlier report).symm⟩

/-- A message that was sent has a time and no error. -/
theorem sent (shows : RowShows campaignId posting reports row)
    (status : row.cell "status" = some (.text "SENT")) :
    row.cell "sent_at" ≠ none ∧ row.cell "error_message" = none := by
  obtain ⟨earlier, report, rfl, state⟩ := shows.exists_last (by decide) status
  have isSent : report.isSent = true := by simp [Report.isSent, state]
  have sentAt := shows.sentAt
  rw [Report.sentAfter_concat, if_pos isSent] at sentAt
  refine ⟨by simp [sentAt], ?_⟩
  rw [shows.error, Report.errorAfter_concat, if_pos isSent]
  rfl

/-- A message that failed has an error that says something. -/
theorem failed (shows : RowShows campaignId posting reports row)
    (status : row.cell "status" = some (.text "FAILED")) :
    ∃ why, why ≠ "" ∧ row.cell "error_message" = some (.text why) := by
  obtain ⟨earlier, report, rfl, state⟩ := shows.exists_last (by decide) status
  have notSent : ¬ report.isSent = true := by simp [Report.isSent, state]
  have isFailed : report.isFailed = true := by simp [Report.isFailed, state]
  refine ⟨report.failure, report.failure_ne_empty, ?_⟩
  rw [shows.error, Report.errorAfter_concat, if_neg notSent, if_pos isFailed]
  rfl

end RowShows

/-! ## Runs and rows -/

theorem Reported.valid {logId : String} {before station : Station .logs} {reports : List Report}
    (run : Reported logId before reports station) : ∀ report ∈ reports, report.Valid := by
  induction run with
  | opens => nofun
  | @receipt reports station run receipt valid ih =>
      intro report reportMem
      rcases List.mem_append.mp reportMem with earlier | last
      · exact ih report earlier
      · unfold reportOn at last
        split at last
        · split at last
          · rwa [List.mem_singleton.mp last]
          · cases last
        · cases last
  | writes _ _ _ _ ih | works _ _ ih | deletes _ _ ih | aside _ _ _ ih => exact ih

section Shown

variable {number : Nat} {time : DateTime} {campaignId : String} {posting : Posting}
  {before station : Station .logs} {reports : List Report}

theorem logGives {track : Track}
    (given : ∀ v, Keyed.get? track.column.name (pendingLog time campaignId posting) = some v →
      track.given v) :
    track.Gives (logChange time campaignId posting).2 :=
  gives_ofFields (by simp) given

/-- Once nothing of a log waits, and if nothing of it was given up, its row keeps what
was given to a column. -/
theorem Reported.keeps {track : Track}
    (run : Reported (Office.identifier number) before reports station)
    (settled : SettledFor (Office.identifier number) station.coalescer.processor)
    (start : Kept track number (logChange time campaignId posting).2 [] before)
    (gives : ∀ report : Report, report.Valid → track.Gives report.patch) :
    ∃ row, station.table.row? (Office.identifier number) = some row ∧
      track.column.Keeps (track.last (logPatches time campaignId posting reports))
      (row.cell track.column.name) :=
  (run.kept start gives).behind.settled settled (List.cons_ne_nil _ _)

/-- The row of a log shows the reports on it. -/
theorem Reported.rowShows (run : Reported (Office.identifier number) before reports station)
    (settled : SettledFor (Office.identifier number) station.coalescer.processor)
    (start : ∀ track : Track, track.Sound logSchema →
      track.Gives (logChange time campaignId posting).2 →
      Kept track number (logChange time campaignId posting).2 [] before) :
    ∃ row, station.table.row? (Office.identifier number) = some row ∧
      RowShows campaignId posting reports row := by
  have pending : statusTrack.Gives (logChange time campaignId posting).2 :=
    logGives fun v found => ⟨"PENDING", by decide, (Option.some.inj found).symm⟩
  have unsent : sentTrack.Gives (logChange time campaignId posting).2 := logGives nofun
  have flawless : (textTrack (optionalText "error_message")).Gives
      (logChange time campaignId posting).2 :=
    logGives nofun
  obtain ⟨row, found, status⟩ := run.keeps settled (start _ statusTrack_sound pending)
    fun report valid => report.gives_status valid
  -- Every other column is one of the same row.
  have ofRow {track : Track} (sound : track.Sound logSchema)
      (log : track.Gives (logChange time campaignId posting).2)
      (gives : ∀ report : Report, report.Valid → track.Gives report.patch) :
      track.column.Keeps (track.last (logPatches time campaignId posting reports))
        (row.cell track.column.name) := by
    obtain ⟨other, otherFound, keeps⟩ := run.keeps settled (start track sound log) gives
    rwa [Option.some.inj (found.symm.trans otherFound)]
  have sentAt := ofRow sentTrack_sound unsent fun report valid => report.gives_sentAt valid
  have error := ofRow (textTrack_sound rfl (by simp [logSchema]) (by decide) rfl) flawless
    fun report _ => report.gives_error
  have textCell {name text : String} (mem : textColumn name ∈ logSchema.columns)
      (unstamped : name ≠ stampColumn) (other : name ∉ ["status", "sent_at", "error_message"])
      (given : Keyed.get? name (pendingLog time campaignId posting) = some (.text text)) :
      row.cell name = some (.text text) := by
    have log : (textTrack (textColumn name)).Gives (logChange time campaignId posting).2 :=
      logGives fun v found => .inr ⟨text, Option.some.inj (found.symm.trans given)⟩
    have keeps :=
      ofRow (textTrack_sound rfl mem unstamped rfl) log fun report _ => report.gives_text other
    rw [last_text time campaignId posting reports other given] at keeps
    exact keeps.of_text rfl
  rw [last_status] at status
  rw [last_sentAt] at sentAt
  rw [last_error] at error
  exact ⟨row, found, {
    campaign := textCell (by simp [logSchema]) (by decide) (by decide) rfl
    customer := textCell (by simp [logSchema]) (by decide) (by decide) rfl
    message := textCell (by simp [logSchema]) (by decide) (by decide) rfl
    status := keeps_status (Report.stateAfter_known run.valid) status
    sentAt := cell_of_sentAt sentAt
    error := cell_of_error error }⟩

end Shown

/-- The row of a log reflects its receipts. A message was posted under a new identifier at any time,
and then receipts for it were recorded, among whatever else happened. Once nothing of the log waits,
and if nothing of it was given up, its row has the state of the last receipt, the time of the last
one that said that the message was sent, and what the last failure since then says; the campaign,
the customer and the message are those that were posted. -/
theorem log_reflects_receipts {origin before station : Station .logs} {sent deleted : List String}
    {name : String} {config : Writes.Config} {campaignId template logId : String} {customer : Value}
    {after : Office} {reports : List Report} (earlier : Dispatches origin sent deleted before)
    (idle : origin.coalescer = .idle name config) (schema : origin.table.schema = logSchema)
    (fresh : ∀ number, origin.office.drawn < number →
      origin.table.row? (Office.identifier number) = none)
    (ran : Task.perform (deliverOne campaignId template customer) before.desk = (.ok logId, after))
    (run : Reported logId (before.served after) reports station)
    (settled : SettledFor logId station.coalescer.processor) :
    ∃ posting row, posting.logId = logId ∧ Addresses template customer posting ∧
      station.table.row? logId = some row ∧ RowShows campaignId posting reports row ∧
      (row.cell "status" = some (.text "SENT") →
        row.cell "sent_at" ≠ none ∧ row.cell "error_message" = none) ∧
      (row.cell "status" = some (.text "FAILED") →
        ∃ why, why ≠ "" ∧ row.cell "error_message" = some (.text why)) := by
  have unwritten := earlier.unwritten idle fresh
  have regular := (earlier.posted (.idle idle fresh)).regular
  obtain ⟨posting, p, addresses, postingId, drawn, queued, afterEq⟩ :=
    exists_posting_of_deliverOne ran
  rw [drawn] at queued postingId run settled ⊢
  rw [Station.desk_processor] at queued
  have putBack : after.processors = before.desk.processors.set .logs p :=
    congrArg Office.processors afterEq
  rw [before.served_of_put_back putBack] at run
  subst afterEq
  have beyond : before.office.drawn < before.office.drawn + 1 := Nat.lt_succ_self _
  have start {track : Track} (sound : track.Sound logSchema)
      (log : track.Gives (logChange before.desk.clock campaignId posting).2) :
      track.Behind (Office.identifier (before.office.drawn + 1))
        [(logChange before.desk.clock campaignId posting).2]
        { before.coalescer with processor := p } before.table := by
    rw [← unwritten.schema.trans schema] at sound
    have none :=
      Track.Behind.fresh regular sound (unwritten.unused _ beyond) (unwritten.missing _ beyond)
    exact none.enqueue log queued
  obtain ⟨row, found, shows⟩ :=
    run.rowShows settled fun track sound log => ⟨le_refl _, start sound log⟩
  exact ⟨posting, row, postingId, addresses, found, shows, shows.sent, shows.failed⟩

/-- The office after a receipt. -/
def recorded (receipt : Form.Receipt) (station : Station .logs) : Station .logs :=
  station.served (Task.perform (recordReceipt receipt) station.desk).2

/-- A flush is in flight. -/
def flying (station : Station .logs) : Writes.Coalescer := station.coalescer.step (.start 0 .flush)

/-- The office after a flush. -/
def flushed (station : Station .logs) : Station .logs :=
  let (answer, table) :=
    Table.sink station.office.clock (flying station).processor.flight station.table
  station.worked ((flying station).step (.finish 1 answer .working)) table

theorem Reported.flush {logId : String} {before station : Station .logs} {reports : List Report}
    (run : Reported logId before reports station) (taken : (flying station).processor.flight ≠ []) :
    Reported logId before reports (flushed station) :=
  (run.works (.work (.start 0 .flush) not_false not_false)).works
  (.sink 1 station.office.clock .working taken)

theorem Reported.record {before station : Station .logs} {reports : List Report}
    (receipt : Form.Receipt) (run : Reported receipt.logId before reports station)
    (valid : Report.Valid ⟨station.office.clock, receipt⟩)
    (succeeds : (Task.perform (recordReceipt receipt) station.desk).1.isOk = true) :
    Reported receipt.logId before (reports ++ [⟨station.office.clock, receipt⟩])
      (recorded receipt station) := by
  have reportedOn : reportOn receipt.logId ⟨station.office.clock, receipt⟩
      (Task.perform (recordReceipt receipt) station.desk).1 =
      [⟨station.office.clock, receipt⟩] := by
    generalize (Task.perform (recordReceipt receipt) station.desk).1 = result at succeeds
    cases result with
    | ok _ => exact if_pos rfl
    | error _ => cases succeeds
  rw [← reportedOn]
  exact run.receipt receipt valid

/-- The vendor takes back what it said of the message, and does not say why. -/
def secondReceipt : Form.Receipt := ⟨Office.identifier 1, "FAILED", none⟩

/-- The office after both receipts, with a flush before each and at the end. -/
def settledStation : Station .logs :=
  flushed (recorded secondReceipt (flushed (recorded firstReceipt (flushed postedStation))))

/-- Both receipts were recorded at one time. -/
def bothReports : List Report :=
  [⟨quietStation.office.clock, firstReceipt⟩, ⟨quietStation.office.clock, secondReceipt⟩]

theorem settledStation_reported :
    Reported (Office.identifier 1) postedStation bothReports settledStation := by
  have posted : Reported firstReceipt.logId postedStation [] postedStation := .opens
  have first :=
    (posted.flush (by decide +kernel)).record firstReceipt ⟨by decide, rfl⟩ (by decide +kernel)
  have second :=
    (first.flush (by decide +kernel)).record secondReceipt ⟨by decide, rfl⟩ (by decide +kernel)
  exact second.flush (by decide +kernel)

/-- The message was sent and failed in the end, and its row says both. -/
theorem settledStation_failed :
    ∃ row, settledStation.table.row? (Office.identifier 1) = some row ∧
      row.cell "status" = some (.text "FAILED") ∧
      row.cell "sent_at" = some (.time quietStation.office.clock.naive) ∧
      row.cell "error_message" = some (.text "Unknown error") := by
  obtain ⟨posting, row, -, -, found, shows, -, -⟩ :=
    log_reflects_receipts .opens rfl rfl (fun _ _ => rfl)
    (show Task.perform (deliverOne "launch" "Hello!" firstCustomer) quietStation.desk =
      (.ok (Office.identifier 1), _) from rfl) settledStation_reported (by decide +kernel)
  exact ⟨row, found, shows.status, shows.sentAt, shows.error⟩

end Outreach.Delivery
