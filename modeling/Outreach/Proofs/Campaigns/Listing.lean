import Outreach.Campaigns
import Outreach.Proofs.Delivery.Tallies
import Outreach.Proofs.Form.Rows

/-!
# The list of campaigns

A list of campaigns shows each campaign of its creator once, with the numbers of its own logs in
each state. It is there exactly when all of these campaigns can be shown: a campaign whose content
is no map, say, fits its table and has no place in an answer.
-/

namespace Outreach.Campaigns

open Store Form Delivery

/-! ## Campaigns that can be shown -/

/-- A campaign that can be shown: its channel and its state are known, its content is a map, and its
three numbers are whole. -/
structure Presentable (row : Row) : Prop where
  channel : NamesMember campaignTypes (row.cell "type")
  status : NamesMember campaignStatuses (row.cell "status")
  content : ∃ fields, row.cell "content" = some (.map fields)
  size : ReadsAsWhole (row.cell "audience_size")
  sent : ReadsAsWhole (row.cell "sent")
  failed : ReadsAsWhole (row.cell "failed")

theorem campaignSchema_sound : campaignSchema.Sound where
  distinct := by decide
  noId := by decide
  stamp := by decide
  clock := by
    simp [campaignSchema, textColumn, optionalText, countColumn, optionalTime, stampColumns]

/-- The column of the channel of a campaign. -/
def channelChoice : Column :=
  ⟨"type", .choice "campaign_type_enum" campaignTypes, false, .value (.text "email")⟩

/-- The column of the state of a campaign. -/
def statusChoice : Column :=
  ⟨"status", .choice "campaign_status_enum" campaignStatuses, false, .value (.text "draft")⟩

theorem channelChoice_mem : channelChoice ∈ campaignSchema.columns := by
  simp [channelChoice, campaignSchema]

theorem statusChoice_mem : statusChoice ∈ campaignSchema.columns := by
  simp [statusChoice, campaignSchema]

section Rows

variable {t : Table} {row : Row} (committed : t.Committed campaignSchema) (rowMem : row ∈ t.rows)
include committed

include rowMem in
/-- A campaign can be read exactly when its channel and its state are known. -/
theorem exists_readRow_campaign_iff : (∃ fields, t.readRow row = .ok fields) ↔
    NamesMember campaignTypes (row.cell "type") ∧
    NamesMember campaignStatuses (row.cell "status") := by
  have channel : (∃ value, channelChoice.read (row.cell "type") = .ok value) ↔
      NamesMember campaignTypes (row.cell "type") :=
    (committed.fits row rowMem).exists_read_iff channelChoice_mem rfl rfl
  have status : (∃ value, statusChoice.read (row.cell "status") = .ok value) ↔
      NamesMember campaignStatuses (row.cell "status") :=
    (committed.fits row rowMem).exists_read_iff statusChoice_mem rfl rfl
  have listed : ∀ column ∈ [channelChoice, statusChoice], column ∈ campaignSchema.columns :=
    List.forall_mem_cons.mpr ⟨channelChoice_mem, List.forall_mem_singleton.mpr statusChoice_mem⟩
  have others : ∀ column ∈ campaignSchema.columns, column ∉ [channelChoice, statusChoice] →
      ∀ name members, column.kind ≠ .choice name members := by
    simp [campaignSchema, textColumn, optionalText, countColumn, optionalTime, stampColumns,
      channelChoice, statusChoice]
  rw [committed.exists_readRow_iff listed others, List.forall_mem_cons,
    List.forall_mem_singleton, ← channel, ← status]
  rfl

variable {fields : Fields} (read : t.readRow row = .ok fields)
include read

/-! ### The view of a list -/

theorem get?_content :
    Keyed.get? "content" fields = some ((row.cell "content").getD .null) := by
  have columnMem : ⟨"content", .structured, false, .nothing⟩ ∈ campaignSchema.columns := by
    simp [campaignSchema]
  exact committed.get?_of_noChoice campaignSchema_sound read columnMem nofun

theorem get?_count {name : String} (columnMem : countColumn name ∈ campaignSchema.columns) :
    Keyed.get? name fields = some ((row.cell name).getD .null) :=
  committed.get?_of_noChoice campaignSchema_sound read columnMem nofun

section Valid

variable {seen : Value} (valid : View.campaignSummary.check .top (.map fields) = .valid seen)
include valid

/-- A number that is shown is whole. -/
theorem readsAsWhole_of_check {name : String}
    (columnMem : countColumn name ∈ campaignSchema.columns)
    (entryMem : count name ∈ View.campaignSummary) : ReadsAsWhole (row.cell name) := by
  obtain ⟨place, shown, formed⟩ :=
    exists_form_of_check valid entryMem (get?_count committed read columnMem)
  exact readsAsWhole_of_wholeForm formed

/-- The content that is shown is a map. -/
theorem exists_map_of_check : ∃ content, row.cell "content" = some (.map content) := by
  have contentMem : needed "content" mapForm ∈ View.campaignSummary := by
    simp [View.campaignSummary, View.campaign]
  obtain ⟨place, shown, formed⟩ :=
    exists_form_of_check valid contentMem (get?_content committed read)
  obtain ⟨map, isMap, -⟩ := Checked.map_eq_valid formed
  cases cellEq : row.cell "content" with
  | none =>
      rw [cellEq] at isMap
      cases isMap
  | some value =>
      rw [cellEq] at isMap
      cases value with
      | map content => exact ⟨content, rfl⟩
      | _ => cases isMap

end Valid

include rowMem

/-- A campaign goes through the view of a list if its content is a map and its numbers are whole:
every other column shows whatever fits it. -/
theorem exists_check_summary {content : Fields} (isMap : row.cell "content" = some (.map content))
    (size : ReadsAsWhole (row.cell "audience_size")) (sent : ReadsAsWhole (row.cell "sent"))
    (failed : ReadsAsWhole (row.cell "failed")) :
    ∃ seen, View.campaignSummary.check .top (.map fields) = .valid seen := by
  have text (name : String) (columnMem : textColumn name ∈ campaignSchema.columns) :
      ∃ value, (needed name textForm).Shows fields value :=
    committed.shows_text campaignSchema_sound read rowMem columnMem rfl rfl
  have time (column : Column) (columnMem : column ∈ campaignSchema.columns)
      (kind : column.kind = .time) :
      ∃ value, (orMissing column.name timeOrNull).Shows fields value :=
    committed.shows_time campaignSchema_sound read rowMem columnMem kind
  have zero {name : String} (noColumn : name ∉ "id" :: campaignSchema.columns.map Column.name) :
      (count name).Shows fields (.int 0) := .missing (committed.get?_of_noColumn read noColumn) rfl
  have id : (needed "id" textForm).Shows fields (.text row.id) := by
    obtain ⟨cells, -, fieldsEq⟩ := bind_eq_ok_iff.mp read
    cases fieldsEq
    exact .read rfl fun place => textForm_text place row.id
  have segmentName : (orMissing "segment_name" textOrNull).Shows fields .null :=
    .missing (committed.get?_of_noColumn read (by decide)) rfl
  have found := get?_content committed read
  rw [isMap] at found
  have contentShown : (needed "content" mapForm).Shows fields (shown (.map content)) :=
    .read found fun place => mapForm_map place content
  obtain ⟨_, name⟩ := text "name" (by simp [campaignSchema])
  have descriptionMem : optionalText "description" ∈ campaignSchema.columns := by
    simp [campaignSchema]
  obtain ⟨_, description⟩ :=
    committed.shows_optionalText campaignSchema_sound read rowMem descriptionMem rfl
  obtain ⟨_, channel⟩ :=
    committed.shows_choice campaignSchema_sound read rowMem channelChoice_mem rfl rfl
  obtain ⟨_, segment⟩ := text "segment_id" (by simp [campaignSchema])
  obtain ⟨_, creator⟩ := text "creator" (by simp [campaignSchema])
  obtain ⟨_, sizeShown⟩ := size.shows (get?_count committed read (by simp [campaignSchema]))
  obtain ⟨_, sentShown⟩ := sent.shows (get?_count committed read (by simp [campaignSchema]))
  obtain ⟨_, failedShown⟩ := failed.shows (get?_count committed read (by simp [campaignSchema]))
  obtain ⟨_, status⟩ :=
    committed.shows_choice campaignSchema_sound read rowMem statusChoice_mem rfl rfl
  obtain ⟨_, schedule⟩ := time (optionalTime "schedule_date") (by simp [campaignSchema]) rfl
  obtain ⟨_, completed⟩ := time (optionalTime "completed_at") (by simp [campaignSchema]) rfl
  obtain ⟨_, created⟩ := time ⟨"created_at", .time, false, .storeClock⟩
    (by simp [campaignSchema, stampColumns]) rfl
  obtain ⟨_, updated⟩ := time ⟨stampColumn, .time, false, .storeClock⟩
    (by simp [campaignSchema, stampColumns]) rfl
  exact ⟨_, check_of_shows (.cons id (.cons name (.cons description (.cons channel (.cons segment
    (.cons contentShown (.cons creator (.cons sizeShown (.cons sentShown (.cons failedShown
    (.cons status (.cons schedule (.cons completed (.cons created (.cons updated (.cons segmentName
    (.cons (zero (by decide)) (.cons (zero (by decide)) (.cons (zero (by decide))
    .nil))))))))))))))))))) .top⟩

/-- What is read of a campaign goes through the view of a list exactly if content and
numbers can be shown. -/
theorem exists_check_summary_iff :
    (∃ seen, View.campaignSummary.check .top (.map fields) = .valid seen) ↔
      (∃ content, row.cell "content" = some (.map content)) ∧
        ReadsAsWhole (row.cell "audience_size") ∧ ReadsAsWhole (row.cell "sent") ∧
        ReadsAsWhole (row.cell "failed") := by
  constructor
  · rintro ⟨seen, valid⟩
    have whole {name : String} (columnMem : countColumn name ∈ campaignSchema.columns)
        (entryMem : count name ∈ View.campaignSummary) : ReadsAsWhole (row.cell name) :=
      readsAsWhole_of_check committed read valid columnMem entryMem
    exact ⟨exists_map_of_check committed read valid,
      whole (by simp [campaignSchema]) (by simp [View.campaignSummary, View.campaign]),
      whole (by simp [campaignSchema]) (by simp [View.campaignSummary, View.campaign]),
      whole (by simp [campaignSchema]) (by simp [View.campaignSummary, View.campaign])⟩
  · rintro ⟨⟨content, isMap⟩, size, sent, failed⟩
    exact exists_check_summary committed rowMem read isMap size sent failed

end Rows

/-! ## What is shown of them -/

/-- An answer names a campaign and gives the counts of its messages. -/
structure Tells (id : String) (counts : Counts) (answer : Value) : Prop where
  id : answer.field "id" = .text id
  sent : answer.field "sent_count" = .int counts.sent
  failed : answer.field "failed_count" = .int counts.failed
  pending : answer.field "pending_count" = .int counts.pending

variable {o after : Office} {segments : List (String × Fields)} {counts : List (String × Counts)}

/-- A campaign goes through the view of a list. -/
def Viewed (campaign : Fields) : Prop :=
  ∃ seen, View.campaignSummary.check .top (.map campaign) = .valid seen

theorem exists_summary {campaign : Fields} (viewed : Viewed campaign) :
    ∃ answer, Task.perform (summary segments counts campaign) o = (.ok answer, o) := by
  obtain ⟨seen, valid⟩ := viewed
  exact ⟨_, Task.perform_bind_eq_ok_iff.mpr
    ⟨seen, o, Task.perform_present_eq_ok_iff.mpr ⟨valid, rfl⟩, rfl⟩⟩

/-- The counts of a campaign are those that were found under its identifier, or else zeros. -/
theorem of_perform_summary {campaign : Fields} {answer : Value}
    (ran : Task.perform (summary segments counts campaign) o = (.ok answer, after)) :
    after = o ∧ Viewed campaign ∧
      Tells (textField "id" campaign)
        ((Keyed.get? (textField "id" campaign) counts).getD .zero) answer := by
  obtain ⟨seen, middle, presented, ended⟩ := Task.perform_bind_eq_ok_iff.mp ran
  obtain ⟨valid, rfl⟩ := Task.perform_present_eq_ok_iff.mp presented
  obtain ⟨rfl, rfl⟩ := Task.perform_pure_eq_ok_iff.mp ended
  obtain ⟨more, rfl⟩ := shows_id valid
  refine ⟨rfl, ⟨_, valid⟩, ?_, ?_, ?_, ?_⟩
  all_goals
    rw [Value.field, Keyed.get?_putAll (by simp)]
    rfl

theorem exists_summaries {campaigns : List Fields}
    (viewed : ∀ campaign ∈ campaigns, Viewed campaign) :
    ∃ answers, Task.perform (summaries segments counts campaigns) o = (.ok answers, o) := by
  induction campaigns with
  | nil => exact ⟨[], rfl⟩
  | cons campaign rest ih =>
      obtain ⟨first, restViewed⟩ := List.forall_mem_cons.mp viewed
      obtain ⟨answer, ran⟩ : ∃ answer, Task.perform (summary segments counts campaign) o =
          (.ok answer, o) :=
        exists_summary first
      obtain ⟨others, othersRan⟩ := ih restViewed
      exact ⟨answer :: others, Task.perform_bind_eq_ok_iff.mpr ⟨answer, o, ran,
        Task.perform_bind_eq_ok_iff.mpr ⟨others, o, othersRan, rfl⟩⟩⟩

theorem of_perform_summaries {campaigns : List Fields} {answers : List Value}
    (ran : Task.perform (summaries segments counts campaigns) o = (.ok answers, after)) :
    after = o ∧ (∀ campaign ∈ campaigns, Viewed campaign) ∧ List.Forall₂ (fun campaign answer =>
      Tells (textField "id" campaign)
        ((Keyed.get? (textField "id" campaign) counts).getD .zero) answer)
      campaigns answers := by
  induction campaigns generalizing answers after with
  | nil =>
      obtain ⟨rfl, rfl⟩ := Task.perform_pure_eq_ok_iff.mp ran
      exact ⟨rfl, nofun, .nil⟩
  | cons campaign rest ih =>
      obtain ⟨answer, middle, first, later⟩ := Task.perform_bind_eq_ok_iff.mp ran
      obtain ⟨others, _, othersRan, ended⟩ := Task.perform_bind_eq_ok_iff.mp later
      obtain ⟨rfl, rfl⟩ := Task.perform_pure_eq_ok_iff.mp ended
      obtain ⟨rfl, viewed, tells⟩ := of_perform_summary first
      obtain ⟨rfl, othersViewed, othersTell⟩ := ih othersRan
      exact ⟨rfl, List.forall_mem_cons.mpr ⟨viewed, othersViewed⟩, .cons tells othersTell⟩

/-! ## The list -/

/-- The tables that a list of campaigns is made of are committed. -/
structure Filed (o : Office) : Prop where
  campaigns : (o.table .campaigns).Committed campaignSchema
  segments : (o.table .segments).Committed segmentSchema
  logs : (o.table .logs).Committed logSchema

theorem exists_findMany (committed : (o.table .segments).Committed segmentSchema)
    (ids : List String) :
    ∃ found, Task.perform (Segments.findMany ids) o = (.ok found, o) := by
  obtain ⟨found, read⟩ := committed.exists_readRows segmentSchema_plain
    ((o.table .segments).rows.filter fun row => ids.contains row.id)
  exact ⟨_, Task.perform_bind_eq_ok_iff.mpr ⟨found, o,
    Task.perform_select_eq_ok_iff.mpr ⟨read, rfl⟩, rfl⟩⟩

theorem of_perform_findMany {ids : List String} {found : List (String × Fields)}
    (ran : Task.perform (Segments.findMany ids) o = (.ok found, after)) : after = o := by
  obtain ⟨segments, middle, selected, ended⟩ := Task.perform_bind_eq_ok_iff.mp ran
  obtain ⟨-, rfl⟩ := Task.perform_select_eq_ok_iff.mp selected
  exact (Task.perform_pure_eq_ok_iff.mp ended).2

/-- The stored campaigns of a creator, newest first. -/
def rowsListed (creator : Option String) (o : Office) : List Row :=
  newestFirst "created_at" ((o.table .campaigns).rowsOf "creator" creator)

theorem rowsListed_perm (creator : Option String) (o : Office) :
    (rowsListed creator o).Perm ((o.table .campaigns).rowsOf "creator" creator) :=
    List.mergeSort_perm _ _

variable {creator : Option String} {answers : List Value}

theorem mem_rows_of_listed {row : Row}
    (listed : row ∈ (o.table .campaigns).rowsOf "creator" creator) :
    row ∈ (o.table .campaigns).rows := by
  cases creator with
  | none => exact listed
  | some name => exact List.mem_of_mem_filter listed

theorem perform_list_eq_ok_iff : Task.perform (list creator) o = (.ok answers, after) ↔
    ∃ campaigns segments, (o.table .campaigns).readRows (rowsListed creator o) = .ok campaigns ∧
      Task.perform (Segments.findMany (campaigns.map (textField "segment_id"))) o =
      (.ok segments, o) ∧
      Task.perform (summaries segments (countsByCampaign (campaigns.map (textField "id"))
        (o.table .logs))
        campaigns) o = (.ok answers, after) := by
  unfold list
  constructor
  · intro ran
    obtain ⟨campaigns, middle, selected, later⟩ := Task.perform_bind_eq_ok_iff.mp ran
    obtain ⟨read, rfl⟩ := Task.perform_select_eq_ok_iff.mp selected
    obtain ⟨segments, middle, found, last⟩ := Task.perform_bind_eq_ok_iff.mp later
    obtain rfl := of_perform_findMany found
    exact ⟨campaigns, segments, read, found, last⟩
  · rintro ⟨campaigns, segments, read, found, last⟩
    refine Task.perform_bind_eq_ok_iff.mpr ⟨campaigns, o,
      Task.perform_select_eq_ok_iff.mpr ⟨read, rfl⟩, ?_⟩
    exact Task.perform_bind_eq_ok_iff.mpr ⟨segments, o, found, last⟩

/-- The list is there exactly when all campaigns in it can be shown. -/
theorem exists_list_iff (filed : Filed o) :
    (∃ answers, Task.perform (list creator) o = (.ok answers, o)) ↔
    ∀ row ∈ (o.table .campaigns).rowsOf "creator" creator, Presentable row := by
  simp only [← (rowsListed_perm creator o).mem_iff]
  constructor
  · rintro ⟨answers, ran⟩ row rowListed
    obtain ⟨campaigns, segments, read, -, shown⟩ := perform_list_eq_ok_iff.mp ran
    have rowMem := mem_rows_of_listed ((rowsListed_perm creator o).mem_iff.mp rowListed)
    obtain ⟨fields, fieldsRead⟩ := exists_readRows_iff.mp ⟨campaigns, read⟩ row rowListed
    have fieldsMem : fields ∈ campaigns := (mem_readRows_iff read).mpr ⟨row, rowListed, fieldsRead⟩
    obtain ⟨-, viewed, -⟩ := of_perform_summaries shown
    obtain ⟨channel, status⟩ :=
      (exists_readRow_campaign_iff filed.campaigns rowMem).mp ⟨fields, fieldsRead⟩
    obtain ⟨content, size, sent, failed⟩ :=
      (exists_check_summary_iff filed.campaigns rowMem fieldsRead).mp (viewed fields fieldsMem)
    exact ⟨channel, status, content, size, sent, failed⟩
  · intro presentable
    have stored (row : Row) (rowListed : row ∈ rowsListed creator o) :
        row ∈ (o.table .campaigns).rows :=
      mem_rows_of_listed ((rowsListed_perm creator o).mem_iff.mp rowListed)
    obtain ⟨campaigns, read⟩ := exists_readRows_iff.mpr fun row rowListed =>
      (exists_readRow_campaign_iff filed.campaigns (stored row rowListed)).mpr
        ⟨(presentable row rowListed).channel, (presentable row rowListed).status⟩
    obtain ⟨segments, found⟩ :=
      exists_findMany filed.segments (campaigns.map (textField "segment_id"))
    have viewed : ∀ campaign ∈ campaigns, Viewed campaign := by
      intro campaign campaignMem
      obtain ⟨row, rowListed, rowRead⟩ := (mem_readRows_iff read).mp campaignMem
      have shown := presentable row rowListed
      exact (exists_check_summary_iff filed.campaigns (stored row rowListed) rowRead).mpr
        ⟨shown.content, shown.size, shown.sent, shown.failed⟩
    obtain ⟨answers, shown⟩ := exists_summaries viewed
    exact ⟨answers, perform_list_eq_ok_iff.mpr ⟨campaigns, segments, read, found, shown⟩⟩

theorem ids_of_readRows {t : Table} {rows : List Row} {found : List Fields}
    (read : t.readRows rows = .ok found) :
    found.map (textField "id") = rows.map Row.id := by
  rw [readRows_eq_ok_iff] at read
  induction read with
  | nil => rfl
  | cons first _ ih => rw [List.map_cons, List.map_cons, textField_id_of_readRow first, ih]

/-- Each row that is listed has its answer, which tells the numbers of its own logs. -/
theorem tells_of_perform_list (ran : Task.perform (list creator) o = (.ok answers, after)) :
    after = o ∧
    List.Forall₂ (fun row answer =>
      Tells row.id (.ofRows ((o.table .logs).rowsWith "campaign_id" row.id)) answer)
      (rowsListed creator o) answers := by
  obtain ⟨campaigns, segments, read, -, shown⟩ := perform_list_eq_ok_iff.mp ran
  obtain ⟨rfl, -, tells⟩ := of_perform_summaries shown
  refine ⟨rfl, ?_⟩
  -- What is told depends on a campaign by its identifier only, and rows have the same ones.
  rw [← List.forall₂_map_left_iff (f := textField "id") (R := fun id answer =>
    Tells id ((Keyed.get? id
    (countsByCampaign (campaigns.map (textField "id")) (after.table .logs))).getD .zero) answer),
    ids_of_readRows read] at tells
  have asked := (List.forall₂_and_left _ _).mpr ⟨fun _ idMem => idMem, tells⟩
  exact (List.forall₂_map_left_iff.mp asked).imp fun row answer ⟨idMem, told⟩ => by
    rwa [get?_countsByCampaign idMem] at told

/-- The counts in an answer are the numbers of the campaign's own logs in each state. The list
of these logs has the same numbers, which add up to its length, and it is there when all
states in it are known. -/
structure CountsLogs (o : Office) (id : String) (answer : Value) : Prop where
  own : Tells id (.ofRows ((o.table .logs).rowsWith "campaign_id" id)) answer
  without : (o.table .logs).rowsWith "campaign_id" id = [] → Tells id .zero answer
  listed : ∀ logs after, Task.perform (logsOf id) o = (.ok logs, after) →
    Tells id ⟨logsIn "SENT" logs, logsIn "FAILED" logs, logsIn "PENDING" logs⟩ answer ∧
    logsIn "SENT" logs + logsIn "FAILED" logs + logsIn "PENDING" logs = logs.length ∧
    logs.length = ((o.table .logs).rowsWith "campaign_id" id).length
  listable : (∃ logs, Task.perform (logsOf id) o = (.ok logs, o)) ↔
    ∀ row ∈ (o.table .logs).rowsWith "campaign_id" id,
    NamesMember deliveryStatuses (row.cell "status")

theorem Tells.countsLogs {id : String} {answer : Value}
    (committed : (o.table .logs).Committed logSchema)
    (tells : Tells id (.ofRows ((o.table .logs).rowsWith "campaign_id" id)) answer) :
    CountsLogs o id answer where
  own := tells
  without := fun noLogs => by rwa [noLogs] at tells
  listed := fun logs after listed => by
    obtain ⟨each, sum⟩ := counts_of_logsOf committed listed
    refine ⟨?_, sum, length_of_logsOf listed⟩
    rw [each, each, each]
    exact tells
  listable := exists_logsOf_iff committed

/-- The list has each campaign of the creator once, with the counts of its own logs, and no other.
It is there exactly when each of these campaigns can be shown. -/
theorem list_counts_own_logs (filed : Filed o) (creator : Option String) :
    ((∃ answers, Task.perform (list creator) o = (.ok answers, o)) ↔
      ∀ row ∈ (o.table .campaigns).rowsOf "creator" creator, Presentable row) ∧
    ∀ answers after, Task.perform (list creator) o = (.ok answers, after) → after = o ∧
      ∃ rows, rows.Perm ((o.table .campaigns).rowsOf "creator" creator) ∧ (rows.map Row.id).Nodup ∧
        List.Forall₂ (fun row answer => CountsLogs o row.id answer) rows answers := by
  refine ⟨exists_list_iff filed, fun answers after ran => ?_⟩
  obtain ⟨rfl, tells⟩ := tells_of_perform_list ran
  refine ⟨rfl, rowsListed creator after, rowsListed_perm creator after, ?_, ?_⟩
  · rw [((rowsListed_perm creator after).map Row.id).nodup_iff]
    refine filed.campaigns.distinct.sublist (List.Sublist.map Row.id ?_)
    cases creator with
    | none => exact List.Sublist.refl _
    | some name => exact List.filter_sublist
  · exact tells.imp fun _ _ told => told.countsLogs filed.logs

/-! ## A shop -/

/-- A campaign of a creator with some content. -/
def offer (id creator : String) (content : Value) : Row :=
  ⟨id, [("name", some (.text id)), ("type", some (.text "EMAIL")),
    ("segment_id", some (.text "everyone")),
    ("content", some content), ("creator", some (.text creator)), ("audience_size", some (.int 2)),
    ("sent", some (.int 0)), ("failed", some (.int 0)), ("status", some (.text "DRAFT")),
    ("created_at", some (.time (.midnight ⟨2026, 1, 1⟩))),
    ("updated_at", some (.time (.midnight ⟨2026, 1, 1⟩)))], []⟩

/-- A message of a campaign in some state. -/
def leaflet (id campaign status : String) : Row :=
  ⟨id, [("campaign_id", some (.text campaign)), ("customer_id", some (.text "ada")),
    ("message", some (.text "Hello")), ("status", some (.text status)),
    ("created_at", some (.time (.midnight ⟨2026, 1, 1⟩))),
    ("updated_at", some (.time (.midnight ⟨2026, 1, 1⟩)))], []⟩

/-- An office with campaigns and messages. -/
def shop (offers leaflets : List Row) : Office :=
  let opened := Office.opened (.midnight ⟨2026, 1, 2⟩) .standard (.fresh "http://vendor" true [])
  { opened with
    tables :=
      (opened.tables.set .campaigns ⟨campaignSchema, offers⟩).set .logs ⟨logSchema, leaflets⟩ }

theorem offer_fits {id creator : String} (content : Value)
    (idPlain : Text.hasLoneSurrogate id = false)
    (creatorPlain : Text.hasLoneSurrogate creator = false) :
    (offer id creator content).Fits campaignSchema := by
  apply Row.Fits.of_isSome
  · intro column columnMem value valueEq
    simp only [campaignSchema, stampColumns, List.cons_append, List.nil_append, List.mem_cons,
      List.not_mem_nil, or_false] at columnMem
    rcases columnMem with rfl | rfl | rfl | rfl | rfl | rfl | rfl | rfl | rfl | rfl | rfl | rfl |
      rfl | rfl | rfl
    all_goals cases valueEq
    · exact .text idPlain
    · exact .choice _ _ _
    · exact .text (by decide)
    · exact .structured content
    · exact .text creatorPlain
    · exact .int 2
    · exact .int 0
    · exact .int 0
    · exact .choice _ _ _
    · exact .time _
    · exact .time _
  · simp [campaignSchema, stampColumns, textColumn, optionalText, optionalTime, countColumn,
      offer, Row.cell, Keyed.get?, stampColumn]

theorem leaflet_fits {id campaign status : String}
    (campaignPlain : Text.hasLoneSurrogate campaign = false) :
    (leaflet id campaign status).Fits logSchema := by
  apply Row.Fits.of_isSome
  · intro column columnMem value valueEq
    simp only [logSchema, stampColumns, List.cons_append, List.nil_append, List.mem_cons,
      List.not_mem_nil, or_false] at columnMem
    rcases columnMem with rfl | rfl | rfl | rfl | rfl | rfl | rfl | rfl
    all_goals cases valueEq
    · exact .text campaignPlain
    · exact .text (by decide)
    · exact .text (by decide)
    · exact .choice _ _ _
    · exact .time _
    · exact .time _
  · simp [logSchema, stampColumns, textColumn, optionalText, optionalTime, leaflet,
      Row.cell, Keyed.get?, stampColumn]

theorem shop_filed {offers leaflets : List Row} (distinctOffers : (offers.map Row.id).Nodup)
    (distinctLeaflets : (leaflets.map Row.id).Nodup)
    (offersFit : ∀ row ∈ offers, row.Fits campaignSchema)
    (leafletsFit : ∀ row ∈ leaflets, row.Fits logSchema) : Filed (shop offers leaflets) where
  campaigns := { schema_eq := rfl, distinct := distinctOffers, fits := offersFit }
  segments := .empty segmentSchema
  logs := { schema_eq := rfl, distinct := distinctLeaflets, fits := leafletsFit }

/-- Two creators have a campaign each. There are messages of both campaigns and one of a campaign
that is gone. -/
def twoOffers : Office :=
  shop [offer "spring" "ana" (.map []), offer "autumn" "ben" (.map [])]
    [leaflet "one" "spring" "SENT", leaflet "two" "autumn" "SENT", leaflet "three" "gone" "FAILED",
      leaflet "four" "spring" "PENDING", leaflet "five" "spring" "SENT"]

theorem twoOffers_filed : Filed twoOffers := by
  have spring : (offer "spring" "ana" (.map [])).Fits campaignSchema :=
    offer_fits _ (by decide) (by decide)
  have autumn : (offer "autumn" "ben" (.map [])).Fits campaignSchema :=
    offer_fits _ (by decide) (by decide)
  refine shop_filed (by decide) (by decide) ?_ ?_
  · exact List.forall_mem_cons.mpr ⟨spring, List.forall_mem_singleton.mpr autumn⟩
  · simp only [List.forall_mem_cons]
    exact ⟨leaflet_fits (by decide), leaflet_fits (by decide), leaflet_fits (by decide),
      leaflet_fits (by decide),
      leaflet_fits (by decide), nofun⟩

theorem offer_presentable (id creator : String) (fields : Fields) :
    Presentable (offer id creator (.map fields)) where
  channel := ⟨"EMAIL", by decide, rfl⟩
  status := ⟨"DRAFT", by decide, rfl⟩
  content := ⟨fields, rfl⟩
  size := ⟨.int 2, 2, rfl, rfl⟩
  sent := ⟨.int 0, 0, rfl, rfl⟩
  failed := ⟨.int 0, 0, rfl, rfl⟩

/-- Of one creator there is one campaign in the list, with the counts of its own three messages. -/
theorem twoOffers_lists_spring : Filed twoOffers ∧ ∃ answer logs,
    Task.perform (list (some "ana")) twoOffers = (.ok [answer], twoOffers) ∧
    Tells "spring" ⟨2, 0, 1⟩ answer ∧
      Task.perform (logsOf "spring") twoOffers = (.ok logs, twoOffers) ∧ logs.length = 3 := by
  obtain ⟨exists_iff, each⟩ := list_counts_own_logs twoOffers_filed (some "ana")
  have rowsEq : (twoOffers.table .campaigns).rowsOf "creator" (some "ana") =
      [offer "spring" "ana" (.map [])] := rfl
  rw [rowsEq] at exists_iff each
  obtain ⟨answers, ran⟩ := exists_iff.mpr (List.forall_mem_singleton.mpr (offer_presentable _ _ _))
  obtain ⟨-, rows, perm, -, counted⟩ := each answers _ ran
  obtain rfl := List.perm_singleton.mp perm
  obtain ⟨answer, _, counts, rest, rfl⟩ := List.forall₂_cons_left_iff.mp counted
  obtain rfl := List.forall₂_nil_left_iff.mp rest
  have ownLogs : (twoOffers.table .logs).rowsWith "campaign_id" "spring" =
      [leaflet "one" "spring" "SENT", leaflet "four" "spring" "PENDING",
        leaflet "five" "spring" "SENT"] := rfl
  have known : ∀ row ∈ (twoOffers.table .logs).rowsWith "campaign_id" "spring",
      NamesMember deliveryStatuses (row.cell "status") := by
    rw [ownLogs]
    simp only [List.forall_mem_cons]
    exact ⟨⟨"SENT", by decide, rfl⟩, ⟨"PENDING", by decide, rfl⟩, ⟨"SENT", by decide, rfl⟩, nofun⟩
  obtain ⟨logs, listed⟩ := counts.listable.mpr known
  exact ⟨twoOffers_filed, answer, logs, ran, counts.own, listed, (counts.listed logs _ listed).2.2⟩

/-- Content that is no map fits the table, and there is no list with such a campaign in it. -/
theorem offer_of_texts_hides_list :
    let o := shop [offer "spring" "ana" (.list [.text "Hi", .text "Hello"])] []
    Filed o ∧ (∃ row ∈ (o.table .campaigns).rowsOf "creator" none, row.id = "spring") ∧
      ¬∃ answers after, Task.perform (list none) o = (.ok answers, after) := by
  intro o
  have filed : Filed o := shop_filed (by decide) (by decide)
    (List.forall_mem_singleton.mpr (offer_fits _ (by decide) (by decide))) nofun
  refine ⟨filed, ⟨_, List.mem_singleton.mpr rfl, rfl⟩, ?_⟩
  rintro ⟨answers, after, ran⟩
  obtain ⟨rfl, -⟩ := tells_of_perform_list ran
  have shown := (exists_list_iff filed).mp ⟨answers, ran⟩ _ (List.mem_singleton.mpr rfl)
  obtain ⟨fields, cellEq⟩ := shown.content
  cases cellEq

end Outreach.Campaigns
