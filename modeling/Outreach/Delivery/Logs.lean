import Outreach.Form.Requests
import Outreach.Office.Task

/-!
# Communication logs

A log keeps what became of one message. Receipts of the vendor change it through
the write processor.
-/

namespace Outreach.Delivery

/-- The change that a receipt makes to a log: a message that was sent has a time and no error, one
that failed has an error. -/
def receiptChange (time : DateTime) (receipt : Form.Receipt) : Fields :=
  ("status", .text receipt.status) ::
    (if receipt.status = "SENT" then [("sent_at", .time time), ("error_message", .null)]
     else if receipt.status = "FAILED" then
       let error := (receipt.errorMessage.filter (· ≠ "")).getD "Unknown error"
       [("error_message", .text error)]
     else [])

/-- Queues the change that a receipt makes, and gives the identifier of the log. -/
def recordReceipt (receipt : Form.Receipt) : Task String := do
  let log ← Task.demand .logs "Communication log" receipt.logId
  let id := textField "id" log
  Task.queueWrite .logs id (.ofFields (receiptChange (← Task.now) receipt))
  return id

/-- The logs of a campaign, oldest first. -/
def logsOf (campaignId : String) : Task (List Fields) :=
  Task.select .logs fun t => Store.oldestFirst "created_at" (t.rowsWith "campaign_id" campaignId)

/-- How many messages were sent, failed and are on their way. -/
structure Counts where
  sent : Int
  failed : Int
  pending : Int

namespace Counts

/-- No messages at all. -/
def zero : Counts := ⟨0, 0, 0⟩

/-- The counts of two lots of messages together. -/
def add (a b : Counts) : Counts := ⟨a.sent + b.sent, a.failed + b.failed, a.pending + b.pending⟩

/-- The counts of a single log: one for the state that it is in. -/
def ofRow (row : Store.Row) : Counts := ⟨oneIn "SENT", oneIn "FAILED", oneIn "PENDING"⟩
where
  /-- One if the log is in a state, else zero. -/
  oneIn (state : String) : Int := if row.textCell? "status" = some state then 1 else 0

end Counts

/-- Adds a log to the counts of its campaign, if that is one of those asked for. -/
def countLog (campaignIds : List String) (counts : List (String × Counts)) (row : Store.Row) :
    List (String × Counts) :=
  match row.textCell? "campaign_id" with
  | some id =>
    if campaignIds.contains id then
      Keyed.put id (((Keyed.get? id counts).getD .zero).add (.ofRow row)) counts
    else counts
  | none => counts

/-- The counts of campaigns, found in one pass over the logs. A campaign without
logs has no entry. -/
def countsByCampaign (campaignIds : List String) (t : Store.Table) : List (String × Counts) :=
  t.rows.foldl (countLog campaignIds) []

end Outreach.Delivery
