import Outreach.Office.Task

/-!
# Delivering a campaign

Every customer of an audience gets a log and a message, in order: the log is queued first and then
the message is posted under the identifier of the log. What the vendor answers does not matter here.
A refused log, or a customer who cannot be written to, ends the run; what was queued and posted
before stays so.
-/

namespace Outreach.Delivery

/-- The log of a message that is on its way. -/
def pendingLog (time : DateTime) (campaignId : String) (posting : Posting) : Fields :=
  [("id", .text posting.logId), ("campaign_id", .text campaignId),
    ("customer_id", .text posting.customerId), ("message", .text posting.message),
    ("status", .text "PENDING"), ("created_at", .time time)]

/-- The result of looking at a record, or the setback that ends the run. -/
def ofRecord {α : Type} (found : Except RecordFault α) : Task α :=
  match found with
  | .ok value => pure value
  | .error fault => Task.fail (.record fault)

/-- Posts a message; an error of the vendor is swallowed. -/
def post (posting : Posting) : Task Unit :=
  modify fun o => { o with vendor := (o.vendor.send posting).2 }

/-- Queues the log of one customer and posts the message. -/
def deliverOne (campaignId template : String) (customer : Value) : Task String := do
  let logId ← Task.drawId
  let message ← ofRecord (personalize template customer)
  let customerId ← ofRecord (recordId customer)
  let posting : Posting := ⟨logId, customerId, message⟩
  Task.queueWrite .logs logId (.ofFields (pendingLog (← Task.now) campaignId posting))
  post posting
  return logId

/-- Delivers a campaign to customers in order, and gives the identifiers of the logs. -/
def deliverAll (campaignId template : String) : List Value → Task (List String)
  | [] => pure []
  | customer :: rest => do
    let logId ← deliverOne campaignId template customer
    return logId :: (← deliverAll campaignId template rest)

end Outreach.Delivery
