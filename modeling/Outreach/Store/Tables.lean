import Outreach.Store.Table

/-!
# The tables of the program

Customers, orders, segments, campaigns and communication logs. A customer's email is unique, and so
is the name of a segment for its creator.
-/

namespace Outreach.Store

/-- A required text. -/
def textColumn (name : String) : Column := ⟨name, .text, false, .nothing⟩

/-- A text that may be missing. -/
def optionalText (name : String) : Column := ⟨name, .text, true, .nothing⟩

/-- A count that starts at zero. -/
def countColumn (name : String) : Column := ⟨name, .whole, false, .value (.int 0)⟩

/-- A time that may be missing. -/
def optionalTime (name : String) : Column := ⟨name, .time, true, .nothing⟩

/-- The times at which a row was made and last changed. -/
def stampColumns : List Column :=
  [⟨"created_at", .time, false, .storeClock⟩, ⟨stampColumn, .time, false, .storeClock⟩]

/-- The states of an order, by name and value. -/
def orderStatuses : List (String × String) :=
  [("PENDING", "pending"), ("SENT", "sent"), ("CANCELLED", "cancelled"), ("COMPLETED", "completed")]

/-- The channels of a campaign. -/
def campaignTypes : List (String × String) := [("EMAIL", "email"), ("SMS", "sms"), ("PUSH", "push")]

/-- The states of a campaign. -/
def campaignStatuses : List (String × String) :=
  [("DRAFT", "draft"), ("SCHEDULED", "scheduled"), ("SENDING", "sending"),
    ("COMPLETED", "completed")]

/-- The states of a message. -/
def deliveryStatuses : List (String × String) :=
  [("PENDING", "PENDING"), ("SENT", "SENT"), ("FAILED", "FAILED")]

/-- The table of customers. -/
def customerSchema : TableSchema :=
  ⟨"customers",
    [textColumn "name", textColumn "email", optionalText "phone",
      ⟨"total_spend", .real, false, .value (.int 0)⟩, countColumn "visits",
      ⟨"last_active", .time, false, .clock⟩] ++ stampColumns,
    [["email"]]⟩

/-- The table of orders. -/
def orderSchema : TableSchema :=
  ⟨"orders",
    [textColumn "customer_id", ⟨"amount", .real, false, .nothing⟩,
      ⟨"items", .structured, false, .value (.list [])⟩,
      ⟨"status", .choice "order_status_enum" orderStatuses, false, .value (.text "pending")⟩,
      ⟨"order_date", .time, false, .clock⟩] ++ stampColumns,
    []⟩

/-- The table of segments. -/
def segmentSchema : TableSchema :=
  ⟨"segments",
    [textColumn "name", ⟨"rules", .structured, false, .nothing⟩, textColumn "creator",
      countColumn "audience_size"] ++ stampColumns,
    [["name", "creator"]]⟩

/-- The table of campaigns. -/
def campaignSchema : TableSchema :=
  ⟨"campaigns",
    [textColumn "name", optionalText "description",
      ⟨"type", .choice "campaign_type_enum" campaignTypes, false, .value (.text "email")⟩,
      textColumn "segment_id", ⟨"content", .structured, false, .nothing⟩,
      optionalText "send_test_to",
      textColumn "creator", countColumn "audience_size", countColumn "sent", countColumn "failed",
      ⟨"status", .choice "campaign_status_enum" campaignStatuses, false, .value (.text "draft")⟩,
      optionalTime "schedule_date", optionalTime "completed_at"] ++ stampColumns,
    []⟩

/-- The table of communication logs. -/
def logSchema : TableSchema :=
  ⟨"communication_logs",
    [textColumn "campaign_id", textColumn "customer_id", textColumn "message",
      ⟨"status", .choice "delivery_status_enum" deliveryStatuses, false, .value (.text "PENDING")⟩,
      optionalText "error_message", optionalTime "sent_at"] ++ stampColumns,
    []⟩

end Outreach.Store
