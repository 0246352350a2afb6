import Outreach.Form.Moment
import Outreach.Store.Tables

/-!
# Views

A view says what an answer shows of an object: its entries by name, in order, how each is read, and
what stands for one that is missing. Reading a value through a view gives the object as the answer
shows it, with times written out.
-/

namespace Outreach.Form

/-- One entry of a view. -/
structure ViewEntry where
  name : String
  form : Check Value
  fallback : Option Value

/-- The entries that an answer shows. -/
abbrev View := List ViewEntry

/-- Reads the entries of a view. -/
def viewEntries (entries : Entries) : View → Checked Fields
  | [] => .valid []
  | entry :: rest =>
    let shownValue := match entry.fallback with
      | some value => entries.withDefault entry.name value entry.form
      | none => entries.required entry.name entry.form
    (fun value more => (entry.name, value) :: more) <$> shownValue <*> viewEntries entries rest

/-- Reads an object through a view. -/
def View.check (view : View) : Check Value :=
  object fun entries => Value.map <$> viewEntries entries view

/-- Reads anything with named parts through a view. -/
def View.checkParts (view : View) : Check Value := fun place value =>
  View.check view { place with attributes := true } value

/-- Makes the outcome of a check a value. -/
def asValue {α : Type} (write : α → Value) (check : Check α) : Check Value := fun place value =>
  write <$> check place value

/-- A text. -/
def textForm : Check Value := asValue .text text

/-- A text or null. -/
def textOrNull : Check Value := asValue Value.ofText? (orNull text)

/-- A whole number. -/
def wholeForm : Check Value := asValue .int whole

/-- A double. -/
def numberForm : Check Value := asValue .float number

/-- A time or null. -/
def timeOrNull : Check Value := asValue shownTime (orNull moment)

/-- A map with times written out. -/
def mapForm : Check Value := asValue (fun fields => shown (.map fields)) mapping

/-- A choice. -/
def choiceForm (members : List (String × String)) : Check Value :=
  asValue .text (oneOf (members.map Prod.snd))

/-- A list of forms. -/
def listForm (form : Check Value) : Check Value := asValue .list (list form)

/-- An entry that must be there. -/
def needed (name : String) (form : Check Value) : ViewEntry := ⟨name, form, none⟩

/-- An entry that is null when it is missing. -/
def orMissing (name : String) (form : Check Value) : ViewEntry := ⟨name, form, some .null⟩

/-- A count that is zero when it is missing. -/
def count (name : String) : ViewEntry := ⟨name, wholeForm, some (.int 0)⟩

/-- Names, none when they are missing. -/
def names (name : String) : ViewEntry := ⟨name, listForm textForm, some (.list [])⟩

namespace View

/-- When a row was made and changed. -/
def stamps : View := [orMissing "created_at" timeOrNull, orMissing "updated_at" timeOrNull]

/-- Identifier and name. -/
def named : View := [needed "id" textForm, needed "name" textForm]

/-- A customer. -/
def customer : View :=
  named ++ [needed "email" textForm, orMissing "phone" textOrNull,
    ⟨"total_spend", numberForm, some (.float 0.0)⟩, count "visits",
    orMissing "last_active" timeOrNull, orMissing "created_at" timeOrNull]

/-- A segment that a customer belongs to. -/
def customerSegment : View := named ++ [needed "rules" mapForm] ++ stamps

/-- An order. -/
def order : View :=
  [needed "id" textForm, needed "customer_id" textForm, needed "amount" numberForm,
    ⟨"items", listForm mapForm, some (.list [])⟩, needed "status" (choiceForm Store.orderStatuses),
    orMissing "order_date" timeOrNull, orMissing "created_at" timeOrNull]

/-- The customer of an order. -/
def orderCustomer : View :=
  named ++ [needed "email" textForm, orMissing "phone" textOrNull]

/-- An order with its customer. -/
def orderDetail : View :=
  order ++ [orMissing "customer" (asValue (·.getD .null) (orNull orderCustomer.checkParts))]

/-- The size of an audience and some of its names. -/
def preview : View := [needed "audience_size" wholeForm, names "audience_names"]

/-- A segment. -/
def segment : View :=
  named ++ [needed "rules" mapForm, needed "creator" textForm, count "audience_size"] ++ stamps

/-- A segment with names from its audience. -/
def segmentDetail : View := segment ++ [names "audience_names"]

/-- A campaign. -/
def campaign : View :=
  named ++ [orMissing "description" textOrNull, needed "type" (choiceForm Store.campaignTypes),
    needed "segment_id" textForm, needed "content" mapForm, needed "creator" textForm,
    count "audience_size", count "sent", count "failed",
    needed "status" (choiceForm Store.campaignStatuses), orMissing "schedule_date" timeOrNull,
    orMissing "completed_at" timeOrNull] ++ stamps

/-- A campaign with the counts of its messages. -/
def campaignSummary : View :=
  campaign ++ [orMissing "segment_name" textOrNull, count "sent_count", count "failed_count",
    count "pending_count"]

/-- A new campaign with the names of its audience. -/
def campaignCreated : View := [needed "campaign" campaign.checkParts, names "audience_names"]

/-- A campaign with the names of its audience. -/
def campaignDetail : View := campaign ++ [names "audience_names"]

/-- A suggested message. -/
def suggestion : View := [needed "subject" textForm, needed "body" textForm]

/-- Suggested messages. -/
def suggestions : View :=
  [⟨"success", asValue .bool truth, some (.bool true)⟩,
    needed "suggestions" (listForm suggestion.check)]

/-- A message to a customer. -/
def log : View :=
  [needed "id" textForm, needed "campaign_id" textForm, needed "customer_id" textForm,
    needed "message" textForm, needed "status" (choiceForm Store.deliveryStatuses),
    orMissing "error_message" textOrNull, orMissing "sent_at" timeOrNull]

/-- A write that was accepted for batch processing. -/
def accepted : View := [needed "message" textForm, needed "id" textForm]

end View

end Outreach.Form
