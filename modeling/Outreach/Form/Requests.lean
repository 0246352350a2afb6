import Outreach.Form.Moment
import Outreach.Form.SegmentRule
import Outreach.Store.Tables

/-!
# Requests

What callers may ask for, each with the check that reads it from a value. `toValue` writes a request
the way it is answered: every entry named, in order, with defaults filled in.
-/

namespace Outreach.Form

/-- The values that a choice may have. -/
def valuesOf (members : List (String × String)) : List String := members.map Prod.snd

/-- One of the values of a choice. -/
def choice (members : List (String × String)) : Check String := oneOf (valuesOf members)

/-- A name: at least one character and at most 255. -/
def name : Check String := textBetween 1 (some 255)

/-- A customer to be stored. -/
structure NewCustomer where
  name : String
  email : String
  phone : Option String

namespace NewCustomer

/-- Reads a customer. -/
def check : Check NewCustomer := object fun entries =>
  NewCustomer.mk <$> entries.required "name" Form.name <*> entries.required "email" address
    <*> entries.optional "phone" (textBetween 0 (some 50))

/-- The customer as a value. -/
def toValue (c : NewCustomer) : Value :=
  .map [("name", .text c.name), ("email", .text c.email), ("phone", .ofText? c.phone)]

end NewCustomer

/-- A line of an order. -/
structure OrderItem where
  name : String
  price : Float
  quantity : Int

namespace OrderItem

/-- Reads a line. -/
def check : Check OrderItem := object fun entries =>
  OrderItem.mk <$> entries.required "name" text <*> entries.required "price" numberFromZero
    <*> entries.withDefault "quantity" 1 (wholeFrom 1)

/-- The line as a value. -/
def toValue (i : OrderItem) : Value :=
  .map [("name", .text i.name), ("price", .float i.price), ("quantity", .int i.quantity)]

end OrderItem

/-- An order to be stored. -/
structure NewOrder where
  customerId : String
  amount : Float
  items : List OrderItem
  status : String

namespace NewOrder

/-- Reads an order. -/
def check : Check NewOrder := object fun entries =>
  NewOrder.mk <$> entries.required "customer_id" text <*> entries.required "amount" numberFromZero
    <*> entries.withDefault "items" [] (list OrderItem.check)
    <*> entries.withDefault "status" "pending" (choice Store.orderStatuses)

/-- The lines of the order as a value. -/
def itemsValue (o : NewOrder) : Value := .list (o.items.map OrderItem.toValue)

/-- The order as a value. -/
def toValue (o : NewOrder) : Value :=
  .map [("customer_id", .text o.customerId), ("amount", .float o.amount), ("items", o.itemsValue),
    ("status", .text o.status)]

end NewOrder

/-- A new status of an order. -/
structure StatusChange where
  status : String

namespace StatusChange

/-- Reads a status. -/
def check : Check StatusChange := object fun entries =>
  StatusChange.mk <$> entries.required "status" (choice Store.orderStatuses)

/-- The status as a value. -/
def toValue (c : StatusChange) : Value := .map [("status", .text c.status)]

end StatusChange

/-- A segment to be stored. -/
structure NewSegment where
  name : String
  rules : SegmentRule
  creator : String

namespace NewSegment

/-- Reads a segment. -/
def check : Check NewSegment := object fun entries =>
  NewSegment.mk <$> entries.required "name" Form.name <*> entries.required "rules" segmentRule
    <*> entries.required "creator" Form.name

/-- The segment as a value. -/
def toValue (s : NewSegment) : Value :=
  .map [("name", .text s.name), ("rules", s.rules.toValue), ("creator", .text s.creator)]

end NewSegment

/-- New name and rules of a segment. -/
structure SegmentChange where
  name : String
  rules : SegmentRule

namespace SegmentChange

/-- Reads name and rules. -/
def check : Check SegmentChange := object fun entries =>
  SegmentChange.mk <$> entries.required "name" Form.name <*> entries.required "rules" segmentRule

/-- The change as a value. -/
def toValue (c : SegmentChange) : Value :=
  .map [("name", .text c.name), ("rules", c.rules.toValue)]

end SegmentChange

/-- Rules whose audience is asked for. -/
structure Preview where
  rules : SegmentRule

namespace Preview

/-- Reads the rules of a preview. -/
def check : Check Preview := object fun entries =>
  Preview.mk <$> entries.required "rules" segmentRule

/-- The preview as a value. -/
def toValue (p : Preview) : Value := .map [("rules", p.rules.toValue)]

end Preview

/-- Subject and body of a message; the body is a template. -/
structure Content where
  subject : String
  body : String

namespace Content

/-- Reads subject and body. -/
def check : Check Content := object fun entries =>
  Content.mk <$> entries.required "subject" (textBetween 1 none)
    <*> entries.required "body" (textBetween 1 none)

/-- The content as a value. -/
def toValue (c : Content) : Value := .map [("subject", .text c.subject), ("body", .text c.body)]

end Content

/-- A campaign to be stored or replaced. -/
structure NewCampaign where
  name : String
  description : Option String
  type : String
  segmentId : String
  content : Content
  status : String
  scheduleDate : Option DateTime
  creator : String

namespace NewCampaign

/-- Reads a campaign. -/
def check : Check NewCampaign := object fun entries =>
  NewCampaign.mk <$> entries.required "name" Form.name <*> entries.optional "description" text
    <*> entries.withDefault "type" "email" (choice Store.campaignTypes)
    <*> entries.required "segment_id" text <*> entries.required "content" Content.check
    <*> entries.required "status" (choice Store.campaignStatuses)
    <*> entries.optional "schedule_date" moment <*> entries.required "creator" Form.name

/-- The campaign as a value. -/
def toValue (c : NewCampaign) : Value :=
  .map [("name", .text c.name), ("description", .ofText? c.description), ("type", .text c.type),
    ("segment_id", .text c.segmentId), ("content", c.content.toValue), ("status", .text c.status),
    ("schedule_date", shownTime c.scheduleDate), ("creator", .text c.creator)]

end NewCampaign

/-- What message suggestions are asked for. -/
structure SuggestionRequest where
  objective : String
  segment : Option String

namespace SuggestionRequest

/-- Reads a request for suggestions. -/
def check : Check SuggestionRequest := object fun entries =>
  SuggestionRequest.mk <$> entries.required "campaign_objective" (textBetween 1 none)
    <*> entries.optional "segment_description" (textBetween 1 none)

/-- The request as a value. -/
def toValue (r : SuggestionRequest) : Value :=
  .map [("campaign_objective", .text r.objective), ("segment_description", .ofText? r.segment)]

end SuggestionRequest

/-- The report of the messaging vendor on one message. -/
structure Receipt where
  logId : String
  status : String
  errorMessage : Option String

namespace Receipt

/-- Reads a receipt. -/
def check : Check Receipt := object fun entries =>
  Receipt.mk <$> entries.required "communication_log_id" text
    <*> entries.required "status" (choice Store.deliveryStatuses)
    <*> entries.optional "error_message" text

/-- The receipt as a value. -/
def toValue (r : Receipt) : Value :=
  .map [("communication_log_id", .text r.logId), ("status", .text r.status),
    ("error_message", .ofText? r.errorMessage)]

end Receipt

end Outreach.Form
