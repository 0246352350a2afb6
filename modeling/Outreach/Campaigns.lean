import Outreach.Delivery.Logs
import Outreach.Delivery.Run
import Outreach.Segments

/-!
# Campaigns

A campaign sends a message to the audience of a segment. Creating one announces it, that is, stores
it, finds the audience and queues the size of the audience for campaign and segment, and then
delivers. Looking at a campaign finds the audience again.
-/

namespace Outreach.Campaigns

/-- What a request says about a campaign. -/
def described (campaign : Form.NewCampaign) (segmentId : String) : Fields :=
  [("name", .text campaign.name), ("description", .ofText? campaign.description),
    ("type", .text campaign.type), ("segment_id", .text segmentId),
    ("content", campaign.content.toValue), ("status", .text campaign.status),
    ("schedule_date", (campaign.scheduleDate.map Value.time).getD .null)]

/-- A stored campaign, of one creator or of any. -/
def find (id : String) (creator : Option String) : Task Fields := do
  let campaign ← Task.demand .campaigns "Campaign" id
  if creator.any (· ≠ textField "creator" campaign) then Task.refuse (.notFound "Campaign" id)
  else return campaign

/-- Queues the size of an audience for a campaign and its segment. -/
def queueSize (campaignId segmentId : String) (audience : List Value) : Task Unit := do
  let patch := Writes.Patch.ofFields [("audience_size", Segments.sizeOf audience)]
  Task.queueWrite .campaigns campaignId patch
  Task.queueWrite .segments segmentId patch

/-- A new campaign and its audience. -/
structure Created where
  campaign : Fields
  audience : List Value

/-- Stores a campaign, finds its audience and queues its size. -/
def announce (campaign : Form.NewCampaign) : Task Created := do
  let segment ← Segments.find campaign.segmentId
  let segmentId := textField "id" segment
  let row ← Task.insert .campaigns
    (described campaign segmentId ++ [("creator", .text campaign.creator)])
  let audience ← Task.audience (fieldOf "rules" segment)
  queueSize (textField "id" row) segmentId audience
  return ⟨row, audience⟩

/-- Announces a campaign and delivers it. -/
def create (campaign : Form.NewCampaign) : Task Created := do
  let created ← announce campaign
  let _ ← Delivery.deliverAll (textField "id" created.campaign) campaign.content.body
    created.audience
  return created

/-- A new campaign as it is answered. -/
def Created.shown (created : Created) : Task Value := do
  let seen ← Task.present Form.View.campaign created.campaign
  let campaign := Keyed.put "audience_size" (Segments.sizeOf created.audience) seen.fields
  return .map [("campaign", .map campaign), ("audience_names", .list (namesOf created.audience))]

/-- Queues a full change of a campaign by its creator, and gives the identifier. -/
def change (id : String) (campaign : Form.NewCampaign) : Task String := do
  let segment ← Segments.find campaign.segmentId
  let stored ← find id none
  if textField "creator" stored ≠ campaign.creator then Task.refuse (.notOwner id campaign.creator)
  let id := textField "id" stored
  Task.queueWrite .campaigns id (.ofFields (described campaign (textField "id" segment)))
  return id

/-- A stored campaign with its audience at the moment. Without segment or rules the campaign is
shown as it is stored. -/
def look (id : String) (creator : Option String) : Task Value := do
  let campaign ← find id creator
  let seen ← Task.present Form.View.campaignDetail campaign
  match ← Task.find .segments (textField "segment_id" campaign) with
  | none => return seen
  | some segment =>
    let rules := fieldOf "rules" segment
    if rules.isBlank then return seen
    let audience ← Task.audience rules
    queueSize (textField "id" campaign) (textField "id" segment) audience
    return .map (Keyed.putAll seen.fields
      [("audience_size", Segments.sizeOf audience), ("audience_names", .list (namesOf audience))])

/-- A campaign in a list: with the name and the size of its segment and the counts of its messages,
all zero when there are none. -/
def summary (segments : List (String × Fields)) (counts : List (String × Delivery.Counts))
    (campaign : Fields) : Task Value := do
  let segment := Keyed.get? (textField "segment_id" campaign) segments
  let own := (Keyed.get? (textField "id" campaign) counts).getD .zero
  let seen ← Task.present Form.View.campaignSummary campaign
  return .map (Keyed.putAll seen.fields
    [("segment_name", (segment.map (fieldOf "name")).getD .null),
      ("audience_size", (segment.map (fieldOf "audience_size")).getD (.int 0)),
      ("sent_count", .int own.sent), ("failed_count", .int own.failed),
      ("pending_count", .int own.pending)])

/-- Summaries of campaigns in order. -/
def summaries (segments : List (String × Fields)) (counts : List (String × Delivery.Counts)) :
    List Fields → Task (List Value)
  | [] => pure []
  | campaign :: rest => do
    let shown ← summary segments counts campaign
    return shown :: (← summaries segments counts rest)

/-- Campaigns, newest first, of one creator or of all. Their segments and the counts of their
messages are looked up for all of them at once. -/
def list (creator : Option String) : Task (List Value) := do
  let campaigns ← Task.select .campaigns fun t =>
    Store.newestFirst "created_at" (t.rowsOf "creator" creator)
  let segments ← Segments.findMany (campaigns.map (textField "segment_id"))
  let logs := (← get).table .logs
  summaries segments (Delivery.countsByCampaign (campaigns.map (textField "id")) logs) campaigns

/-- Deletes a stored campaign. -/
def delete (id : String) (creator : Option String) : Task Unit := do
  Task.delete .campaigns (textField "id" (← find id creator))

end Outreach.Campaigns
