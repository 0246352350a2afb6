import Outreach.Form.Requests
import Outreach.Office.Task

/-!
# Segments

A segment is a named rule; its audience is whoever satisfies the rule at the moment. The size that
is stored with a segment is the size of its audience when it was last looked at.
-/

namespace Outreach.Segments

/-- The size of an audience. -/
def sizeOf (audience : List Value) : Value := .int (audience.length : Nat)

/-- The first names of an audience. -/
def sampleOf (audience : List Value) : Task Value := do
  return .list (namesOf (audience.take (← get).sampleSize))

/-- Stores a new segment with the size of its audience, unless its creator has one of that name. The
rules are outlined for the journal before anybody is asked for. -/
def create (segment : Form.NewSegment) : Task Fields := do
  let taken (t : Store.Table) : List Store.Row :=
    (t.rowsWith "name" segment.name).filter fun row =>
      row.textCell? "creator" = some segment.creator
  match ← Task.selectFirst .segments taken with
  | some _ => Task.refuse (.segmentNameTaken segment.name segment.creator)
  | none =>
    let rules := segment.rules.toValue
    let _ ← Task.outline rules
    let audience ← Task.audience rules
    Task.insert .segments [("name", .text segment.name), ("rules", rules),
      ("creator", .text segment.creator), ("audience_size", sizeOf audience)]

/-- A stored segment. -/
def find (id : String) : Task Fields := Task.demand .segments "Segment" id

/-- The stored segments among some identifiers, each under its own. -/
def findMany (ids : List String) : Task (List (String × Fields)) := do
  let found ← Task.select .segments fun t => t.rows.filter fun row => ids.contains row.id
  return found.map fun segment => (textField "id" segment, segment)

/-- Queues new name and rules of a stored segment, and gives the identifier. -/
def change (id : String) (change : Form.SegmentChange) : Task String := do
  let id := textField "id" (← find id)
  Task.queueWrite .segments id
    (.ofFields [("name", .text change.name), ("rules", change.rules.toValue)])
  return id

/-- Size and sample of the audience of rules that are not stored. -/
def preview (request : Form.Preview) : Task Fields := do
  let audience ← Task.audience request.rules.toValue
  return [("audience_size", sizeOf audience), ("audience_names", ← sampleOf audience)]

/-- Segments, newest first, of one creator or of all. -/
def list (creator : Option String) : Task (List Fields) :=
  Task.select .segments fun t => Store.newestFirst "created_at" (t.rowsOf "creator" creator)

/-- A stored segment with size and sample of its audience at the moment. -/
def look (id : String) : Task Value := do
  let segment ← find id
  let audience ← Task.audience (fieldOf "rules" segment)
  let seen ← Task.present Form.View.segmentDetail segment
  return .map (Keyed.putAll seen.fields
    [("audience_size", sizeOf audience), ("audience_names", ← sampleOf audience)])

/-- Deletes a stored segment. -/
def delete (id : String) : Task Unit := do
  Task.delete .segments (textField "id" (← find id))

end Outreach.Segments
