import Outreach.Calendar.DateTime
import Outreach.Keyed

/-!
# Values

A `Value` is what a field of a record, a rule operand or a stored column holds. Whole
numbers have any size and stay apart from doubles; texts are sequences of code points; times
come with or without a zone.
-/

namespace Outreach

/-- A field value. -/
inductive Value where
  | null
  | bool (b : Bool)
  | int (i : Int)
  | float (x : Float)
  | text (s : String)
  | time (t : DateTime)
  | date (d : Date)
  | list (items : List Value)
  | map (fields : List (String × Value))
  deriving Inhabited

/-- Named values in order: a record, a document, a rule node. -/
abbrev Fields := List (String × Value)

namespace Value

/-- Values that count as nothing where a fallback is asked for: null, false,
zero, and what is empty. -/
def isBlank : Value → Bool
  | .null => true
  | .bool b => !b
  | .int i => i == 0
  | .float x => x == 0.0
  | .text s => s.isEmpty
  | .time _ | .date _ => false
  | .list items => items.isEmpty
  | .map fields => fields.isEmpty

/-- The value is null. -/
def isNull : Value → Bool
  | .null => true
  | _ => false

/-- A named field of a value; null when the value is no map or has no such field. -/
def field (name : String) : Value → Value
  | .map fields => (Keyed.get? name fields).getD .null
  | _ => .null

/-- The text of an optional value. -/
def ofText? : Option String → Value
  | some s => .text s
  | none => .null

/-- The fields of a map; other values have none. -/
def fields : Value → Fields
  | .map fields => fields
  | _ => []

end Value

end Outreach
