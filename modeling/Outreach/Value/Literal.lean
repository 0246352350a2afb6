import Outreach.Value.Basic
import Outreach.Text.Quoted

/-!
# Written form of values

`literal` writes a value so that its kind can be told from the text: texts are quoted, times and
dates name their parts. `display` writes texts as they are and times in ISO form; it is what names,
identifiers and messages show.
-/

namespace Outreach.Value

/-- The zone of a time: UTC by name, any other as days and seconds from it. -/
def zoneLiteral (offset : Int) : String :=
  if offset = 0 then "datetime.timezone.utc"
  else if offset > 0 then s!"datetime.timezone(datetime.timedelta(seconds={offset}))"
  else s!"datetime.timezone(datetime.timedelta(days=-1, seconds={offset + 86400}))"

/-- A time by its parts; seconds and microseconds are left out from the end when they are zero. -/
def timeLiteral (t : DateTime) : String :=
  let parts := [t.date.year, t.date.month, t.date.day, t.hour, t.minute] ++
    (if t.micro ≠ 0 then [t.second, t.micro] else if t.second ≠ 0 then [t.second] else [])
  let written := ", ".intercalate (parts.map fun part => Decimal.writeInt (part : Nat))
  let zone := match t.offset with
    | some offset => s!", tzinfo={zoneLiteral offset}"
    | none => ""
  s!"datetime.datetime({written}{zone})"

/-- A date by its parts. -/
def dateLiteral (d : Date) : String := s!"datetime.date({d.year}, {d.month}, {d.day})"

mutual

/-- The literal of a value. -/
def literal : Value → String
  | .null => "None"
  | .bool b => if b then "True" else "False"
  | .int i => Decimal.writeInt i
  | .float x => Decimal.plain.write x
  | .text s => Text.quote s
  | .time t => timeLiteral t
  | .date d => dateLiteral d
  | .list items => "[" ++ ", ".intercalate (literalItems items) ++ "]"
  | .map fields => "\x7b" ++ ", ".intercalate (literalFields fields) ++ "\x7d"

/-- The literals of list items. -/
def literalItems : List Value → List String
  | [] => []
  | item :: rest => literal item :: literalItems rest

/-- The literals of map entries. -/
def literalFields : List (String × Value) → List String
  | [] => []
  | (name, value) :: rest => (Text.quote name ++ ": " ++ literal value) :: literalFields rest

end

/-- A value as shown in running text. -/
def display : Value → String
  | .text s => s
  | .time t => t.isoWith " "
  | .date d => d.iso
  | value => value.literal

/-- The most digits that a whole number may have to be written out. -/
def digitLimit : Nat := 4300

/-- The whole number is short enough to be written out. -/
def withinDigitLimit (i : Int) : Bool := i.natAbs < 10 ^ digitLimit

/-- What is said of a whole number that is too long to be written out. -/
def digitLimitMessage : String :=
  s!"Exceeds the limit ({digitLimit} digits) for integer string conversion; " ++
    "use sys.set_int_max_str_digits() to increase the limit"

mutual

/-- Every whole number in the value can be written out. -/
def isWritable : Value → Bool
  | .int i => withinDigitLimit i
  | .list items => areWritable items
  | .map fields => areFieldsWritable fields
  | _ => true

/-- Every item can be written out. -/
def areWritable : List Value → Bool
  | [] => true
  | item :: rest => isWritable item && areWritable rest

/-- Every entry can be written out. -/
def areFieldsWritable : List (String × Value) → Bool
  | [] => true
  | (_, value) :: rest => isWritable value && areFieldsWritable rest

end

end Outreach.Value
