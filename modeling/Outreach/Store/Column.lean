import Outreach.Value.Add
import Outreach.Value.Literal
import Outreach.Json.Writer
import Outreach.Decimal.Literal
import Outreach.Decimal.Rounded
import Outreach.Decimal.Scaled

/-!
# Columns

A column says which values it takes and in what form it keeps them: texts keep numbers as text,
whole numbers keep doubles that are whole as whole numbers, doubles keep every number as a double,
times keep the wall clock without the zone, and a choice keeps the name of a member. A cell is empty
or holds a value; a structured column can hold a null that is not an empty cell.
-/

namespace Outreach.Store

/-- The kind of a column. -/
inductive ColumnKind where
  | text
  | real
  | whole
  | time
  | structured
  /-- One of several members, each with a name and a value. -/
  | choice (name : String) (members : List (String × String))
  deriving DecidableEq

/-- What an insert puts where it is given nothing. -/
inductive Default where
  | nothing
  | value (v : Value)
  /-- The clock, as the program reads it. -/
  | clock
  /-- The clock of the store, in whole seconds and without a zone. -/
  | storeClock

/-- A column of a table. -/
structure Column where
  name : String
  kind : ColumnKind
  nullable : Bool
  default : Default

/-- A cell is empty or holds a value. -/
abbrev Cell := Option Value

/-- Why a value cannot be put into a column. -/
inductive ColumnFault where
  | notATime
  | notSerializable (kind : Json.Unwritable)
  | notANumberText (text : String)
  | notANumber (kind : String)
  | numberTooLarge
  | notAMember (value : String) (choice : String) (members : List String)
  /-- A whole number is no member, and too long to be named. -/
  | tooManyDigits
  | notComparable (kind : String)
  | unsupported (position : Nat) (kind : String)
  deriving DecidableEq

/-- What the choice faults say. -/
def choiceMessage (value choice : String) (members : List String) : String :=
  s!"'{value}' is not among the defined enum values. Enum name: {choice}. Possible values: " ++
    ", ".intercalate members

/-- What a column fault says. -/
def ColumnFault.message : ColumnFault → String
  | .notATime => "SQLite DateTime type only accepts Python datetime and date objects as input."
  | .notSerializable kind => kind.message
  | .notANumberText text => "could not convert string to float: " ++ Text.quote text
  | .notANumber kind => s!"float() argument must be a string or a real number, not '{kind}'"
  | .numberTooLarge => "int too large to convert to float"
  | .notAMember value choice members => choiceMessage value choice members
  | .tooManyDigits => Value.digitLimitMessage
  | .notComparable kind => s!"unhashable type: '{kind}'"
  | .unsupported position kind =>
    s!"Error binding parameter {position}: type '{kind}' is not supported"

/-- A double as a cell; an undefined number leaves it empty, and zero loses its sign. -/
def cellOfFloat (x : Float) : Cell :=
  if x.isNaN then none else if x == 0.0 then some (.float 0.0) else some (.float x)

/-- The whole number fits a signed word of 64 bits. -/
def fitsWord (i : Int) : Bool := -9223372036854775808 ≤ i && i ≤ 9223372036854775807

/-- Makes a number whole where nothing is lost. -/
def wholeIfExact (x : Float) : Value :=
  let i := Decimal.truncateFloat x
  if Decimal.isWholeFloat x && -9223372036854775808 < i && i < 9223372036854775807 then .int i
  else .float x

/-- A whole number that fits no word is kept as a double. -/
def wordOrDouble (i : Int) : Value :=
  if fitsWord i then .int i else .float (Decimal.scaledSigned (i < 0) i.natAbs 0)

/-- A text that is a number counts as that number. -/
def numberInText (s : String) : Value :=
  let cs := Text.trimBy Text.isAsciiBlank s.toList
  match Decimal.readSigned? cs with
  | some i => wordOrDouble i
  | none =>
    match Decimal.Literal.read? cs with
    | some (.number negative digits exponent) =>
      wholeIfExact (Decimal.scaledSigned negative digits exponent)
    | _ => .text s

/-- What a column keeps of a plain value: null, a truth value, a number, a text or a time. -/
def keepPlain (kind : ColumnKind) : Value → Cell
  | .null => none
  | .bool b => match kind with
    | .text => some (.text (if b then "1" else "0"))
    | _ => some (.int (if b then 1 else 0))
  | .int i => match kind with
    | .text => some (.text (Decimal.writeInt i))
    | _ => some (.int i)
  | .float x =>
    if x.isNaN then none
    else match kind with
      | .text => some (.text (Decimal.writeFifteen x))
      | .whole => some (wholeIfExact x)
      | _ => some (.float x)
  | .text s => match kind with
    | .whole => some (numberInText s)
    | _ => some (.text s)
  | .time t => some (.text (t.isoWith " "))
  | .date d => some (.text d.iso)
  | value => some value

/-- The member of a choice that a value names: by its value, or any text as it is. -/
def memberName (choice : String) (members : List (String × String)) (value : Value) :
    Except ColumnFault Cell :=
  match value with
  | .null => .ok none
  | .text s =>
    match members.find? (·.2 = s) with
    | some (name, _) => .ok (some (.text name))
    | none => .ok (some (.text s))
  | .list _ | .map _ => .error (.notComparable value.kindName)
  | value =>
    if value.isWritable then .error (.notAMember value.display choice (members.map Prod.fst))
    else .error .tooManyDigits

/-- The double that a real column keeps. -/
def keepReal (value : Value) : Except ColumnFault Cell :=
  match value with
  | .null => .ok none
  | .float x => .ok (cellOfFloat x)
  | .text s => match Decimal.readFloat? s with
    | some x => .ok (cellOfFloat x)
    | none => .error (.notANumberText s)
  | value => match value.whole? with
    | some i => match Decimal.floatOfInt? i with
      | some x => .ok (some (.float x))
      | none => .error .numberTooLarge
    | none => .error (.notANumber value.kindName)

/-- What a structured column keeps: a number alone is kept as the number that its text is read as,
so a whole double loses its point. -/
def keepStructured : Value → Value
  | .float x => match Decimal.Literal.read? (Decimal.json.write x).toList with
    | some (.number negative digits exponent) =>
      wholeIfExact (Decimal.scaledSigned negative digits exponent)
    | _ => .float x
  | .int i => wordOrDouble i
  | value => value

/-- Prepares a value for a column. -/
def Column.prepare (column : Column) (value : Value) : Except ColumnFault Cell :=
  match column.kind with
  | .real => keepReal value
  | .time => match value with
    | .null => .ok none
    | .time t => .ok (some (.time t.naive))
    | .date d => .ok (some (.time (.midnight d)))
    | _ => .error .notATime
  | .structured => match Json.write? value with
    | .ok _ => .ok (some (keepStructured value))
    | .error kind => .error (.notSerializable kind)
  | .choice name members => memberName name members value
  | _ => .ok (some value)

/-- A cell that cannot be read: its text names no member of the choice. -/
structure Unreadable where
  value : String
  choice : String
  members : List String
  deriving DecidableEq

/-- What an unreadable cell says. -/
def Unreadable.message (u : Unreadable) : String := choiceMessage u.value u.choice u.members

/-- Reads a cell. -/
def Column.read (column : Column) : Cell → Except Unreadable Value
  | none => .ok .null
  | some value =>
    match column.kind, value with
    | .choice name members, .text s =>
      match members.find? (·.1 = s) with
      | some (_, member) => .ok (.text member)
      | none => .error ⟨s, name, members.map Prod.fst⟩
    | _, value => .ok value

end Outreach.Store
