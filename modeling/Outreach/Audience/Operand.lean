import Outreach.Value.Compare
import Outreach.Value.Literal
import Outreach.Calendar.Reading
import Outreach.Decimal.Literal

/-!
# Operands of a condition

A condition compares a record's value with the value that its rule names. Rules travel as
text and numbers, so the rule's value is first read as the kind of the record's value: as a
number, an instant, a text or a truth value. What cannot be read so makes no operands. The
only faults are numbers too large: beyond the doubles where a number is asked for, beyond the
digit limit where a text is.
-/

namespace Outreach.Audience

/-- Why a condition has no truth value at all. -/
inductive Fault where
  /-- The record is no collection of fields. -/
  | noFields
  /-- A whole number is beyond the largest double. -/
  | numberTooLarge
  /-- A whole number has more digits than may be written out. -/
  | tooManyDigits
  deriving DecidableEq, Repr

/-- Two sides ready to be compared. -/
inductive Operands where
  | values (actual expected : Value)
  | instants (actual expected : Instant)

/-- A double as a number, unless it is undefined. -/
def definedFloat? (x : Float) : Option Value :=
  if Decimal.Quantity.ofFloat x = .undefined then none else some (.float x)

/-- Reads a value as a number: numbers as they are, texts as decimal numbers, nothing else. -/
def readNumber : Value → Except Fault (Option Value)
  | .int i => if (Decimal.floatOfInt? i).isSome then .ok (some (.int i)) else .error .numberTooLarge
  | .float x => .ok (definedFloat? x)
  | .text s => .ok ((Decimal.readFloat? s).bind definedFloat?)
  | _ => .ok none

/-- Reads a value as an instant: numbers as milliseconds, texts as dates. -/
def readInstant? : Value → Option Instant
  | .int ms => Instant.ofMillis? ms
  | .float ms => Instant.ofMillisFloat? ms
  | .text s => Instant.ofText? s
  | .time t => some (Instant.ofDateTime t)
  | .date d => some (Instant.ofDate d)
  | _ => none

/-- Reads a value as a text: a whole double loses its point. -/
def readText : Value → Except Fault (Option String)
  | .int i =>
    if Value.withinDigitLimit i then .ok (some (Decimal.writeInt i)) else .error .tooManyDigits
  | .float x =>
    .ok (some (if Decimal.isWholeFloat x then Decimal.writeInt (Decimal.truncateFloat x)
      else Decimal.plain.write x))
  | .text s => .ok (some s)
  | _ => .ok none

/-- Reads a value as a truth value; the words are taken in any case. -/
def readBool? : Value → Option Bool
  | .bool b => some b
  | .text s =>
    let word := String.ofList ((Text.trimBlanks s).toList.map Char.toLower)
    if word = "true" then some true else if word = "false" then some false else none
  | _ => none

/-- Pairs a value with another that was read, unless that is null. -/
def valuesWith (actual : Value) (expected : Option Value) : Option Operands :=
  expected.bind fun value => if value.isNull then none else some (.values actual value)

/-- Pairs the instants of two values. -/
def instantsOf? (actual expected : Value) : Option Operands := do
  some (.instants (← readInstant? actual) (← readInstant? expected))

/-- Reads the rule's value as the kind of the record's value. -/
def nativeOperands (actual expected : Value) : Except Fault (Option Operands) :=
  match actual with
  | .bool _ => .ok (valuesWith actual ((readBool? expected).map .bool))
  | .int _ | .float _ => do .ok (valuesWith actual (← readNumber expected))
  | .time _ | .date _ => .ok (instantsOf? actual expected)
  | .text _ => do .ok (valuesWith actual ((← readText expected).map .text))
  | _ => .ok (valuesWith actual (some expected))

/-- Applies a comparison to operands. -/
def Operands.satisfy (operands : Operands) (comparison : Comparison) : Bool :=
  match operands with
  | .values actual expected => comparison.holds actual expected
  | .instants actual expected => comparison.holdsBetween actual expected

end Outreach.Audience
