import Outreach.Form.Check
import Outreach.Form.Scalar
import Outreach.Calendar.DateTime
import Outreach.Json.Reader

/-!
# Checking times

A time is written as date and time of day with an optional zone, as a date alone, or as a number
that counts seconds since 1970, or milliseconds when it is large. Truth values are no numbers here.
-/

namespace Outreach.Form

/-- Numbers beyond this size count milliseconds. -/
def secondsLimit : Nat := 20000000000

/-- The span of counted times: the years 1 to 9999. -/
def isCountedSecond (seconds : Int) : Bool := -62135596800 ≤ seconds && seconds ≤ 253402300799

/-- The seconds of the year 0, which has times but no date. -/
def isInYearZero (seconds : Int) : Bool := -62167219200 ≤ seconds && seconds < -62135596800

/-- Microseconds of a whole number of seconds, or of milliseconds if it is large. -/
def microsOfWhole (i : Int) : Int := if i.natAbs > secondsLimit then i * 1000 else i * 1000000

/-- Microseconds of a double: whole seconds, and the fraction above them rounded. -/
def microsOfFloat? (x : Float) : Option Int :=
  let seconds := if x.abs > 20000000000.0 then x / 1000.0 else x
  match Decimal.Quantity.ofFloat seconds.floor with
  | .dyadic m e =>
    let fraction := ((seconds - seconds.floor) * 1000000.0).round
    some (Decimal.Quantity.truncate m e * 1000000 + Decimal.truncateFloat fraction)
  | _ => none

/-- The time of a count in microseconds, if it has a date. -/
def timeOfMicros? (micros : Int) : Option DateTime :=
  if isCountedSecond (micros.fdiv 1000000) then some (DateTime.ofEpochMicros micros (some 0))
  else none

/-- Reads a time of day: hour and minute, second and fraction if given. -/
def readClock? (cs : List Char) : Option (Nat × Nat × Nat × Nat × List Char) := do
  let (hour, rest) ← takeNumber? 2 cs
  let ':' :: rest := rest | none
  let (minute, rest) ← takeNumber? 2 rest
  let (second, micro, rest) ← match rest with
    | ':' :: rest => do
      let (second, rest) ← takeNumber? 2 rest
      match rest with
      | c :: d :: more =>
        if c = '.' ∨ c = ',' then
          if (Text.asciiDigit? d).isSome then
            let (micro, rest) := takeMicros (d :: more)
            some (second, micro, rest)
          else none
        else some (second, 0, c :: d :: more)
      | rest => some (second, 0, rest)
    | rest => some (0, 0, rest)
  if hour < 24 ∧ minute < 60 ∧ second < 60 then some (hour, minute, second, micro, rest) else none

/-- Reads a zone that fills the text. -/
def readZone? : List Char → Option (Option Int)
  | [] => some none
  | ['Z'] | ['z'] => some (some 0)
  | sign :: rest => do
    let negative ← if sign = '-' ∨ sign = '\u2212' then some true
      else if sign = '+' then some false else none
    let (hours, rest) ← takeNumber? 2 rest
    let rest := match rest with
      | ':' :: more => more
      | rest => rest
    let (minutes, rest) ← takeNumber? 2 rest
    if hours < 24 ∧ minutes < 60 ∧ rest.isEmpty then
      let size : Int := hours * 3600 + minutes * 60
      some (some (if negative then -size else size))
    else none

/-- Reads date, time of day and zone. -/
def readDateTime? (cs : List Char) : Option DateTime := do
  let (date, rest) ← Date.readIso? cs
  let separator :: rest := rest | none
  if ['T', 't', ' ', '_'].contains separator then
    let (hour, minute, second, micro, rest) ← readClock? rest
    some ⟨date, hour, minute, second, micro, ← readZone? rest⟩
  else none

/-- Reads a date that fills the text, as its midnight. -/
def readMidnight? (cs : List Char) : Option DateTime :=
  match Date.readIso? cs with
  | some (date, []) => some (.midnight date)
  | _ => none

/-- Reads a count from text, in microseconds: a sign, digits, and perhaps a point with
digits behind it or none. -/
def readCount? (s : String) : Option Int := do
  let (negative, unsigned) := match s.toList with
    | '-' :: rest => (true, rest)
    | '+' :: rest => (false, rest)
    | cs => (false, cs)
  let (digits, rest) := Json.takeDigitRun unsigned
  if digits.isEmpty then none
  else
    match rest with
    | [] =>
      let size : Int := Json.digitsValue digits
      some (microsOfWhole (if negative then -size else size))
    | '.' :: fraction =>
      if fraction.all fun c => (Text.asciiDigit? c).isSome then do
        let size := (← Decimal.Literal.read? unsigned).toFloat
        microsOfFloat? (if negative then -size else size)
      else none
    | _ => none

/-- Reads a text as a time: date and time of day, a date alone, or a count. -/
def readTime? (s : String) : Option DateTime :=
  readDateTime? s.toList <|> readMidnight? s.toList <|> (readCount? s).bind timeOfMicros?

/-- The text would be a time if the year 0, which is like the year 2000, had dates. -/
def isTimeInYearZero (s : String) : Bool :=
  let likewise := match s.toList with
    | '0' :: rest@('0' :: '0' :: '0' :: _) =>
      readDateTime? ('2' :: rest) <|> readMidnight? ('2' :: rest)
    | _ => none
  likewise.isSome ||
    ((readCount? s).map fun micros => isInYearZero (micros.fdiv 1000000)).getD false

/-- The problem of a whole number that counts no time: one that is too large for a double is not
taken for a count at all. -/
def countProblem (i : Int) : ProblemKind :=
  if (Decimal.floatOfInt? i).isSome then .dateTimeParsing else .dateTimeType

/-- A time. -/
def moment : Check DateTime := fun place value =>
  match value with
  | .time t => .valid t
  | .date d => .valid (.midnight d)
  | .text s =>
    if Text.hasLoneSurrogate s then refuse .stringUnicode place value
    else match readTime? s with
      | some t => .valid t
      | none =>
        refuse (if isTimeInYearZero s then .dateTimeParsing else .dateTimeFromDate) place value
  | .int i => match timeOfMicros? (microsOfWhole i) with
    | some t => .valid t
    | none => refuse (countProblem i) place value
  | .float x => match (microsOfFloat? x).bind timeOfMicros? with
    | some t => .valid t
    | none => refuse .dateTimeParsing place value
  | _ => refuse .dateTimeType place value

mutual

/-- A value as it appears in an answer: times and dates are written out. -/
def shown : Value → Value
  | .time t => .text t.isoZulu
  | .date d => .text d.iso
  | .list values => .list (shownItems values)
  | .map fields => .map (shownFields fields)
  | value => value

/-- Items as they appear in an answer. -/
def shownItems : List Value → List Value
  | [] => []
  | value :: rest => shown value :: shownItems rest

/-- Entries as they appear in an answer. -/
def shownFields : List (String × Value) → List (String × Value)
  | [] => []
  | (name, value) :: rest => (name, shown value) :: shownFields rest

end

/-- A time in an answer; none is null. -/
def shownTime (t : Option DateTime) : Value := Value.ofText? (t.map DateTime.isoZulu)

end Outreach.Form
