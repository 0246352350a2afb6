import Outreach.Calendar.Instant
import Outreach.Calendar.Members
import Outreach.Calendar.Names
import Outreach.Calendar.Token

/-!
# Dates in free form

A date in free form is read token by token into `Notes`: numbers of the date, the time of day, the
half of the day, a day of the week, a zone. What a number means hangs on the token behind it. A
token that means nothing makes the whole text no date. `Notes.stamp?` fills what the text left out:
the year 1, January, the first, midnight, UTC. A day of the week counts only where no day is given.
-/

namespace Outreach.Calendar

/-- What the tokens of a text have said so far. -/
structure Notes where
  members : Members := {}
  hour : Option Nat := none
  minute : Option Nat := none
  second : Option Nat := none
  nanos : Option Nat := none
  /-- The fraction of the second has more than six digits. -/
  fine : Bool := false
  weekday : Option Nat := none
  zoneName : Option String := none
  /-- Seconds east of UTC. -/
  offset : Option Int := none
  /-- The sign of an offset after the name of a zone counts the other way round. -/
  reversed : Bool := false
  deriving Repr

namespace Notes

/-- A second with the digits of its fraction. -/
def withSecond? (n : Notes) (cs : List Char) : Option Notes := do
  let (whole, rest) := cs.span (· ≠ '.')
  let second ← Numeral.readNat? whole
  match rest with
  | [] => some { n with second := some second, nanos := some 0, fine := false }
  | _ :: fraction => do
    let digits ← Numeral.readDigits? fraction
    let nanos := Numeral.ofDigits ((digits ++ List.replicate 9 0).take 9)
    some { n with second := some second, nanos := some nanos, fine := digits.length > 6 }

/-- A minute, whose fraction gives the second. -/
def withMinute (n : Notes) (minute : Numeral) : Notes :=
  { n with
    minute := some minute.whole
    second := if minute.hasFraction then some minute.sixtieths else none }

/-- An hour, whose fraction gives the minute. -/
def withHour (n : Notes) (hour : Numeral) : Notes :=
  { n with
    hour := some hour.whole
    minute := if hour.hasFraction then some hour.sixtieths else n.minute }

/-- A number with its unit. -/
def withUnit? (n : Notes) (token : String) (number : Numeral) : Nat → Option Notes
  | 0 => some (n.withHour number)
  | 1 => some (n.withMinute number)
  | 2 => n.withSecond? token.toList
  | _ => some n

/-- The hour that a half of the day makes of an hour of the clock face. -/
def hourInHalf (hour : Nat) (afternoon : Bool) : Nat :=
  if afternoon then if hour < 12 then hour + 12 else hour
  else if hour = 12 then 0 else hour

/-- A mark for the half of the day after the hour, which is at most twelve. -/
def withHalf? (n : Notes) (afternoon : Bool) : Option Notes := do
  let hour ← n.hour
  if hour ≤ 12 then some { n with hour := some (hourInHalf hour afternoon) } else none

/-- Adds digits to the date. -/
def addDigits? (n : Notes) (token : String) : Option Notes := do
  some { n with members := ← n.members.addDigits? token.toList }

/-- Adds the name or the digits of a month to the date. -/
def addMonthOrDigits? (n : Notes) (token : String) : Option Notes :=
  match monthOf? token with
  | some month => do some { n with members := ← n.members.addMonth? month }
  | none => n.addDigits? token

/-- The unit that belongs to a number, and how many of the following tokens it takes: the unit
behind the number, also after a blank, or the one next to the unit in front of it. -/
def unitNear? (past : List String) : List String → Option (Nat × Nat)
  | rest =>
    match rest with
    | [] => before past true
    | next :: more =>
      match unitOf? next, more.head?.bind unitOf? with
      | some unit, _ => some (unit, 1)
      | none, some unit => if next = " " then some (unit, 2) else before past false
      | none, none => before past false
where
  /-- The unit in front of a number; a blank may stand between them at the end of a text. -/
  before (past : List String) (last : Bool) : Option (Nat × Nat) :=
    match past.head?.bind unitOf? with
    | some unit => some (unit + 1, 0)
    | none =>
      match past with
      | blank :: word :: _ =>
        if last ∧ blank = " " then (unitOf? word).map fun unit => (unit + 1, 0) else none
      | _ => none

/-- A number before a dash, slash or point: it belongs to the date, as do the number or month behind
the mark and the one behind a second mark of the kind. -/
def dateGroup? (n : Notes) (token mark : String) (rest : List String) : Option (Notes × Nat) := do
  let n ← n.addDigits? token
  match rest with
  | [] => some (n, 1)
  | second :: more =>
    if isFiller second then some (n, 1)
    else
      let n ← if (Numeral.readDigits? second.toList).isSome then n.addDigits? second
        else do some { n with members := ← n.members.addMonth? (← monthOf? second) }
      match more with
      | next :: more =>
        if next = mark then do
          let third ← more.head?
          some (← n.addMonthOrDigits? third, 4)
        else some (n, 2)
      | [] => some (n, 2)

/-- The hour, or hour and minute in four digits, behind a complete date. -/
def bareTime? (n : Notes) (cs : List Char) : Option Notes := do
  let hour ← Numeral.readNat? (cs.take 2)
  if cs.length = 4 then
    some { n with hour := some hour, minute := some (← Numeral.readNat? (cs.drop 2)) }
  else some { n with hour := some hour }

/-- Six digits: a date in pairs, or behind other numbers the time of day. -/
def sixDigits? (n : Notes) (cs : List Char) : Option Notes :=
  if n.members.numbers.isEmpty ∧ !cs.contains '.' then do
    let m ← n.members.addDigits? (cs.take 2)
    let m ← m.addDigits? ((cs.drop 2).take 2)
    some { n with members := ← m.addDigits? (cs.drop 4) }
  else do
    let hour ← Numeral.readNat? (cs.take 2)
    let minute ← Numeral.readNat? ((cs.drop 2).take 2)
    { n with hour := some hour, minute := some minute }.withSecond? (cs.drop 4)

/-- Eight, twelve or fourteen digits: a date with its year in front, and perhaps the time of day. -/
def longDigits? (n : Notes) (cs : List Char) : Option Notes := do
  let m ← n.members.addDigits? (cs.take 4)
  let m ← m.addDigits? ((cs.drop 4).take 2)
  let n := { n with members := ← m.addDigits? ((cs.drop 6).take 2) }
  if cs.length = 8 then some n
  else
    let hour ← Numeral.readNat? ((cs.drop 8).take 2)
    let minute ← Numeral.readNat? ((cs.drop 10).take 2)
    let n := { n with hour := some hour, minute := some minute }
    if cs.length = 12 then some n
    else some { n with second := some (← Numeral.readNat? (cs.drop 12)) }

/-- Hour and minute around a colon, and the second behind another one. -/
def clockTime? (n : Notes) (hour : Numeral) (rest : List String) : Option (Notes × Nat) := do
  let minute ← Numeral.read? (← rest.head?)
  let n := { n with hour := some hour.whole }.withMinute minute
  match rest.drop 1 with
  | ":" :: second :: _ => some (← n.withSecond? second.toList, 4)
  | _ => some (n, 2)

/-- Adds a number to the date. -/
def addNumeral? (n : Notes) (number : Numeral) : Option Notes := do
  some { n with members := ← n.members.addNumeral? number }

/-- Reads a number; the tokens behind it decide what it is, and how many of them belong to it. -/
def readNumber? (n : Notes) (past : List String) (token : String) (number : Numeral)
    (rest : List String) : Option (Notes × Nat) :=
  let cs := token.toList
  let next := rest.head?
  let bare := n.members.numbers.length = 3 ∧ (cs.length = 2 ∨ cs.length = 4) ∧ n.hour.isNone ∧
    next ≠ some ":" ∧ (next.bind unitOf?).isNone
  if bare then (n.bareTime? cs).map (·, 0)
  else if cs.length = 6 ∨ (cs.length > 6 ∧ cs.idxOf '.' = 6) then (n.sixDigits? cs).map (·, 0)
  else if [8, 12, 14].contains cs.length then (n.longDigits? cs).map (·, 0)
  else
    match unitNear? past rest with
    | some (unit, taken) => (n.withUnit? token number unit).map (·, taken)
    | none =>
      match next with
      | none => (n.addNumeral? number).map (·, 0)
      | some mark =>
        let more := rest.drop 1
        if mark = ":" ∧ !more.isEmpty then n.clockTime? number more
        else if ["-", "/", "."].contains mark then n.dateGroup? token mark more
        else if isFiller mark then
          match more.head?.bind isAfternoon? with
          | some afternoon => some ({ n with hour := some (hourInHalf number.whole afternoon) }, 2)
          | none => (n.addNumeral? number).map (·, 1)
        else
          match isAfternoon? mark with
          | some afternoon =>
            if number.whole < 24 then
              some ({ n with hour := some (hourInHalf number.whole afternoon) }, 1)
            else if n.members.mayBeDay number then (n.addNumeral? number).map (·, 0)
            else none
          | none => if n.members.mayBeDay number then (n.addNumeral? number).map (·, 0) else none

/-- Reads the name of a month, with day and year behind dashes or slashes, or a year behind "of". -/
def readMonth? (n : Notes) (month : Nat) (rest : List String) : Option (Notes × Nat) := do
  let n := { n with members := ← n.members.addMonth? month }
  match rest with
  | [] => some (n, 0)
  | mark :: more =>
    if mark = "-" ∨ mark = "/" then do
      let n ← n.addDigits? (← more.head?)
      match more.drop 1 with
      | next :: more =>
        if next = mark then some (← n.addDigits? (← more.head?), 4) else some (n, 2)
      | [] => some (n, 2)
    else
      match rest with
      | " " :: word :: " " :: year :: _ =>
        if lower word = "of" then
          match Numeral.readNat? year.toList with
          | some year => do some ({ n with members := ← n.members.addYear? (nearYear year) }, 4)
          | none => some (n, 4)
        else some (n, 0)
      | _ => some (n, 0)

/-- The word may name the zone: after the hour, and with no zone so far. -/
def mayTakeZone (n : Notes) (word : String) : Bool :=
  n.hour.isSome && n.zoneName.isNone && mayNameZone word

/-- The name of a zone; with an offset behind it, the name of the zero zone says nothing. -/
def withZoneName (n : Notes) (name : String) (signed : Bool) : Notes :=
  { n with
    zoneName := if signed && isZeroZone name then none else some name
    offset := if !signed && name = "z" then some 0 else none
    reversed := signed }

/-- Hours and minutes of an offset, and the tokens that they take. -/
def offsetSize? (digits : String) (rest : List String) : Option (Nat × Nat) :=
  let cs := digits.toList
  if cs.length = 4 then do
    some (3600 * (← Numeral.readNat? (cs.take 2)) + 60 * (← Numeral.readNat? (cs.drop 2)), 1)
  else
    match rest with
    | ":" :: more => do
      let minutes ← Numeral.readNat? (← more.head?).toList
      some (3600 * (← Numeral.readNat? cs) + 60 * minutes, 3)
    | _ => if cs.length ≤ 2 then do some (3600 * (← Numeral.readNat? cs), 1) else none

/-- The name of a zone in brackets. -/
def bracketedZone? (n : Notes) : List String → Option String
  | filler :: "(" :: name :: ")" :: _ =>
    if isFiller filler ∧ name.length ≥ 3 ∧ n.mayTakeZone name then some name else none
  | _ => none

/-- Reads the offset behind its sign. -/
def readOffset? (n : Notes) (sign : String) (rest : List String) : Option (Notes × Nat) := do
  let (size, taken) ← offsetSize? (← rest.head?) (rest.drop 1)
  let east := (sign == "+") != n.reversed
  let n :=
    { n with offset := some (if east then (size : Int) else -(size : Int)), reversed := false }
  match n.bracketedZone? (rest.drop taken) with
  | some name => some ({ n with zoneName := some name }, taken + 4)
  | none => some (n, taken)

/-- Reads a token that is no number. -/
def readWord? (n : Notes) (token : String) (rest : List String) : Option (Notes × Nat) :=
  match weekdayOf? token, monthOf? token, isAfternoon? token with
  | some day, _, _ => some ({ n with weekday := some day }, 0)
  | none, some month, _ => n.readMonth? month rest
  | none, none, some afternoon => (n.withHalf? afternoon).map (·, 0)
  | none, none, none =>
    if n.offset.isNone ∧ n.mayTakeZone token then
      some (n.withZoneName token (rest.head? = some "+" ∨ rest.head? = some "-"), 0)
    else if n.hour.isSome ∧ (token = "+" ∨ token = "-") then n.readOffset? token rest
    else if isFiller token then some (n, 0)
    else none

/-- Reads one token and says how many of the following ones belong to it. -/
def readToken? (n : Notes) (past : List String) (token : String) (rest : List String) :
    Option (Notes × Nat) :=
  match Numeral.read? token with
  | some number => n.readNumber? past token number rest
  | none => if isNoNumber token then none else n.readWord? token rest

/-- Reads all tokens; `past` holds those that were read, the last one first. -/
def ofTokens? (n : Notes) (past : List String) : List String → Option Notes
  | [] => some n
  | token :: rest => do
    let (n, taken) ← n.readToken? past token rest
    ofTokens? n ((rest.take taken).reverse ++ token :: past) (rest.drop taken)
termination_by tokens => tokens.length
decreasing_by
  simp only [List.length_drop, List.length_cons]
  omega

/-- The notes of a text. -/
def ofText? (s : String) : Option Notes := ofTokens? {} [] (tokens s)

/-- The date said something at all. -/
def saysSomething (n : Notes) (date : Members.Resolved) : Bool :=
  date.year.isSome || date.month.isSome || date.day.isSome || n.hour.isSome || n.minute.isSome ||
    n.second.isSome || n.nanos.isSome

/-- Year, month and day; a year of two digits is near to the present. -/
def date? (n : Notes) : Option Members.Resolved := do
  let date ← n.members.resolve?
  some { date with
    year := date.year.map fun year => if n.members.fullYear then year else nearYear year }

/-- The offset of the zone; an unknown name of a zone is refused or else counts as UTC. -/
def zone? (n : Notes) (lenient : Bool) : Option Int :=
  match n.zoneName with
  | none => some (n.offset.getD 0)
  | some name =>
    if isZeroZone name then some 0
    else match n.offset with
      | some offset => some offset
      | none => if lenient then some 0 else none

/-- The first day from a given one on that is that day of the week. -/
def onWeekday (stamp : Stamp) (weekday : Nat) : Stamp :=
  let today := Date.dayNumberIn stamp.year stamp.month stamp.day
  let date := Date.ofDayNumber (today + (weekday - (today + 3)).fmod 7)
  { stamp with year := date.year, month := date.month, day := date.day }

/-- The stamp that the notes make, if it is one. A lenient reading ignores unknown names of zones
and digits of the second beyond microseconds. -/
def stamp? (n : Notes) (lenient : Bool) : Option Stamp := do
  let date ← n.date?
  let offset ← n.zone? lenient
  let stamp : Stamp := {
    year := date.year.getD 1, month := date.month.getD 1, day := date.day.getD 1
    hour := n.hour.getD 0, minute := n.minute.getD 0, second := n.second.getD 0
    nanos := if lenient then n.nanos.getD 0 / 1000 * 1000 else n.nanos.getD 0
    fine := n.fine && !lenient, offset }
  if !n.saysSomething date ∨ !stamp.isValid ∨ stamp.year < 1 ∨ stamp.year > 9999 then none
  else
    match n.weekday, date.day with
    | some weekday, none => some (onWeekday stamp weekday)
    | _, _ => some stamp

end Notes

end Outreach.Calendar
