import Outreach.Calendar.Date
import Outreach.Text.Characters

/-!
# Times of day on a date

A `DateTime` is a wall-clock reading in microseconds, with the offset of its zone if it names one. A
reading without a zone counts as UTC where an instant is needed. `iso` writes the reading, with a
fraction only when there is one, and `readIso?` reads that form back.
-/

namespace Outreach

/-- A wall-clock reading. -/
structure DateTime where
  date : Date
  hour : Nat
  minute : Nat
  second : Nat
  micro : Nat
  /-- Seconds east of UTC, if the reading names a zone. -/
  offset : Option Int
  deriving DecidableEq, Repr, Inhabited

namespace DateTime

/-- Midnight of a day, without a zone. -/
def midnight (d : Date) : DateTime := ⟨d, 0, 0, 0, 0, none⟩

/-- Seconds of the wall clock since 1970-01-01T00:00:00 on the same clock. -/
def wallSeconds (t : DateTime) : Int :=
  t.date.dayNumber * 86400 + t.hour * 3600 + t.minute * 60 + t.second

/-- Microseconds since 1970-01-01T00:00:00Z. -/
def epochMicros (t : DateTime) : Int :=
  (t.wallSeconds - t.offset.getD 0) * 1000000 + t.micro

/-- The reading of a UTC clock at a number of microseconds since the epoch. -/
def ofEpochMicros (micros : Int) (offset : Option Int) : DateTime :=
  let seconds := micros.fdiv 1000000
  let ofDay := (seconds.fmod 86400).toNat
  ⟨Date.ofDayNumber (seconds.fdiv 86400), ofDay / 3600, ofDay / 60 % 60, ofDay % 60,
    (micros.fmod 1000000).toNat, offset⟩

/-- The same wall clock without its zone. -/
def naive (t : DateTime) : DateTime := { t with offset := none }

/-- The offset as `+HH:MM`, with seconds if it has any. -/
def offsetText (offset : Int) : String :=
  let size := offset.natAbs
  let sign := if offset < 0 then "-" else "+"
  let seconds := if size % 60 = 0 then "" else s!":{Decimal.writePadded 2 (size % 60)}"
  s!"{sign}{Decimal.writePadded 2 (size / 3600)}:{Decimal.writePadded 2 (size / 60 % 60)}{seconds}"

/-- Date and time with a separator between them; the fraction only when it is not zero. -/
def isoWith (separator : String) (t : DateTime) : String :=
  let fraction := if t.micro = 0 then "" else s!".{Decimal.writePadded 6 t.micro}"
  let zone := (t.offset.map offsetText).getD ""
  let hour := Decimal.writePadded 2 t.hour
  let minute := Decimal.writePadded 2 t.minute
  let second := Decimal.writePadded 2 t.second
  s!"{t.date.iso}{separator}{hour}:{minute}:{second}{fraction}{zone}"

/-- The form `YYYY-MM-DDTHH:MM:SS`, with fraction and offset where the reading has them. -/
def iso (t : DateTime) : String := isoWith "T" t

/-- An offset in hours and minutes; seconds are cut off, and none at all is `Z`. -/
def zuluOffset (offset : Int) : String :=
  if offset = 0 then "Z"
  else
    let minutes := offset.natAbs / 60
    let sign := if offset < 0 then "-" else "+"
    s!"{sign}{Decimal.writePadded 2 (minutes / 60)}:{Decimal.writePadded 2 (minutes % 60)}"

/-- The same form with the offset in hours and minutes, where UTC is written `Z`. -/
def isoZulu (t : DateTime) : String := t.naive.iso ++ (t.offset.map zuluOffset).getD ""

/-- Two readings are the same time: both with a zone and equal as instants, or both without. -/
def sameTime (a b : DateTime) : Bool :=
  a.offset.isSome == b.offset.isSome && a.epochMicros == b.epochMicros

end DateTime

/-- Readers of fixed-width digit groups. -/
def takeNumber? (width : Nat) (cs : List Char) : Option (Nat × List Char) := do
  let digits ← (cs.take width).mapM Text.asciiDigit?
  if digits.length = width then some (digits.foldl (fun n d => 10 * n + d) 0, cs.drop width)
  else none

/-- Reads a fraction of a second as microseconds; digits beyond the sixth are cut off. -/
def takeMicros (cs : List Char) : Nat × List Char :=
  let digits := cs.takeWhile fun c => (Text.asciiDigit? c).isSome
  let six := (digits ++ List.replicate 6 '0').take 6
  (six.foldl (fun n c => 10 * n + (Text.asciiDigit? c).getD 0) 0, cs.drop digits.length)

/-- Reads `YYYY-MM-DD`. -/
def Date.readIso? (cs : List Char) : Option (Date × List Char) := do
  let (year, rest) ← takeNumber? 4 cs
  let '-' :: rest := rest | none
  let (month, rest) ← takeNumber? 2 rest
  let '-' :: rest := rest | none
  let (day, rest) ← takeNumber? 2 rest
  let date ← Date.make? year month day
  some (date, rest)

/-- Reads an offset that fills the text: nothing, `Z`, or `+HH:MM`. -/
def DateTime.readOffset? : List Char → Option (Option Int)
  | [] => some none
  | ['Z'] => some (some 0)
  | sign :: rest => do
    let negative ← if sign = '-' then some true else if sign = '+' then some false else none
    let (hours, rest) ← takeNumber? 2 rest
    let ':' :: rest := rest | none
    let (minutes, rest) ← takeNumber? 2 rest
    let seconds ← match rest with
      | [] => some 0
      | ':' :: rest =>
        (takeNumber? 2 rest).bind fun (n, rest) => if rest.isEmpty then some n else none
      | _ => none
    let size : Int := hours * 3600 + minutes * 60 + seconds
    some (some (if negative then -size else size))

/-- Reads the form that `iso` writes. -/
def DateTime.readIso? (s : String) : Option DateTime := do
  let (date, rest) ← Date.readIso? s.toList
  let 'T' :: rest := rest | none
  let (hour, rest) ← takeNumber? 2 rest
  let ':' :: rest := rest | none
  let (minute, rest) ← takeNumber? 2 rest
  let ':' :: rest := rest | none
  let (second, rest) ← takeNumber? 2 rest
  let (micro, rest) := match rest with
    | '.' :: rest => takeMicros rest
    | rest => (0, rest)
  let offset ← DateTime.readOffset? rest
  some ⟨date, hour, minute, second, micro, offset⟩

end Outreach
