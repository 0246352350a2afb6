import Outreach.Calendar.Instant
import Outreach.Text.Characters

/-!
# ISO 8601 texts

`Iso.read?` reads the forms `YYYY`, `YYYY-MM`, `YYYY-MM-DD` and `YYYYMMDD` with an optional time of
day after a `T` or a space. Month and day may have one digit after a separator; the separator is one
of a few marks, twice the same. The time is `HH`, or hour, minute and second either between colons
or in pairs of digits, with up to 18 digits of a fraction, and then a zone: `Z`, or a sign with
hours and optional minutes. Blanks may stand around the text and before the zone. A year that is
missing altogether is the year 0, and a text that starts with a minus sign names a year before it.
-/

namespace Outreach.Iso

/-- A digit at the start of a text. -/
def takeDigit? : List Char → Option (Nat × List Char)
  | [] => none
  | c :: rest => (Text.asciiDigit? c).map (·, rest)

/-- A number of two digits, or of one digit where that is enough. -/
def takePair? (oneIsEnough : Bool) (cs : List Char) : Option (Nat × List Char) := do
  let (first, rest) ← takeDigit? cs
  match takeDigit? rest with
  | some (second, rest) => some (10 * first + second, rest)
  | none => if oneIsEnough then some (first, rest) else none

/-- Keeps a number that is below a limit. -/
def below? (limit : Nat) (taken : Nat × List Char) : Option (Nat × List Char) :=
  if taken.1 < limit then some taken else none

/-- The marks that may separate year, month and day. -/
def separators : List Char := ['-', '.', '/', '\\', ' ']

/-- Reads month and day after a year, up to the time of day. -/
def readDay? (year : Int) : List Char → Option (Stamp × List Char)
  | [] => some (Stamp.mk year 1 1 0 0 0 0 false 0, [])
  | c :: rest =>
    if separators.contains c then do
      let (month, rest) ← takePair? true rest
      match rest with
      | [] => some (Stamp.mk year month 1 0 0 0 0 false 0, [])
      | next :: rest =>
        if next = c then do
          let (day, rest) ← takePair? true rest
          some (Stamp.mk year month day 0 0 0 0 false 0, rest)
        else none
    else do
      let (month, rest) ← takePair? false (c :: rest)
      let (day, rest) ← takePair? false rest
      some (Stamp.mk year month day 0 0 0 0 false 0, rest)

/-- Reads the zone that ends a text, in seconds east of UTC. -/
def readZone? (cs : List Char) : Option Int :=
  match cs.dropWhile Text.isAsciiBlank with
  | [] => some 0
  | sign :: rest =>
    if sign = 'Z' then if rest.all Text.isAsciiBlank then some 0 else none
    else if sign = '+' ∨ sign = '-' then do
      let (hours, rest) ← (takePair? true rest).bind (below? 24)
      let (minutes, rest) ← match rest with
        | [] => some (0, [])
        | ':' :: rest | rest => (takePair? true rest).bind (below? 60)
      let seconds : Int := hours * 3600 + minutes * 60
      if rest.all Text.isAsciiBlank then some (if sign = '-' then -seconds else seconds) else none
    else none

/-- Reads the zone at the end of a text into a stamp. -/
def endWithZone? (stamp : Stamp) (cs : List Char) : Option Stamp :=
  (readZone? cs).map fun offset => { stamp with offset }

/-- Reads a fraction of a second after its point, and the zone. -/
def readFraction? (stamp : Stamp) (cs : List Char) : Option Stamp :=
  let digits := cs.takeWhile fun c => (Text.asciiDigit? c).isSome
  let nine := (digits ++ List.replicate 9 '0').take 9
  let nanos := nine.foldl (fun n c => 10 * n + (Text.asciiDigit? c).getD 0) 0
  if digits.length ≤ 18 then
    endWithZone? { stamp with nanos, fine := digits.length > 6 } (cs.drop digits.length)
  else none

/-- Reads the second, in one digit only after a colon, and what follows it. -/
def readSecond? (colons : Bool) (stamp : Stamp) (cs : List Char) : Option Stamp := do
  let (second, rest) ← (takePair? colons cs).bind (below? 60)
  let stamp := { stamp with second }
  match rest with
  | '.' :: rest => readFraction? stamp rest
  | rest => endWithZone? stamp rest

/-- Reads the minute, in one digit only after a colon, and what follows it. -/
def readMinute? (colons : Bool) (stamp : Stamp) (cs : List Char) : Option Stamp := do
  let (minute, rest) ← (takePair? colons cs).bind (below? 60)
  let stamp := { stamp with minute }
  match colons, rest with
  | true, ':' :: rest => readSecond? true stamp rest
  | true, rest => endWithZone? stamp rest
  | false, rest =>
    if (takeDigit? rest).isSome then readSecond? false stamp rest else endWithZone? stamp rest

/-- Reads the hour and what follows it; an hour of one digit goes on with a colon. -/
def readHour? (stamp : Stamp) (cs : List Char) : Option Stamp := do
  let (first, more) ← takeDigit? cs
  let (hour, rest) ← match takeDigit? more with
    | some (second, rest) => below? 24 (10 * first + second, rest)
    | none => some (first, more)
  let stamp := { stamp with hour }
  match rest with
  | ':' :: rest => readMinute? true stamp rest
  | rest =>
    if rest.length = more.length then none
    else if (takeDigit? rest).isSome then readMinute? false stamp rest
    else endWithZone? stamp rest

/-- A year of four digits, or else the year 0 and nothing taken. -/
def takeYear (cs : List Char) : Nat × List Char := (takeNumber? 4 cs).getD (0, cs)

/-- Reads the date, then the time of day. -/
def readFrom? (year : Int) (cs : List Char) : Option Stamp := do
  let (stamp, rest) ← readDay? year cs
  if Date.isDayIn stamp.year stamp.month stamp.day then
    match rest with
    | [] => some stamp
    | c :: rest => if c = 'T' ∨ c = ' ' then readHour? stamp rest else none
  else none

/-- Reads a whole text in one of the ISO forms. -/
def read? (cs : List Char) : Option Stamp :=
  let before := cs.head? = some '-'
  let start := match cs.dropWhile Text.isAsciiBlank with
    | '-' :: rest => rest
    | rest => rest
  let (year, rest) := takeYear start
  if start.isEmpty then none else readFrom? (if before then -(year : Int) else year) rest

end Outreach.Iso
