import Outreach.Decimal.Notation

/-!
# Dates

Dates of the Gregorian calendar, years 1 to 9999, and their day numbers counted from 1970-01-01. The
calendar repeats every 400 years, so `dayNumberIn` numbers the days of years before the year 1 too.
-/

namespace Outreach

/-- A day of the calendar. -/
structure Date where
  year : Nat
  month : Nat
  day : Nat
  deriving DecidableEq, Repr, Inhabited

namespace Date

/-- Every fourth year is a leap year, but of the full hundreds only every fourth. -/
def isLeap (year : Nat) : Bool := year % 4 == 0 && (year % 100 != 0 || year % 400 == 0)

/-- The number of days of a month. -/
def daysInMonth (year month : Nat) : Nat :=
  match month with
  | 2 => if isLeap year then 29 else 28
  | 4 | 6 | 9 | 11 => 30
  | _ => 31

/-- The day exists, in a year from 1 to 9999. -/
def isValid (d : Date) : Bool :=
  1 ≤ d.year && d.year ≤ 9999 && 1 ≤ d.month && d.month ≤ 12 && 1 ≤ d.day &&
    d.day ≤ daysInMonth d.year d.month

/-- Reads year, month and day, if there is such a day. -/
def make? (year month day : Nat) : Option Date :=
  let d : Date := ⟨year, month, day⟩
  if d.isValid then some d else none

/-- Days of the years before a year, counted from the year 1. -/
def daysBeforeYear (year : Nat) : Nat :=
  let y := year - 1
  365 * y + y / 4 - y / 100 + y / 400

/-- Days of the months before a month of a year. -/
def daysBeforeMonth (year month : Nat) : Nat :=
  ((List.range month).drop 1).foldl (fun days m => days + daysInMonth year m) 0

/-- The day number; 1970-01-01 is day 0. -/
def dayNumber (d : Date) : Int :=
  (daysBeforeYear d.year + daysBeforeMonth d.year d.month + d.day : Int) - 719163

/-- Years and days of one round of the calendar. -/
def yearsPerRound : Int := 400

/-- The days of 400 years. -/
def daysPerRound : Int := 146097

/-- The year of the second round, 400 to 799, that has the same days as a year. -/
def likeYear (year : Int) : Nat := (year.fmod yearsPerRound + yearsPerRound).toNat

/-- The day number of a day in any year, also in the year 0 and before it. -/
def dayNumberIn (year : Int) (month day : Nat) : Int :=
  dayNumber ⟨likeYear year, month, day⟩ + (year.fdiv yearsPerRound - 1) * daysPerRound

/-- The month has such a day in that year. -/
def isDayIn (year : Int) (month day : Nat) : Bool :=
  1 ≤ month && month ≤ 12 && 1 ≤ day && day ≤ daysInMonth (likeYear year) month

/-- The day of the week, counted from Monday as 0. -/
def weekday (d : Date) : Nat := ((d.dayNumber + 3).fmod 7).toNat

/-- Finds the month of a day of the year, starting the count at the given month. -/
def monthOfDay (year : Nat) : Nat → Nat → Nat → Nat × Nat
  | 0, month, day => (month, day)
  | tries + 1, month, day =>
    if day ≤ daysInMonth year month then (month, day)
    else monthOfDay year tries (month + 1) (day - daysInMonth year month)

/-- The date of a day number, for days from year 1 on. -/
def ofDayNumber (n : Int) : Date :=
  let days := (n + 719162).toNat
  let cycles := days / 146097
  let rest := days % 146097
  let centuries := min (rest / 36524) 3
  let rest := rest - centuries * 36524
  let quads := rest / 1461
  let rest := rest % 1461
  let years := min (rest / 365) 3
  let year := 400 * cycles + 100 * centuries + 4 * quads + years + 1
  let (month, day) := monthOfDay year 11 1 (rest - years * 365 + 1)
  ⟨year, month, day⟩

/-- The form `YYYY-MM-DD`. -/
def iso (d : Date) : String :=
  s!"{Decimal.writePadded 4 d.year}-{Decimal.writePadded 2 d.month}-{Decimal.writePadded 2 d.day}"

end Date

end Outreach
