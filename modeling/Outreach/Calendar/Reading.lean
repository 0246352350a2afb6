import Outreach.Calendar.Iso
import Outreach.Calendar.Layout
import Outreach.Calendar.ShortForm
import Outreach.Decimal.Literal

/-!
# Instants in texts

A text is one instant or none. The ISO forms come first, then texts that have a layout, short forms,
and dates in free form. Small numbers are no dates. A text that starts with a minus sign is a year
before the year 0 only where no layout reads it.
-/

namespace Outreach.Instant

/-- The text is a number below 1000 and no more; texts that start with a zero are
not held for numbers. -/
def isSmallNumber (cs : List Char) : Bool :=
  if cs.head? = some '0' then false
  else
    match Decimal.Literal.read? (Text.trimBy Text.isAsciiBlank cs) with
    | some (.number negative digits exponent) =>
      negative || digits = 0 || digits < 1000 * 10 ^ (-exponent).toNat
    | _ => false

/-- The text starts with hour and minute. -/
def startsWithClock (cs : List Char) : Bool :=
  let within (n : Int) (limit : Nat) : Bool := 0 ≤ n && n < limit
  if cs.length ≥ 4 ∧ cs[1]? = some ':' then
    within (ShortForm.oneDigit cs 0) 24 && within (ShortForm.twoDigits cs 2) 60
  else if cs.length ≥ 5 ∧ cs[2]? = some ':' then
    within (ShortForm.twoDigits cs 0) 24 && within (ShortForm.twoDigits cs 3) 60
  else false

/-- A text that starts with the time of day has to give its whole date. -/
def clockFirst? (s : String) : Option Stamp := do
  let notes ← Calendar.Notes.ofText? s
  let date ← notes.date?
  if date.year.isSome && date.month.isSome && date.day.isSome then notes.stamp? true else none

/-- Reads a text that has no ISO form and no layout. -/
def freely? (s : String) : Option Stamp :=
  let cs := s.toList
  if isSmallNumber cs then none
  else if startsWithClock cs then clockFirst? s
  else
    match ShortForm.monthDayYear? cs with
    | some stamp => stamp
    | none =>
      ShortForm.year? cs <|> ShortForm.quarter? cs <|>
        ((Calendar.Notes.ofText? s).bind (·.stamp? false))

/-- The instant of a text by its layout. -/
def byLayout? (s : String) : Option Instant := (Calendar.readGuessed? s).bind Stamp.instant?

/-- The text without the null characters at its end. -/
def dropEndNulls (s : String) : String :=
  String.ofList (s.toList.reverse.dropWhile (·.toNat = 0)).reverse

/-- Reads a text that does not end in null characters. -/
def ofUnpadded? (s : String) : Option Instant :=
  match Iso.read? s.toList with
  | some stamp =>
    if s.toList.head? = some '-' then byLayout? s <|> stamp.instant? else stamp.instant?
  | none => byLayout? s <|> (freely? s).bind Stamp.instant?

/-- Reads a text as an instant; null characters at its end only fill it up. -/
def ofText? (s : String) : Option Instant := ofUnpadded? (dropEndNulls s)

end Outreach.Instant
