import Outreach.Calendar.Instant
import Outreach.Decimal.Literal

/-!
# Short forms of dates

Texts of at most ten characters have readings of their own: month and day before a year of four
digits, month and year, a year alone, and a quarter of a year. Where the first number of a date is
no month it is the day. In a place for a digit any other character counts as a large negative
number, which is why such a text is seldom a date.
-/

namespace Outreach.ShortForm

/-- The value of a digit in its place; another character is worth minus ten of
that place and more. -/
def digitAt (cs : List Char) (i : Nat) (instead : Int) : Int :=
  match cs[i]?.bind Text.asciiDigit? with
  | some d => d
  | none => instead

/-- One digit from a place on. -/
def oneDigit (cs : List Char) (i : Nat) : Int := digitAt cs i (-10)

/-- Two digits from a place on. -/
def twoDigits (cs : List Char) (i : Nat) : Int :=
  10 * digitAt cs i (-10) + digitAt cs (i + 1) (-100)

/-- Four digits from a place on. -/
def fourDigits (cs : List Char) (i : Nat) : Int :=
  1000 * digitAt cs i (-10) + 100 * digitAt cs (i + 1) (-100) + 10 * digitAt cs (i + 2) (-1000) +
    digitAt cs (i + 3) (-10000)

/-- The place holds a mark between the parts of a date; the null character is one. -/
def hasMark (cs : List Char) (i : Nat) : Bool :=
  (cs[i]?.map [' ', '-', '.', '/', '\x00'].contains).getD false

/-- Month, day and year, where marks stand between them; without a day it is the first. -/
def parts? (cs : List Char) : Option (Int × Option Int × Int) :=
  match cs.length with
  | 10 => if hasMark cs 2 && hasMark cs 5 then
      some (twoDigits cs 0, some (twoDigits cs 3), fourDigits cs 6) else none
  | 9 =>
    if hasMark cs 1 && hasMark cs 4 then
      some (oneDigit cs 0, some (twoDigits cs 2), fourDigits cs 5)
    else if hasMark cs 2 && hasMark cs 4 then
      some (twoDigits cs 0, some (oneDigit cs 3), fourDigits cs 5)
    else none
  | 8 => if hasMark cs 1 && hasMark cs 3 then
      some (oneDigit cs 0, some (oneDigit cs 2), fourDigits cs 4) else none
  | 7 => if hasMark cs 2 && cs[2]? ≠ some '.' then
      some (twoDigits cs 0, none, fourDigits cs 3) else none
  | _ => none

/-- The stamp of a day, if there is one. -/
def dayStamp? (year month day : Int) : Option Stamp :=
  let stamp := Stamp.mk year month.toNat day.toNat 0 0 0 0 false 0
  if stamp.isValid then some stamp else none

/-- A date with its year last. The outer answer says whether the text has that form at all. -/
def monthDayYear? (cs : List Char) : Option (Option Stamp) :=
  match parts? cs with
  | none => none
  | some (month, day, year) =>
    let first := day.getD 1
    if month < 0 ∨ first < 0 ∨ year < 1000 then none
    else if 1 ≤ month ∧ month ≤ 31 ∧ 1 ≤ first ∧ first ≤ 31 ∧ (month ≤ 12 ∨ first ≤ 12) then
      some (if month > 12 ∧ day.isSome then dayStamp? year first month
        else dayStamp? year month first)
    else some none

/-- The first day of a year, for the years of the calendar. -/
def yearStamp? (year : Int) (month : Int) : Option Stamp :=
  if 1 ≤ year ∧ year ≤ 9999 then dayStamp? year month 1 else none

/-- Four characters that are a whole number, which may have a sign, blanks around it and underscores
between its digits, are a year. -/
def year? (cs : List Char) : Option Stamp :=
  if cs.length = 4 then do
    let trimmed := Text.trimBy Text.isBlank cs
    let digits ← Decimal.dropUnderscores? false (Decimal.ordinaryDigits trimmed)
    yearStamp? (← Decimal.readSigned? digits) 1
  else none

/-- A quarter of a year: its number, a `Q` in any case, and the year in two or four digits behind it
or in front of it, perhaps with a dash. The digits have their places among the bytes of the text. -/
def quarter? (cs : List Char) : Option Stamp :=
  let cs := cs.map Char.toUpper
  let bytes := (cs.flatMap String.utf8EncodeChar).map fun byte => Char.ofNat byte.toNat
  let size := bytes.length
  let dash (i : Nat) : Bool := cs[i]? = some '-'
  let mark := ((cs.drop 1).take 5).idxOf 'Q' + 1
  let found :=
    if cs.length < 4 ∨ cs.length > 7 ∨ cs[mark]? ≠ some 'Q' ∨ mark > 5 then none
    else if mark = 1 then
      if size = 4 ∨ (size = 5 ∧ dash 2) then
        some (oneDigit bytes 0, 2000 + twoDigits bytes (size - 2))
      else if size = 6 ∨ (size = 7 ∧ dash 2) then
        some (oneDigit bytes 0, fourDigits bytes (size - 4))
      else none
    else if mark = 2 ∨ mark = 3 then
      if size = 4 ∨ (size = 5 ∧ dash (mark - 1)) then
        some (oneDigit bytes (size - 1), 2000 + twoDigits bytes 0)
      else none
    else if size = 6 ∨ (size = 7 ∧ dash (mark - 1)) then
      some (oneDigit bytes (size - 1), fourDigits bytes 0)
    else none
  found.bind fun (quarter, year) =>
    if 1 ≤ quarter ∧ quarter ≤ 4 then yearStamp? year (3 * quarter - 2) else none

end Outreach.ShortForm
