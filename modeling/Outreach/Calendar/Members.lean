import Outreach.Text.Characters
import Outreach.Calendar.Date

/-!
# Year, month and day

The numbers of a date in free form, in the order of the text. A number above 100 or of three digits
is the year, and a name is the month; which of the others is which is decided when all are there.
`Members.resolve?` decides: a number above 31 is no day, a first number above 12 no month.
-/

namespace Outreach.Calendar

/-- A number of a text: its whole part and the digits of its fraction. -/
structure Numeral where
  whole : Nat
  fraction : List Nat
  deriving DecidableEq, Repr

namespace Numeral

/-- The number that digits denote. -/
def ofDigits (digits : List Nat) : Nat := digits.foldl (fun n d => 10 * n + d) 0

/-- Digits that fill a text, at least one. -/
def readDigits? (cs : List Char) : Option (List Nat) :=
  if cs.isEmpty then none else cs.mapM Text.digitValue?

/-- A whole number that fills a text. -/
def readNat? (cs : List Char) : Option Nat := (readDigits? cs).map ofDigits

/-- A number that fills a text: digits, and more digits behind a point if there is one. -/
def read? (token : String) : Option Numeral :=
  let (whole, rest) := token.toList.span (· ≠ '.')
  match rest with
  | [] => (readNat? whole).map (⟨·, []⟩)
  | _ :: fraction => do some ⟨← readNat? whole, ← readDigits? fraction⟩

/-- The number has a fraction that is not zero. -/
def hasFraction (n : Numeral) : Bool := n.fraction.any (· ≠ 0)

/-- The number is above a whole one. -/
def exceeds (n : Numeral) (limit : Nat) : Bool :=
  n.whole > limit || (n.whole = limit && n.hasFraction)

/-- The fraction in sixtieths, cut to whole ones. -/
def sixtieths (n : Numeral) : Nat := 60 * ofDigits n.fraction / 10 ^ n.fraction.length

end Numeral

/-- Years of two digits are near to this one. -/
def referenceYear : Nat := 2026

/-- The year that two digits mean: less than fifty years ahead and no more than fifty back. -/
def nearYear (year : Nat) : Nat :=
  let near := year + referenceYear / 100 * 100
  if year ≥ 100 then year
  else if near ≥ referenceYear + 50 then near - 100
  else if near + 50 < referenceYear then near + 100
  else near

/-- The numbers of a date; year and month are places in the list, where they are known. -/
structure Members where
  numbers : List Nat := []
  yearAt : Option Nat := none
  monthAt : Option Nat := none
  /-- The year was written in full. -/
  fullYear : Bool := false
  deriving DecidableEq, Repr

namespace Members

/-- Adds a number of unknown meaning. -/
def add (m : Members) (number : Nat) : Members := { m with numbers := m.numbers ++ [number] }

/-- Adds the year; there is only one. -/
def addYear? (m : Members) (number : Nat) : Option Members :=
  if m.yearAt.isSome then none
  else some { m.add number with yearAt := some m.numbers.length, fullYear := true }

/-- Adds the month that a name gives; there is only one. -/
def addMonth? (m : Members) (month : Nat) : Option Members :=
  if m.monthAt.isSome then none
  else some { m.add month with monthAt := some m.numbers.length }

/-- Adds digits; three of them or more are the year. -/
def addDigits? (m : Members) (cs : List Char) : Option Members := do
  let number ← Numeral.readNat? cs
  if cs.length > 2 then m.addYear? number else some (m.add number)

/-- Adds a number; one above 100 is the year. -/
def addNumeral? (m : Members) (n : Numeral) : Option Members :=
  if n.exceeds 100 then m.addYear? n.whole else some (m.add n.whole)

/-- Year, month and day, as far as they are given. -/
structure Resolved where
  year : Option Nat := none
  month : Option Nat := none
  day : Option Nat := none
  deriving DecidableEq, Repr

/-- Two numbers without a name: a number above 31 is the year and the other one the month, else they
are month and day. -/
def resolvePair (first second : Nat) : Resolved :=
  if first > 31 then ⟨some first, some second, none⟩
  else if second > 31 then ⟨some second, some first, none⟩
  else ⟨none, some first, some second⟩

/-- The day among three numbers, when the places of year and month are known. -/
def resolveKnown (numbers : List Nat) (yearAt monthAt : Nat) : Resolved :=
  ⟨numbers[yearAt]?, numbers[monthAt]?, numbers[3 - yearAt - monthAt]?⟩

/-- Three numbers, of which the month may be named. -/
def resolveTriple (a b c : Nat) (yearFirst : Bool) : Option Nat → Resolved
  | some 0 => if b > 31 then ⟨some b, some a, some c⟩ else ⟨some c, some a, some b⟩
  | some 1 => if a > 31 then ⟨some a, some b, some c⟩ else ⟨some c, some b, some a⟩
  | some _ => if b > 31 then ⟨some b, some c, some a⟩ else ⟨some a, some c, some b⟩
  | none =>
    if a > 31 ∨ yearFirst then ⟨some a, some b, some c⟩
    else if a > 12 then ⟨some c, some b, some a⟩
    else ⟨some c, some a, some b⟩

/-- Decides which number is what; more than three are too many. -/
def resolve? (m : Members) : Option Resolved :=
  match m.numbers, m.yearAt, m.monthAt with
  | [], _, _ => some {}
  | [n], some _, none => some { year := some n }
  | [n], none, some _ => some { month := some n }
  | [n], _, _ => some (if n > 31 then { year := some n } else { day := some n })
  | [a, b], some yearAt, some _ =>
    some (if yearAt = 0 then ⟨some a, some b, none⟩ else ⟨some b, some a, none⟩)
  | [a, b], none, some monthAt =>
    let (month, other) := if monthAt = 0 then (a, b) else (b, a)
    some (if other > 31 then ⟨some other, some month, none⟩ else ⟨none, some month, some other⟩)
  | [a, b], _, none => some (resolvePair a b)
  | [_, _, _], some yearAt, some monthAt => some (resolveKnown m.numbers yearAt monthAt)
  | [a, b, c], yearAt, monthAt => some (resolveTriple a b c (yearAt = some 0) monthAt)
  | _, _, _ => none

/-- A number may still be the day. -/
def mayBeDay (m : Members) (n : Numeral) : Bool :=
  let limit := match m.monthAt.bind (m.numbers[·]?) with
    | none => 31
    | some month => Date.daysInMonth ((m.yearAt.bind (m.numbers[·]?)).getD 2000) month
  1 ≤ n.whole && !n.exceeds limit

end Members

end Outreach.Calendar
