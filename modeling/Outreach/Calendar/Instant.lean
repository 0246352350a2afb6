import Outreach.Calendar.DateTime
import Outreach.Decimal.Quantity

/-!
# Instants

An instant is a count of nanoseconds since 1970-01-01T00:00:00Z. Numbers are read as milliseconds
since then. A `Stamp` is what a text says about an instant: a date, a time of day and a zone, where
a missing part is the first of its kind and a missing zone is UTC. `Stamp.instant?` is the instant
it names, which for a fraction finer than a microsecond has to fit a word of 64 bits.
-/

namespace Outreach

/-- Nanoseconds since 1970-01-01T00:00:00Z. -/
abbrev Instant := Int

namespace Instant

/-- The counts that fit a signed word of 64 bits; its least value stands for "no instant". -/
def fitsWord (n : Int) : Bool := -9223372036854775808 < n && n ≤ 9223372036854775807

/-- Whole milliseconds, as long as the microseconds fit a word. -/
def ofMillis? (ms : Int) : Option Instant :=
  if fitsWord (ms * 1000) then some (ms * 1000000) else none

/-- Rounds a small double to a whole number, an exact half to the even one. -/
def roundHalfEven (x : Float) : Float :=
  let low := x.floor
  let rest := x - low
  if rest < 0.5 then low
  else if rest > 0.5 then low + 1.0
  else if (low / 2.0).floor * 2.0 == low then low else low + 1.0

/-- Milliseconds as a double: whole ones as such, others rounded to nanoseconds that fit a word. -/
def ofMillisFloat? (ms : Float) : Option Instant :=
  match Decimal.Quantity.ofFloat ms with
  | .dyadic m e =>
    if Decimal.Quantity.isWhole (.dyadic m e) then ofMillis? (Decimal.Quantity.truncate m e)
    else
      let base := Decimal.Quantity.truncate m e
      let fraction := roundHalfEven ((ms - Float.ofInt base) * 1e6) / 1e6
      let nanos := base * 1000000 + Decimal.truncateFloat (fraction * 1e6)
      if fitsWord nanos then some nanos else none
  | _ => none

/-- A wall-clock time; without a zone it is UTC. -/
def ofDateTime (t : DateTime) : Instant := t.epochMicros * 1000

/-- Midnight UTC of a day. -/
def ofDate (d : Date) : Instant := ofDateTime (.midnight d)

end Instant

/-- A date, a time of day and a zone as a text gives them; the year may lie before the year 1. -/
structure Stamp where
  year : Int
  month : Nat := 1
  day : Nat := 1
  hour : Nat := 0
  minute : Nat := 0
  second : Nat := 0
  nanos : Nat := 0
  /-- The fraction of the second is written finer than in microseconds. -/
  fine : Bool := false
  /-- Seconds east of UTC. -/
  offset : Int := 0
  deriving DecidableEq, Repr

namespace Stamp

/-- There is such a day and such a time of day, and the zone is less than a day away from UTC. -/
def isValid (s : Stamp) : Bool :=
  Date.isDayIn s.year s.month s.day && s.hour < 24 && s.minute < 60 && s.second < 60 &&
    s.offset.natAbs < 86400

/-- Nanoseconds of the wall clock since 1970-01-01T00:00:00 on the same clock. -/
def wallNanos (s : Stamp) : Int :=
  (Date.dayNumberIn s.year s.month s.day * 86400 + s.hour * 3600 + s.minute * 60 + s.second)
    * 1000000000 + s.nanos

/-- The instant of a valid reading; wall clock and instant fit a word where the fraction is fine. -/
def instant? (s : Stamp) : Option Instant :=
  let instant := s.wallNanos - s.offset * 1000000000
  if !s.isValid then none
  else if s.fine && !(Instant.fitsWord s.wallNanos && Instant.fitsWord instant) then none
  else some instant

end Stamp

end Outreach
