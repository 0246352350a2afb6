/-!
# Names of the calendar

The words that dates are written with: months and days of the week, in full or by their first three
letters, units of the time of day, marks for the half of the day, names of the zero zone, and words
that say nothing. Words count in any case.
-/

namespace Outreach.Calendar

/-- The months in order. -/
def monthNames : List String :=
  ["January", "February", "March", "April", "May", "June", "July", "August", "September", "October",
    "November", "December"]

/-- The days of the week, Monday first. -/
def weekdayNames : List String :=
  ["Monday", "Tuesday", "Wednesday", "Thursday", "Friday", "Saturday", "Sunday"]

/-- A word in lower case. -/
def lower (word : String) : String := String.ofList (word.toList.map Char.toLower)

/-- The first three letters of a name. -/
def short (name : String) : String := String.ofList (name.toList.take 3)

/-- The place of a name that a word gives in full or by its first three letters. -/
def indexOf? (names : List String) (word : String) : Option Nat :=
  names.findIdx? fun name => lower name = lower word ∨ lower (short name) = lower word

/-- The month, counted from 1, that a word names; September has a second short form. -/
def monthOf? (word : String) : Option Nat :=
  if lower word = "sept" then some 9 else (indexOf? monthNames word).map (· + 1)

/-- The day of the week, counted from Monday as 0, that a word names. -/
def weekdayOf? (word : String) : Option Nat := indexOf? weekdayNames word

/-- The units of the time of day: 0 for hours, 1 for minutes, 2 for seconds. -/
def unitOf? (word : String) : Option Nat :=
  [["h", "hour", "hours"], ["m", "minute", "minutes"], ["s", "second", "seconds"]].findIdx?
    (·.contains (lower word))

/-- The half of the day that a mark names; the second half is the afternoon. -/
def isAfternoon? (word : String) : Option Bool :=
  if ["am", "a"].contains (lower word) then some false
  else if ["pm", "p"].contains (lower word) then some true
  else none

/-- The word names the zone without an offset. -/
def isZeroZone (word : String) : Bool := ["utc", "gmt", "z"].contains (lower word)

/-- The word may stand between the parts of a date and says nothing. -/
def isFiller (word : String) : Bool :=
  [" ", ".", ",", ";", "-", "/", "'", "at", "on", "and", "ad", "m", "t", "of", "st", "nd", "rd",
    "th"].contains (lower word)

/-- The word stands for what is no finite number; it is no part of a date. -/
def isNoNumber (word : String) : Bool := ["nan", "inf"].contains (lower word)

/-- The word may be the name of a zone: at most five capitals, or a name of the zero zone. -/
def mayNameZone (word : String) : Bool :=
  word.length ≤ 5 && (word.toList.all Char.isUpper || ["UTC", "GMT", "Z", "z"].contains word)

end Outreach.Calendar
