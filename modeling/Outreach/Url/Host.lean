import Outreach.Decimal.Literal
import Outreach.Url.Escape
import Outreach.Url.Name

/-!
# Hosts

A host is four numbers with points, eight groups of hexadecimal digits in brackets, or a name. What
looks like the four numbers has to be them. A name in ASCII is written in small letters; any other
name is written in plain letters.
-/

namespace Outreach.Url

/-- Cuts a text at every separator. -/
def cutAt (separator : Char) : List Char → List (List Char)
  | [] => [[]]
  | c :: rest =>
    if c = separator then [] :: cutAt separator rest
    else match cutAt separator rest with
      | first :: more => (c :: first) :: more
      | [] => [[c]]

/-- An ASCII digit. -/
def isCipher (c : Char) : Bool := '0' ≤ c && c ≤ '9'

/-- The states after one more character: an even state wants the first digit of a run, an odd one is
in a run, and any character leads from a run to the next one. -/
def afterCipher (states : List Nat) (c : Char) : List Nat :=
  (states.flatMap fun state =>
    if state % 2 = 0 then (if isCipher c then [state + 1] else [])
    else (if isCipher c then [state] else []) ++ (if state < 7 then [state + 1] else [])).eraseDups

/-- The text looks like four runs of digits with one character between each two. -/
def looksNumbered (cs : List Char) : Bool := (cs.foldl afterCipher [0]).contains 7

/-- A number up to 255 without needless zeros. -/
def isByteText (cs : List Char) : Bool :=
  !cs.isEmpty && cs.all isCipher && cs.length ≤ 3 && (cs = ['0'] || cs.head? ≠ some '0') &&
    (Decimal.takeDigits cs 0 0).1 ≤ 255

/-- Four numbers with points. -/
def isNumbered (cs : List Char) : Bool :=
  let parts := cutAt '.' cs
  parts.length = 4 && parts.all isByteText

/-- A group of one to four hexadecimal digits. -/
def isGroup (cs : List Char) : Bool :=
  !cs.isEmpty && cs.length ≤ 4 && cs.all fun c => (Text.hexDigit? c).isSome

/-- Eight groups, of which one run between or beside colons may be left out. The parts are what
stands between the colons. -/
def areGroups (parts : List (List Char)) : Bool :=
  if (parts.drop 1).dropLast.all fun part => !part.isEmpty then
    parts.length = 8 && parts.all isGroup
  else
    let high := parts.takeWhile fun part => !part.isEmpty
    let low := (parts.reverse.takeWhile fun part => !part.isEmpty).reverse
    let gap := parts.length - high.length - low.length
    let ends := (if high.isEmpty then 1 else 0) + (if low.isEmpty then 1 else 0)
    gap = 1 + ends && high.length + low.length < 8 && parts.length ≤ 9 && (high ++ low).all isGroup

/-- Groups of hexadecimal digits with colons, of which the last two may be four numbers with points,
and perhaps the name of a zone after a percent sign. -/
def isGrouped (cs : List Char) : Bool :=
  let address := cs.takeWhile (· ≠ '%')
  let zone := cs.drop address.length
  let parts := cutAt ':' address
  let last := parts.getLast?.getD []
  let zoneFits := zone.isEmpty || (zone.length > 1 && !(zone.drop 1).contains '%')
  zoneFits && !cs.contains '/' && parts.length ≥ 3 &&
    (if last.contains '.' then isNumbered last && areGroups (parts.dropLast ++ [['0'], ['0']])
     else areGroups parts)

/-- Reads a host. -/
def readHost (cs : List Char) : Except Fault (List Char) :=
  let inner := (cs.drop 1).dropLast
  if looksNumbered cs then
    if isNumbered cs then .ok cs else .error .malformed
  else if cs.head? = some '[' && cs.getLast? = some ']' then
    if isGrouped inner then .ok inner else .error .malformed
  else if cs.all Punycode.isPlain then escape isHostPlain (cs.map Char.toLower)
  else match writeName? cs with
    | some written => .ok written
    | none => .error .malformed

end Outreach.Url
