/-!
# Labels in plain letters

A label with characters outside ASCII is written in plain letters and digits: first its ASCII
characters as they are, then a hyphen, then one number for every other character in ascending order.
A number says how many places and code points were passed over since the character before. It is
written in digits of base 36, the lowest first, and a digit below the threshold of its place is the
last one. The thresholds follow a bias, which follows the size of the numbers so far.
-/

namespace Outreach.Url.Punycode

/-- The sign of a digit: the letters stand for 0 to 25, the ciphers for 26 to 35. -/
def digit (d : Nat) : Char := if d < 26 then Char.ofNat (97 + d) else Char.ofNat (22 + d)

/-- The digit that a sign stands for. -/
def digitValue? (c : Char) : Option Nat :=
  if 'a' ≤ c ∧ c ≤ 'z' then some (c.toNat - 97)
  else if '0' ≤ c ∧ c ≤ '9' then some (c.toNat - 22)
  else none

/-- The threshold of a place, between 1 and 26; places are counted in steps of 36. -/
def threshold (bias place : Nat) : Nat := min 26 (max 1 (place - bias))

theorem threshold_pos (bias place : Nat) : 1 ≤ threshold bias place := by
  unfold threshold
  omega

/-- Divides a number down to at most 455 and counts 36 for every division. -/
def scaleDown (delta count : Nat) : Nat × Nat :=
  if 455 < delta then scaleDown (delta / 35) (count + 36) else (delta, count)
termination_by delta

/-- The bias after a number, which was the first one or not, when so many characters are placed. -/
def biasAfter (delta placed : Nat) (first : Bool) : Nat :=
  let damped := if first then delta / 700 else delta / 2
  let (scaled, count) := scaleDown (damped + damped / placed) 0
  count + 36 * scaled / (scaled + 38)

/-- The digits of a number from a place on. -/
def digits (bias place number : Nat) : List Char :=
  if number < threshold bias place then [digit number]
  else
    digit (threshold bias place + (number - threshold bias place) % (36 - threshold bias place)) ::
      digits bias (place + 36) ((number - threshold bias place) / (36 - threshold bias place))
termination_by number
decreasing_by
  have := threshold_pos bias place
  exact Nat.lt_of_le_of_lt (Nat.div_le_self _ _) (by omega)

/-- What was written so far, with the number that is being counted. -/
structure Writing where
  written : List Char
  delta : Nat
  bias : Nat
  /-- How many characters are placed. -/
  placed : Nat
  first : Bool

/-- Passes a character while those of one code point are placed. -/
def Writing.pass (code : Nat) (w : Writing) (c : Char) : Writing :=
  if c.toNat < code then { w with delta := w.delta + 1 }
  else if c.toNat = code then
    ⟨w.written ++ digits w.bias 36 w.delta, 0, biasAfter w.delta (w.placed + 1) w.first,
      w.placed + 1, false⟩
  else w

/-- Places the characters of ascending code points, of which the next possible one is given. -/
def Writing.placeAll (cs : List Char) : Nat → List Nat → Writing → Writing
  | _, [], w => w
  | next, code :: rest, w =>
    let jumped := { w with delta := w.delta + (code - next) * (w.placed + 1) }
    let passed := cs.foldl (Writing.pass code) jumped
    placeAll cs (code + 1) rest { passed with delta := passed.delta + 1 }

/-- The character is ASCII. -/
def isPlain (c : Char) : Bool := c.toNat < 0x80

/-- The distinct code points outside ASCII, in ascending order. -/
def otherCodes (cs : List Char) : List Nat :=
  ((cs.filter fun c => !isPlain c).map Char.toNat).eraseDups.mergeSort

/-- A text in plain letters. -/
def encode (cs : List Char) : List Char :=
  let plain := cs.filter isPlain
  let others := (Writing.placeAll cs 0x80 (otherCodes cs) ⟨[], 0, 72, plain.length, true⟩).written
  if plain.isEmpty then others else plain ++ '-' :: others

/-- Reads a number from a place on: the sum so far, the weight of the place, and the signs. -/
def readNumber? (bias : Nat) : Nat → Nat → Nat → List Char → Option (Nat × List Char)
  | _, _, _, [] => none
  | place, weight, sum, c :: rest => do
    let d ← digitValue? c
    if d < threshold bias place then some (sum + d * weight, rest)
    else
      readNumber? bias (place + 36) (weight * (36 - threshold bias place)) (sum + d * weight) rest

/-- Places the characters that numbers stand for, with the code point and the place reached; every
number takes at least one sign, so as many steps as there are signs are enough. -/
def placeNumbers? : Nat → Nat → Nat → Nat → Bool → List Char → List Char → Option (List Char)
  | _, _, _, _, _, done, [] => some done
  | 0, _, _, _, _, _, _ :: _ => none
  | steps + 1, bias, code, place, first, done, signs => do
    let (delta, rest) ← readNumber? bias 36 1 0 signs
    let places := done.length + 1
    let code := code + (place + delta) / places
    let place := (place + delta) % places
    if code.isValidChar then
      placeNumbers? steps (biasAfter delta places first) code (place + 1) false
        (done.insertIdx place (Char.ofNat code)) rest
    else none

/-- Reads a text that is written in plain letters; the last hyphen ends its ASCII characters. -/
def decode? (cs : List Char) : Option (List Char) :=
  let signs := (cs.reverse.takeWhile (· ≠ '-')).reverse
  let plain := (cs.take (cs.length - signs.length)).dropLast
  placeNumbers? signs.length 72 0x80 0 true plain signs

end Outreach.Url.Punycode
