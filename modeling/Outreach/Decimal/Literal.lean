import Outreach.Decimal.Quantity
import Outreach.Text.Characters

/-!
# Reading decimal text

A decimal literal is an optional sign, digits with an optional point (a digit on at least one
side of it), and an optional exponent; or one of the words for infinity and for an undefined
number, in any case. `Literal.read?` splits a text into these parts and `Literal.toFloat`
gives the nearest double.
-/

namespace Outreach.Decimal

/-- A decimal literal taken apart. -/
inductive Literal where
  | infinity (negative : Bool)
  | undefined
  /-- The number is the digits after the sign, times ten to the exponent. -/
  | number (negative : Bool) (digits : Nat) (exponent : Int)
  deriving DecidableEq

/-- Takes the longest run of ordinary digits: their value, their count, and what follows them. -/
def takeDigits : List Char → Nat → Nat → Nat × Nat × List Char
  | [], value, count => (value, count, [])
  | c :: rest, value, count =>
    match Text.asciiDigit? c with
    | some d => takeDigits rest (10 * value + d) (count + 1)
    | none => (value, count, c :: rest)

/-- Splits an optional sign from a text. -/
def takeSign : List Char → Bool × List Char
  | '-' :: rest => (true, rest)
  | '+' :: rest => (false, rest)
  | cs => (false, cs)

/-- A whole number with optional sign and at least one digit that fills the text. -/
def readSigned? (cs : List Char) : Option Int :=
  let (negative, rest) := takeSign cs
  match takeDigits rest 0 0 with
  | (value, count + 1, []) => some (if negative && count + 1 > 0 then -(value : Int) else value)
  | _ => none

/-- The exponent part that ends a literal; no text is the exponent zero. -/
def readExponent? : List Char → Option Int
  | [] => some 0
  | c :: rest => if c = 'e' ∨ c = 'E' then readSigned? rest else none

/-- Reads a whole text as a literal. -/
def Literal.read? (cs : List Char) : Option Literal :=
  let (negative, rest) := takeSign cs
  let word := String.ofList (rest.map Char.toLower)
  if word = "inf" ∨ word = "infinity" then some (.infinity negative)
  else if word = "nan" then some .undefined
  else
    let (whole, wholeCount, rest) := takeDigits rest 0 0
    let (value, fractionCount, rest) :=
      match rest with
      | '.' :: rest => takeDigits rest whole 0
      | rest => (whole, 0, rest)
    if wholeCount + fractionCount = 0 then none
    else (readExponent? rest).map fun exponent => .number negative value (exponent - fractionCount)

/-- The double nearest to `digits * 10 ^ exponent`; exponents out of any double's
reach are cut off. -/
def nearestDouble (digits : Nat) (exponent : Int) : Float :=
  let magnitude := exponent + (Nat.toDigits 10 digits).length
  if digits = 0 then 0.0
  else if magnitude > 400 then 1.0 / 0.0
  else if magnitude < -400 then 0.0
  else if exponent ≥ 0 then Float.ofScientific digits false exponent.toNat
  else Float.ofScientific digits true (-exponent).toNat

/-- The double that a literal denotes. -/
def Literal.toFloat : Literal → Float
  | .infinity negative => if negative then -(1.0 / 0.0) else 1.0 / 0.0
  | .undefined => 0.0 / 0.0
  | .number negative digits exponent =>
    if negative then -(nearestDouble digits exponent) else nearestDouble digits exponent

/-- Underscores may stand between two digits only, and are dropped there. -/
def dropUnderscores? : Bool → List Char → Option (List Char)
  | _, [] => some []
  | afterDigit, '_' :: rest =>
    match rest with
    | c :: _ =>
      if afterDigit && (Text.asciiDigit? c).isSome then dropUnderscores? false rest else none
    | [] => none
  | _, c :: rest => (dropUnderscores? (Text.asciiDigit? c).isSome rest).map (c :: ·)

/-- Digits of every script become ordinary digits; all other characters stay. -/
def ordinaryDigits (cs : List Char) : List Char :=
  cs.map fun c => match Text.digitValue? c with
    | some d => Char.ofNat ('0'.toNat + d)
    | none => c

/-- The double that a text denotes, blanks around it, digits of any script, and single underscores
between digits allowed. -/
def readFloat? (s : String) : Option Float := do
  let cs ← dropUnderscores? false (ordinaryDigits (Text.trimBy Text.isBlank s.toList))
  (← Literal.read? cs).toFloat

/-- A whole number with more digits than these is not read. -/
def wholeDigitLimit : Nat := 4300

/-- The whole number that a text denotes, blanks around it, digits of any script, and single
underscores between digits allowed. -/
def readWhole? (s : String) : Option Int := do
  let cs ← dropUnderscores? false (ordinaryDigits (Text.trimBy Text.isBlank s.toList))
  if (takeSign cs).2.length > wholeDigitLimit then none else readSigned? cs

end Outreach.Decimal
