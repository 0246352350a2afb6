import Outreach.Decimal.Extended
import Outreach.Decimal.Notation

/-!
# Fifteen significant digits

A double that is kept in a text column is written with at most fifteen significant digits, and
always with a point: `1.5`, `2.0`, `1.0e+20`. It is brought between one and ten, half a unit of the
last digit is added, and the digits are cut off, all in numbers of 64 binary digits.
-/

namespace Outreach.Decimal

/-- Multiplies a scale by a factor while the number is not below the next scale, and counts its
tens. The number of steps is limited. -/
def growScale (x factor : Extended) (tens : Nat) : Nat → Extended × Int → Extended × Int
  | 0, state => state
  | steps + 1, (scale, exponent) =>
    if (factor.mul scale).le x then
      growScale x factor tens steps (scale.mul factor, exponent + tens)
    else (scale, exponent)

/-- Multiplies a number by a factor while it is below a bound, and counts its tens. The number of
steps is limited. -/
def growNumber (bound factor : Extended) (tens : Nat) : Nat → Extended × Int → Extended × Int
  | 0, state => state
  | steps + 1, (x, exponent) =>
    if bound.le x then (x, exponent)
    else growNumber bound factor tens steps (x.mul factor, exponent - tens)

/-- A positive number between one and ten, and its exponent. -/
def normalized (x : Extended) : Extended × Int :=
  let start : Extended × Int := (.ofNat 1, 0)
  let (scale, exponent) := growScale x (.ofNat 10) 1 16
    (growScale x (.ofNat 10000000000) 10 16 (growScale x (.ofFloat 1.0e100) 100 4 start))
  growNumber (.ofNat 1) (.ofNat 10) 1 16
    (growNumber (.ofFloat 1.0e-8) (.ofNat 100000000) 8 64 (x.div scale, exponent))

/-- Adds half a unit of the fifteenth digit. -/
def roundedUp : Extended × Int → Extended × Int
  | (x, exponent) =>
    let sum := x.add (.ofFloat (5.0e-5 * 1.0e-10))
    if (Extended.ofNat 10).le sum then (sum.mul (.ofFloat 0.1), exponent + 1) else (sum, exponent)

/-- The first digits of a number below ten. -/
def leadingDigits : Nat → Extended → List Char
  | 0, _ => []
  | count + 1, x =>
    let (digit, rest) := x.split
    Nat.digitChar digit :: leadingDigits count (rest.mul (.ofNat 10))

/-- A positive number in fifteen digits without the zeros at their end. -/
def fifteenDigits (x : Extended) : Digits :=
  let (x, exponent) := roundedUp (normalized x)
  ⟨((leadingDigits 15 x).reverse.dropWhile (· = '0')).reverse, exponent⟩

/-- Digits with an exponent, and a zero after the point when there is nothing else. -/
def writePointed (d : Digits) : List Char :=
  match d.digits with
  | [c] => writeExponential plain ⟨[c, '0'], d.exponent⟩
  | _ => writeExponential plain d

/-- A double with at most fifteen significant digits. -/
def writeFifteen (x : Float) : String :=
  let (negative, biased, _) := doubleFields x
  if biased = 2047 then (if negative then "-Inf" else "Inf")
  else
    let magnitude := Extended.ofFloat x
    if magnitude.mantissa = 0 then "0.0"
    else
      let d := fifteenDigits magnitude
      let written := if -4 ≤ d.exponent ∧ d.exponent < 15 then writePositional d else writePointed d
      String.ofList (if negative then '-' :: written else written)

end Outreach.Decimal
