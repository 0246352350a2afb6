import Outreach.Decimal.Extended

/-!
# Reading decimals by scaling

The store reads a decimal text in one pass: it takes digits while the number that they make is
small, drops the others, moves powers of ten between the digits and the exponent, and
multiplies or divides the digits by the power that remains. So the result may miss the nearest
double in its last place.
-/

namespace Outreach.Decimal

/-- Digits are taken while their number is below this limit. -/
def digitsLimit : Nat := 922337203685477579

/-- The digits that are taken, and the exponent that goes with them. -/
def takenDigits (digits : Nat) (exponent : Int) : Nat × Int :=
  if digitsLimit ≤ digits / 10 then takenDigits (digits / 10) (exponent + 1) else (digits, exponent)
termination_by digits
decreasing_by
  simp only [digitsLimit] at *
  omega

/-- Moves tens into the digits while they stay small. -/
def absorbTens : Nat → Nat → Nat × Nat
  | digits, 0 => (digits, 0)
  | digits, tens + 1 =>
    if digits < 922337203685477580 then absorbTens (10 * digits) tens else (digits, tens + 1)

/-- Takes tens out of the digits while they end in zeros. -/
def shedTens : Nat → Nat → Nat × Nat
  | digits, 0 => (digits, 0)
  | digits, tens + 1 => if digits % 10 = 0 then shedTens (digits / 10) tens else (digits, tens + 1)

/-- The digits times a power of ten. -/
def scaledUp (digits tens : Nat) : Float :=
  if tens = 0 then Float.ofNat digits
  else if tens ≤ 307 then ((Extended.ofNat digits).mul (.tenPower tens)).toFloat
  else if tens < 342 then ((Extended.ofNat digits).mul (.tenPower (tens - 308))).toFloat * 1.0e308
  else 1.0 / 0.0

/-- The digits divided by a power of ten. -/
def scaledDown (digits tens : Nat) : Float :=
  if tens = 0 then Float.ofNat digits
  else if tens ≤ 307 then ((Extended.ofNat digits).div (.tenPower tens)).toFloat
  else if tens < 342 then ((Extended.ofNat digits).div (.tenPower (tens - 308))).toFloat / 1.0e308
  else 0.0

/-- The double that is read for digits with an exponent. -/
def scaledDouble (digits : Nat) (exponent : Int) : Float :=
  let (digits, exponent) := takenDigits digits exponent
  if digits = 0 then 0.0
  else if exponent ≥ 0 then
    let (digits, tens) := absorbTens digits exponent.toNat
    scaledUp digits tens
  else
    let (digits, tens) := shedTens digits (-exponent).toNat
    scaledDown digits tens

/-- The double that is read for digits with a sign and an exponent. -/
def scaledSigned (negative : Bool) (digits : Nat) (exponent : Int) : Float :=
  if negative then -(scaledDouble digits exponent) else scaledDouble digits exponent

end Outreach.Decimal
