import Outreach.Decimal.Quantity

/-!
# Numbers with 64 binary digits

The store computes with numbers whose mantissa has 64 binary digits. Every operation
gives the number of that kind nearest to the exact result; of two nearest ones it gives
the one with the even mantissa.
-/

namespace Outreach.Decimal

/-- The number `mantissa * 2 ^ exponent`, which is not negative. -/
structure Extended where
  mantissa : Nat
  exponent : Int
  deriving DecidableEq, Repr

namespace Extended

/-- The number nearest to `m * 2 ^ e`, or to a slightly greater one when `m` is not exact. What is
not exact has more than 64 binary digits. -/
def nearest (m : Nat) (exact : Bool) (e : Int) : Extended :=
  let surplus := m.log2 + 1 - 64
  let kept := m / 2 ^ surplus
  let dropped := 2 * (m % 2 ^ surplus)
  let up := 2 ^ surplus < dropped ∨ (dropped = 2 ^ surplus ∧ (!exact ∨ kept % 2 = 1))
  ⟨if up then kept + 1 else kept, e + surplus⟩

/-- A whole number. -/
def ofNat (n : Nat) : Extended := nearest n true 0

/-- The magnitude of a finite double. -/
def ofFloat (x : Float) : Extended :=
  let (_, biased, fraction) := doubleFields x
  let (m, e) := doubleMagnitude biased fraction
  ⟨m, e⟩

/-- The product. -/
def mul (a b : Extended) : Extended :=
  nearest (a.mantissa * b.mantissa) true (a.exponent + b.exponent)

/-- The sum. -/
def add (a b : Extended) : Extended :=
  let e := min a.exponent b.exponent
  nearest (a.mantissa * 2 ^ (a.exponent - e).toNat + b.mantissa * 2 ^ (b.exponent - e).toNat) true e

/-- The quotient by a number that is not zero. -/
def div (a b : Extended) : Extended :=
  let shift := b.mantissa.log2 + 66 - a.mantissa.log2
  let scaled := a.mantissa * 2 ^ shift
  nearest (scaled / b.mantissa) (scaled % b.mantissa = 0) (a.exponent - b.exponent - shift)

/-- The first number is at most the second. -/
def le (a b : Extended) : Bool :=
  Quantity.compareDyadic a.mantissa a.exponent b.mantissa b.exponent ≠ .gt

/-- The whole part of a number, and what is left. -/
def split (a : Extended) : Nat × Extended :=
  if a.exponent ≥ 0 then (a.mantissa * 2 ^ a.exponent.toNat, ⟨0, 0⟩)
  else
    let unit := 2 ^ (-a.exponent).toNat
    (a.mantissa / unit, ⟨a.mantissa % unit, a.exponent⟩)

/-- The double nearest to a number that is not below the least normal one. -/
def toFloat (a : Extended) : Float := (Float.ofNat a.mantissa).scaleB a.exponent

/-- Multiplies a number by a power of a base, which is squared for every binary
digit of the exponent. -/
def mulPower (result base : Extended) (n : Nat) : Extended :=
  if n = 0 then result
  else mulPower (if n % 2 = 1 then result.mul base else result) (base.mul base) (n / 2)
termination_by n

/-- A power of ten. -/
def tenPower (n : Nat) : Extended := mulPower (ofNat 1) (ofNat 10) n

end Extended

end Outreach.Decimal
