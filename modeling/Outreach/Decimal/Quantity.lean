/-!
# Exact quantities

Whole numbers of any size and doubles are compared by their exact values, never by rounding one to
the other. A `Quantity` is a number on the extended line; every whole number and every double has
one, and `Quantity.compare?` orders them. Only the undefined quantity compares with nothing.
-/

namespace Outreach.Decimal

-- Powers are those of the core library, also in a module that imports an algebra with powers of
-- its own.
@[default_instance 20000]
instance (priority := high) corePower {α : Type} [NatPow α] : Pow α Nat := instPowNat

/-- A number on the extended line, or no number at all. -/
inductive Quantity where
  /-- Not a number. -/
  | undefined
  /-- Beyond every number, on either side. -/
  | infinite (negative : Bool)
  /-- Exactly `m * 2 ^ e`. -/
  | dyadic (m e : Int)
  deriving DecidableEq, Inhabited

/-- The fields of a double: sign, biased exponent (11 bits), fraction (52 bits). -/
def doubleFields (x : Float) : Bool × Nat × Nat :=
  let bits := x.toBits.toNat
  (bits / 2 ^ 63 == 1, bits / 2 ^ 52 % 2 ^ 11, bits % 2 ^ 52)

/-- The magnitude `(m, e)` that biased exponent and fraction encode: it is `m * 2 ^ e`. -/
def doubleMagnitude (biased fraction : Nat) : Nat × Int :=
  if biased = 0 then (fraction, -1074) else (fraction + 2 ^ 52, (biased : Int) - 1075)

namespace Quantity

/-- The exact value of a double. -/
def ofFloat (x : Float) : Quantity :=
  let (negative, biased, fraction) := doubleFields x
  if biased = 2047 then (if fraction = 0 then .infinite negative else .undefined)
  else
    let (m, e) := doubleMagnitude biased fraction
    .dyadic (if negative then -(m : Int) else m) e

/-- A whole number as a quantity. -/
def ofInt (i : Int) : Quantity := .dyadic i 0

/-- Orders `m₁ * 2 ^ e₁` and `m₂ * 2 ^ e₂` over their smaller exponent. -/
def compareDyadic (m₁ e₁ m₂ e₂ : Int) : Ordering :=
  compare (m₁ * 2 ^ (e₁ - min e₁ e₂).toNat) (m₂ * 2 ^ (e₂ - min e₁ e₂).toNat)

/-- The order of two quantities; none when either is undefined. -/
def compare? : Quantity → Quantity → Option Ordering
  | .undefined, _ => none
  | _, .undefined => none
  | .infinite true, .infinite true => some .eq
  | .infinite false, .infinite false => some .eq
  | .infinite true, _ => some .lt
  | .infinite false, _ => some .gt
  | _, .infinite true => some .gt
  | _, .infinite false => some .lt
  | .dyadic m₁ e₁, .dyadic m₂ e₂ => some (compareDyadic m₁ e₁ m₂ e₂)

/-- A dyadic quantity cut towards zero to a whole number. -/
def truncate (m e : Int) : Int :=
  if e ≥ 0 then m * 2 ^ e.toNat else Int.tdiv m (2 ^ (-e).toNat)

/-- The quantity is a whole number. -/
def isWhole : Quantity → Bool
  | .dyadic m e => e ≥ 0 || m % 2 ^ (-e).toNat == 0
  | _ => false

/-- Whole numbers are ordered as quantities as they are as numbers. -/
theorem compare?_ofInt (i j : Int) : compare? (ofInt i) (ofInt j) = some (compare i j) := by
  simp [compare?, ofInt, compareDyadic]

end Quantity

/-- The double nearest to a whole number; none when that is beyond the largest double. -/
def floatOfInt? (i : Int) : Option Float :=
  let nearest := Float.ofInt i
  if nearest.isInf then none else some nearest

/-- A finite double cut towards zero. -/
def truncateFloat (x : Float) : Int :=
  match Quantity.ofFloat x with
  | .dyadic m e => Quantity.truncate m e
  | _ => 0

/-- The double is finite and a whole number. -/
def isWholeFloat (x : Float) : Bool := (Quantity.ofFloat x).isWhole

end Outreach.Decimal
