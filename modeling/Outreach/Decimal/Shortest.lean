import Outreach.Decimal.Quantity

/-!
# Shortest decimal digits of a double

`shortestDigits` finds the fewest decimal digits that read back as a given double, and of those the
digits nearest to it. A double `m * 2 ^ e` is the reading of every real in the interval between the
middles to its neighbours, ends included when `m` is even. For one digit, two digits and so on up to
seventeen, the two points of that decimal grid around the double are tested; the first grid with a
point in the interval decides.
-/

namespace Outreach.Decimal

/-- A positive rational number. -/
structure Ratio where
  num : Nat
  den : Nat
  deriving Repr

/-- Scales `m` by a power of two. -/
def Ratio.ofDyadic (m : Nat) (e : Int) : Ratio :=
  if e ≥ 0 then ⟨m * 2 ^ e.toNat, 1⟩ else ⟨m, 2 ^ (-e).toNat⟩

/-- The exponent `k` with `10 ^ k ≤ r < 10 ^ (k + 1)`. -/
def Ratio.decimalExponent (r : Ratio) : Int :=
  if r.den ≤ r.num then ((Nat.toDigits 10 (r.num / r.den)).length : Int) - 1
  else
    let places := (Nat.toDigits 10 (r.den / r.num)).length
    if r.den ≤ r.num * 10 ^ (places - 1) then -((places : Int) - 1) else -(places : Int)

/-- The reals that read back as one double: its middles to the neighbours below and above. -/
structure ReadingInterval where
  low : Ratio
  high : Ratio
  closed : Bool

/-- The interval of `m * 2 ^ e`; below a power of two the lower neighbour is twice as near. -/
def ReadingInterval.ofDyadic (m : Nat) (e : Int) : ReadingInterval :=
  let low := if m = 2 ^ 52 ∧ e > -1074 then 4 * m - 1 else 4 * m - 2
  ⟨Ratio.ofDyadic low (e - 2), Ratio.ofDyadic (4 * m + 2) (e - 2), m % 2 == 0⟩

/-- The point `d * 10 ^ p` lies in the interval. -/
def ReadingInterval.contains (interval : ReadingInterval) (d : Nat) (p : Int) : Bool :=
  let up := 10 ^ p.toNat
  let down := 10 ^ (-p).toNat
  let below := interval.low.num * down
  let above := interval.high.num * down
  if interval.closed then below ≤ d * up * interval.low.den && d * up * interval.high.den ≤ above
  else below < d * up * interval.low.den && d * up * interval.high.den < above

/-- The grid point with step `10 ^ p` that reads back, nearest to the value, an
exact tie to even. -/
def gridPoint? (value : Ratio) (interval : ReadingInterval) (p : Int) : Option Nat :=
  let num := value.num * 10 ^ (-p).toNat
  let den := value.den * 10 ^ p.toNat
  let d := num / den
  let rest := 2 * (num % den)
  match interval.contains d p, interval.contains (d + 1) p with
  | true, true =>
    some (if rest < den then d else if den < rest then d + 1 else if d % 2 = 0 then d else d + 1)
  | true, false => some d
  | false, true => some (d + 1)
  | false, false => none

/-- Tries the grids of `n`, `n + 1`, … significant digits, at most `tries` of them. -/
def firstGridPoint (value : Ratio) (interval : ReadingInterval) (exponent : Int) :
    Nat → Nat → Nat × Int
  | 0, n => (value.num / value.den, exponent + 1 - n)
  | tries + 1, n =>
    let p := exponent + 1 - n
    match gridPoint? value interval p with
    | some d => (d, p)
    | none => firstGridPoint value interval exponent tries (n + 1)

/-- Decimal digits `d₁ d₂ …` with the exponent of the first digit. -/
structure Digits where
  digits : List Char
  exponent : Int

/-- The digits of `d * 10 ^ p` without trailing zeros. -/
def Digits.ofGridPoint (d : Nat) (p : Int) : Digits :=
  let written := Nat.toDigits 10 d
  let kept := (written.reverse.dropWhile (· == '0')).reverse
  ⟨kept, p + written.length - 1⟩

/-- The fewest digits that read back as `m * 2 ^ e`, for positive `m`. -/
def shortestDigits (m : Nat) (e : Int) : Digits :=
  let value := Ratio.ofDyadic m e
  let (d, p) := firstGridPoint value (.ofDyadic m e) value.decimalExponent 17 1
  Digits.ofGridPoint d p

end Outreach.Decimal
