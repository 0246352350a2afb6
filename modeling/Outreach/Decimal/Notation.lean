import Outreach.Decimal.Shortest

/-!
# Written form of numbers

A double is written with its shortest digits. A `NumberStyle` record fixes the rest: from which
exponents on the written form has an exponent part, and how the values without digits are spelled.
`plain` is the form of answers, rule texts and messages; `json` differs in the spelling of the
values that are not finite.
-/

namespace Outreach.Decimal

/-- The decisions of a written form that the digits leave open. -/
structure NumberStyle where
  /-- Exponents from here on are written out. -/
  positionalBelow : Int
  /-- Exponents below this one are written out. -/
  positionalFrom : Int
  /-- Least number of exponent digits. -/
  exponentWidth : Nat
  undefined : String
  infinity : String
  negativeInfinity : String

/-- Positional from `1e-4` up to below `1e16`, and an exponent of at least two digits otherwise. -/
def plain : NumberStyle := ⟨16, -4, 2, "nan", "inf", "-inf"⟩

/-- The form inside JSON texts. -/
def json : NumberStyle :=
  { plain with undefined := "NaN", infinity := "Infinity", negativeInfinity := "-Infinity" }

/-- Fills a text of digits with leading zeros. -/
def padZeros (width : Nat) (digits : List Char) : List Char :=
  List.replicate (width - digits.length) '0' ++ digits

/-- Digits with the point where the exponent puts it; a whole number keeps one
zero after the point. -/
def writePositional (d : Digits) : List Char :=
  if d.exponent < 0 then
    '0' :: '.' :: List.replicate (-d.exponent - 1).toNat '0' ++ d.digits
  else
    let whole := d.exponent.toNat + 1
    let left := d.digits.take whole ++ List.replicate (whole - d.digits.length) '0'
    let right := d.digits.drop whole
    left ++ '.' :: (if right.isEmpty then ['0'] else right)

/-- One digit before the point, and the exponent with its sign. -/
def writeExponential (style : NumberStyle) (d : Digits) : List Char :=
  let left := d.digits.take 1
  let right := d.digits.drop 1
  let mantissa := if right.isEmpty then left else left ++ '.' :: right
  mantissa ++ 'e' :: (if d.exponent < 0 then '-' else '+') ::
    padZeros style.exponentWidth (Nat.toDigits 10 d.exponent.natAbs)

/-- The magnitude `m * 2 ^ e` in a given style. -/
def writeMagnitude (style : NumberStyle) (m : Nat) (e : Int) : List Char :=
  if m = 0 then ['0', '.', '0']
  else
    let d := shortestDigits m e
    if style.positionalFrom ≤ d.exponent ∧ d.exponent < style.positionalBelow then writePositional d
    else writeExponential style d

/-- The written form of a double. The sign of a zero is kept. -/
def NumberStyle.write (style : NumberStyle) (x : Float) : String :=
  let (negative, biased, fraction) := doubleFields x
  if biased = 2047 then
    if fraction = 0 then (if negative then style.negativeInfinity else style.infinity)
    else style.undefined
  else
    let (m, e) := doubleMagnitude biased fraction
    let magnitude := writeMagnitude style m e
    String.ofList (if negative then '-' :: magnitude else magnitude)

/-- The decimal text of a whole number. -/
def writeInt (i : Int) : String :=
  if i < 0 then "-" ++ String.ofList (Nat.toDigits 10 i.natAbs)
  else String.ofList (Nat.toDigits 10 i.natAbs)

/-- Hexadecimal digits of a number, lower case, filled to a width. -/
def writeHex (width n : Nat) : List Char := padZeros width (Nat.toDigits 16 n)

/-- A number with leading zeros up to a width. -/
def writePadded (width n : Nat) : String := String.ofList (padZeros width (Nat.toDigits 10 n))

end Outreach.Decimal
