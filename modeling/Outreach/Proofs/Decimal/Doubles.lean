import Mathlib.Algebra.Order.Ring.Int
import Mathlib.Tactic.Ring
import Outreach.Decimal.Quantity

/-!
# Doubles up to the sign of zero

Doubles that are equal as numbers are the same double, unless both are zero. A zero that is added to
a number makes no difference, whatever its sign, except to the sign of another zero. So sums agree
up to the sign of zero when what they start from does.
-/

namespace Outreach.Decimal

/-- A double is told by its bits. -/
theorem double_ext {x y : Float} (sameBits : x.toBits = y.toBits) : x = y := by
  obtain ⟨bits, valid⟩ := x
  obtain ⟨otherBits, otherValid⟩ := y
  obtain rfl : bits = otherBits := sameBits
  rfl

/-! ## Zeros -/

/-- A zero, of either sign. -/
def IsZero (x : Float) : Prop := x = 0.0 ∨ x = -0.0

theorem isZero_of_bits {x : Float} (bits : x.toBits.toNat = 0 ∨ x.toBits.toNat = 2 ^ 63) :
    IsZero x := by
  rcases bits with positive | negative
  · left
    apply double_ext
    apply UInt64.toNat_inj.mp
    rw [positive]
    rfl
  · right
    apply double_ext
    apply UInt64.toNat_inj.mp
    rw [negative]
    rfl

theorem isZero_of_fields {x : Float} (biased : x.toBits.toNat / 2 ^ 52 % 2 ^ 11 = 0)
    (fraction : x.toBits.toNat % 2 ^ 52 = 0) : IsZero x := by
  apply isZero_of_bits
  have bound := x.toBits.toNat_lt
  omega

open Float.Model in
theorem isZero_of_unpack {x : Float} {sign : UnpackedFloat.Sign}
    (unpacked : x.toModel.unpack = .zero sign) : IsZero x := by
  unfold Float.Model.unpack UnpackedFloat.unpack at unpacked
  dsimp only at unpacked
  by_cases full : @UnpackedFloat.unpackExponent .binary64 x.toModel.toBits.toBitVec = -1#11
  · rw [if_pos full] at unpacked
    split at unpacked <;> cases unpacked
  · rw [if_neg full] at unpacked
    by_cases exponent : @UnpackedFloat.unpackExponent .binary64 x.toModel.toBits.toBitVec = 0#11
    · rw [if_pos exponent] at unpacked
      by_cases mantissa : @UnpackedFloat.unpackMantissa .binary64 x.toModel.toBits.toBitVec = 0#52
      · have exponentNat := congrArg BitVec.toNat exponent
        have mantissaNat := congrArg BitVec.toNat mantissa
        simp [UnpackedFloat.unpackExponent, UnpackedFloat.unpackMantissa, Nat.shiftRight_eq_div_pow]
          at exponentNat mantissaNat
        exact isZero_of_fields exponentNat mantissaNat
      · rw [dif_neg mantissa] at unpacked
        cases unpacked
    · rw [if_neg exponent] at unpacked
      cases unpacked

open Float.Model in
theorem beq_zero_iff {x : Float} : (x == 0.0) = true ↔ IsZero x := by
  constructor
  · intro equal
    have compared : (x.toModel.unpack.compare (.zero .positive) == some .eq) = true := equal
    cases unpacked : x.toModel.unpack with
    | zero sign => exact isZero_of_unpack unpacked
    | notANumber =>
        rw [unpacked] at compared
        cases compared
    | infinity sign =>
        rw [unpacked] at compared
        cases sign <;> cases compared
    | finite sign mantissa exponent positive =>
        rw [unpacked] at compared
        cases sign <;> cases compared
  · rintro (rfl | rfl) <;> rfl

open Float.Model in
theorem IsZero.unpack_eq {x : Float} (zero : IsZero x) : ∃ sign, x.toModel.unpack = .zero sign := by
  rcases zero with rfl | rfl
  · exact ⟨.positive, rfl⟩
  · exact ⟨.negative, rfl⟩

open Float.Model in
/-- The sign of a zero makes no difference to a sum, except to the sign of another zero. -/
theorem IsZero.add_eq {x y : Float} (zero : IsZero x) (other : IsZero y) (a : Float) :
    x + a = y + a ∨ IsZero (x + a) ∧ IsZero (y + a) := by
  have sum (z : Float) : z + a = .ofModel
      (.pack (.add Format.binary64 z.toModel.unpack a.toModel.unpack)) := rfl
  obtain ⟨sign, xEq⟩ := zero.unpack_eq
  obtain ⟨otherSign, yEq⟩ := other.unpack_eq
  rw [sum x, sum y, xEq, yEq]
  cases a.toModel.unpack with
  | zero aSign =>
      right
      have sumOfZeros (s : UnpackedFloat.Sign) : IsZero (.ofModel
          (.pack (.add Format.binary64 (.zero s) (.zero aSign)))) := by
        cases s <;> cases aSign
        · exact Or.inr rfl
        · exact Or.inl rfl
        · exact Or.inl rfl
        · exact Or.inl rfl
      exact ⟨sumOfZeros sign, sumOfZeros otherSign⟩
  | notANumber | infinity aSign | finite aSign mantissa exponent positive => exact Or.inl rfl

/-! ## Equal quantities -/

/-- The magnitude of a double has a mantissa of at most 53 bits, and of exactly 53 unless its
exponent is the least one. -/
theorem doubleMagnitude_normal (biased fraction : Nat) (bound : fraction < 2 ^ 52) :
    (doubleMagnitude biased fraction).1 < 2 ^ 53 ∧ -1074 ≤ (doubleMagnitude biased fraction).2 ∧
      (-1074 < (doubleMagnitude biased fraction).2 →
        2 ^ 52 ≤ (doubleMagnitude biased fraction).1) := by
  unfold doubleMagnitude
  split <;> simp only <;> omega

theorem doubleMagnitude_inj {biased fraction otherBiased otherFraction : Nat}
    (bound : fraction < 2 ^ 52) (otherBound : otherFraction < 2 ^ 52)
    (same : doubleMagnitude biased fraction = doubleMagnitude otherBiased otherFraction) :
    biased = otherBiased ∧ fraction = otherFraction := by
  unfold doubleMagnitude at same
  split at same <;> split at same <;> simp only [Prod.mk.injEq] at same <;> omega

/-- A scaled mantissa of 53 bits is out of the reach of one with a smaller exponent. -/
theorem scaled_ne_of_lt {m n : Nat} {d e : Int} (less : d < e) (mBound : m < 2 ^ 53)
    (normal : 2 ^ 52 ≤ n) : m * 2 ^ (d - min d e).toNat ≠ n * 2 ^ (e - min d e).toNat := by
  have zero : (d - min d e).toNat = 0 := by omega
  obtain ⟨k, kEq⟩ : ∃ k, (e - min d e).toNat = k + 1 := ⟨(e - min d e).toNat - 1, by omega⟩
  have positive : 0 < 2 ^ k := Nat.two_pow_pos k
  rw [zero, kEq, Nat.pow_zero, Nat.mul_one, Nat.pow_succ]
  have large : 2 ^ 52 * (1 * 2) ≤ n * (2 ^ k * 2) :=
    Nat.mul_le_mul normal (Nat.mul_le_mul_right 2 positive)
  omega

/-- Two magnitudes that are equal as numbers are the same. -/
theorem eq_of_scaled_eq {m n : Nat} {d e : Int} (mBound : m < 2 ^ 53) (nBound : n < 2 ^ 53)
    (mNormal : -1074 ≤ d ∧ (-1074 < d → 2 ^ 52 ≤ m))
    (nNormal : -1074 ≤ e ∧ (-1074 < e → 2 ^ 52 ≤ n))
    (equal : m * 2 ^ (d - min d e).toNat = n * 2 ^ (e - min d e).toNat) : m = n ∧ d = e := by
  rcases Int.lt_trichotomy d e with less | rfl | greater
  · exact absurd equal (scaled_ne_of_lt less mBound (nNormal.2 (by omega)))
  · simpa using equal
  · rw [Int.min_comm] at equal
    exact absurd equal.symm (scaled_ne_of_lt greater nBound (mNormal.2 (by omega)))

/-- The sign and the magnitude of a double that is equal to a number. -/
def signed (negative : Bool) (m : Nat) : Int := if negative then -m else m

theorem natAbs_signed (negative : Bool) (m : Nat) : (signed negative m).natAbs = m := by
  unfold signed
  split <;> omega

theorem signed_inj {negative other : Bool} {m : Nat} (same : signed negative m = signed other m) :
    negative = other ∨ m = 0 := by
  cases negative <;> cases other <;> simp [signed] at same ⊢ <;> omega

theorem compareDyadic_eq {negative other : Bool} {m n : Nat} {d e : Int} (mBound : m < 2 ^ 53)
    (nBound : n < 2 ^ 53) (mNormal : -1074 ≤ d ∧ (-1074 < d → 2 ^ 52 ≤ m))
    (nNormal : -1074 ≤ e ∧ (-1074 < e → 2 ^ 52 ≤ n))
    (equal : Quantity.compareDyadic (signed negative m) d (signed other n) e = .eq) :
    m = n ∧ d = e ∧ (negative = other ∨ m = 0) := by
  have products := compare_eq_iff_eq.mp equal
  have magnitudes := congrArg Int.natAbs products
  simp only [Int.natAbs_mul, natAbs_signed, Int.natAbs_pow] at magnitudes
  obtain ⟨rfl, rfl⟩ := eq_of_scaled_eq mBound nBound mNormal nNormal magnitudes
  refine ⟨rfl, rfl, signed_inj ?_⟩
  simpa using products

/-- The three fields tell a double. -/
theorem eq_of_fields {x y : Float} (same : doubleFields x = doubleFields y) : x = y := by
  have xBound := x.toBits.toNat_lt
  have yBound := y.toBits.toNat_lt
  simp only [doubleFields, Prod.mk.injEq] at same
  obtain ⟨signs, exponents, fractions⟩ := same
  rw [Bool.eq_iff_iff, beq_iff_eq, beq_iff_eq] at signs
  apply double_ext
  apply UInt64.toNat_inj.mp
  omega

/-- What a double is, by its fields. -/
inductive Reads (x : Float) : Quantity → Prop
  | undefined : Reads x .undefined
  | infinite {negative : Bool} (fields : doubleFields x = (negative, 2047, 0)) :
      Reads x (.infinite negative)
  | dyadic {negative : Bool} {biased fraction : Nat}
      (fields : doubleFields x = (negative, biased, fraction)) (bound : fraction < 2 ^ 52) :
      Reads x (.dyadic (signed negative (doubleMagnitude biased fraction).1)
        (doubleMagnitude biased fraction).2)

theorem reads_ofFloat (x : Float) : Reads x (Quantity.ofFloat x) := by
  rcases fields : doubleFields x with ⟨negative, biased, fraction⟩
  simp only [Quantity.ofFloat, fields]
  by_cases top : biased = 2047
  · subst top
    rw [if_pos rfl]
    split
    · rename_i empty
      exact .infinite (empty ▸ fields)
    · exact .undefined
  · rw [if_neg top]
    have bound : fraction < 2 ^ 52 := by
      simp only [doubleFields, Prod.mk.injEq] at fields
      omega
    exact .dyadic fields bound

/-- Doubles of equal quantity are the same, or both are zero. -/
theorem eq_or_isZero {x y : Float}
    (equal : (Quantity.ofFloat x).compare? (Quantity.ofFloat y) = some .eq) :
    x = y ∨ IsZero x ∧ IsZero y := by
  have xReads := reads_ofFloat x
  have yReads := reads_ofFloat y
  generalize Quantity.ofFloat x = p at *
  generalize Quantity.ofFloat y = q at *
  cases xReads with
  | undefined => simp [Quantity.compare?] at equal
  | @infinite negative xFields =>
      cases yReads with
      | @infinite other yFields =>
          left
          apply eq_of_fields
          cases negative <;> cases other <;> simp_all [Quantity.compare?]
      | undefined | dyadic => cases negative <;> simp [Quantity.compare?] at equal
  | @dyadic negative biased fraction xFields xBound =>
      cases yReads with
      | undefined => simp [Quantity.compare?] at equal
      | @infinite other => cases other <;> simp [Quantity.compare?] at equal
      | @dyadic other otherBiased otherFraction yFields yBound =>
          obtain ⟨xSmall, xNormal⟩ := doubleMagnitude_normal biased fraction xBound
          obtain ⟨ySmall, yNormal⟩ := doubleMagnitude_normal otherBiased otherFraction yBound
          obtain ⟨mantissas, exponents, signs⟩ :=
            compareDyadic_eq xSmall ySmall xNormal yNormal (Option.some.inj equal)
          obtain ⟨rfl, rfl⟩ := doubleMagnitude_inj xBound yBound (Prod.ext mantissas exponents)
          rcases signs with rfl | zero
          · exact Or.inl (eq_of_fields (xFields.trans yFields.symm))
          · -- Only a zero has a mantissa that is zero.
            have least : biased = 0 ∧ fraction = 0 := by
              unfold doubleMagnitude at zero
              split at zero <;> simp only at zero <;> omega
            obtain ⟨rfl, rfl⟩ := least
            simp only [doubleFields, Prod.mk.injEq] at xFields yFields
            exact Or.inr ⟨isZero_of_fields xFields.2.1 xFields.2.2,
              isZero_of_fields yFields.2.1 yFields.2.2⟩

end Outreach.Decimal
