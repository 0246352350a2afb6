import Mathlib
import Outreach.Decimal.Quantity

/-!
# The range of doubles

A whole number has a nearest double as long as it is below a bound that lies halfway between the
largest double and the next power of two. The proof follows the rounding of whole numbers: the
leading 53 bits are kept, the bits behind them decide whether one is added, and the sum may carry
into the next exponent.
-/

namespace Outreach.Decimal

open Float.Model Float.Model.UnpackedFloat

/-- The least magnitude of the whole numbers beyond the largest double. -/
def doubleBound : Nat := 2 ^ 1024 - 2 ^ 970

theorem doubleBound_eq : doubleBound = (2 ^ 54 - 1) * 2 ^ 970 := by decide +kernel

/-! ## Rounding a mantissa -/

/-- A mantissa without its last digits, and what rounding must know of these. -/
def shortened (m k : Nat) : ExtendedMantissa := ExtendedMantissa.mk m false false >>> k

section Mantissa

variable (m k : Nat)

theorem shortened_mantissa : (shortened m k).mantissa = m / 2 ^ k := by
  induction k with
  | zero => exact (Nat.div_one m).symm
  | succ k ih =>
      change (shortened m k).mantissa / 2 = _
      rw [ih, Nat.div_div_eq_div_mul, Nat.pow_succ]

theorem shortened_succ_roundBit : (shortened m (k + 1)).roundBit = (m / 2 ^ k % 2 != 0) := by
  rw [← shortened_mantissa]
  rfl

theorem roundedMantissa_bounds (em : ExtendedMantissa) :
    em.mantissa ≤ em.roundedMantissa ∧ em.roundedMantissa ≤ em.mantissa + 1 := by
  rcases em with ⟨kept, _ | _, _ | _⟩ <;>
    simp only [ExtendedMantissa.roundedMantissa, ExtendedMantissa.accuracy,
      Accuracy.roundToNearestEven] <;>
    omega

/-- Less than half a unit is cut off without a trace. -/
theorem roundedMantissa_of_less {em : ExtendedMantissa} (less : em.roundBit = false) :
    em.roundedMantissa = em.mantissa := by
  rcases em with ⟨kept, _ | _, _ | _⟩
  · rfl
  · rfl
  · cases less
  · cases less

/-- An odd mantissa is rounded up as soon as half a unit was cut off. -/
theorem roundedMantissa_of_odd {em : ExtendedMantissa} (odd : em.mantissa % 2 = 1) :
    em.roundedMantissa = if em.roundBit then em.mantissa + 1 else em.mantissa := by
  rcases em with ⟨kept, _ | _, _ | _⟩ <;>
    simp_all [ExtendedMantissa.roundedMantissa, ExtendedMantissa.accuracy,
      Accuracy.roundToNearestEven]

end Mantissa

/-- A rounded mantissa of 53 bits stays, and one that has grown to 54 bits
carries into the exponent. -/
theorem shiftToTargetExponent_rounded {r : Nat} {e : Int} (bound : r ≤ 2 ^ 53) (least : -1074 ≤ e) :
    shiftToTargetExponent Format.binary64 r e .exact =
      if r < 2 ^ 53 then (⟨r, false, false⟩, e) else (⟨2 ^ 52, false, false⟩, e + 1) := by
  have target (m : Nat) : Format.binary64.targetExponent (totalExponent m e) =
      max (m.log2 + 1 + e - 53) (-1074) := rfl
  unfold shiftToTargetExponent
  rw [target]
  split
  · rename_i small
    have bits : r.log2 ≤ 52 := by
      by_cases zero : r = 0
      · subst zero
        decide
      · have := (Nat.log2_lt zero).mpr small
        omega
    have none : (max ((r.log2 : Int) + 1 + e - 53) (-1074) - e).toNat = 0 := by omega
    simp only [shiftToExponent, none, Int.natCast_zero, Int.add_zero]
    rfl
  · obtain rfl : r = 2 ^ 53 := by omega
    rw [Nat.log2_two_pow]
    have one : (max (((53 : Nat) : Int) + 1 + e - 53) (-1074) - e).toNat = 1 := by omega
    simp only [shiftToExponent, one, Int.natCast_one]
    rfl

/-! ## Overflow -/

theorem isInf_unpack_iff {bits : BitVec Format.binary64.numBits} :
    (UnpackedFloat.unpack Format.binary64 bits).isInf = true ↔
      unpackExponent bits = 2047#11 ∧ unpackMantissa bits = 0#52 := by
  unfold UnpackedFloat.unpack
  simp only
  split
  · rename_i full
    have full : unpackExponent bits = 2047#11 := full
    split <;> simp_all [UnpackedFloat.isInf]
  · rename_i partly
    have partly : unpackExponent bits ≠ 2047#11 := partly
    split
    · split <;> simp [UnpackedFloat.isInf, partly]
    · simp [UnpackedFloat.isInf, partly]

/-- A number does not fit into a double when its exponent is too large. -/
theorem isInf_pack_finite {sign : Sign} {m : Nat} {e : Int} (positive : 0 < m) :
    (Float.Model.pack (.finite sign m e positive)).isInf = true ↔ 972 ≤ e := by
  have biased : (e + Format.binary64.exponentBias +
      Format.binary64.mantissaBitsWithoutImplicit).toNat = (e + 1075).toNat := by
    change (e + 1023 + 52).toNat = _
    omega
  refine isInf_unpack_iff.trans ?_
  simp only [Float.Model.pack, UnpackedFloat.pack, biased]
  split
  · rename_i full
    have large : 972 ≤ e := by omega
    simp [packedInfinity, large]
  · rename_i partly
    have small : ¬972 ≤ e := by omega
    split
    · have below : BitVec.ofNat 11 (e + 1075).toNat ≠ 2047#11 := by
        intro same
        have sameNat := congrArg BitVec.toNat same
        rw [BitVec.toNat_ofNat, Nat.mod_eq_of_lt (by omega)] at sameNat
        simp at sameNat
        omega
      simp [below, small]
    · simp [small]

theorem isInf_pack_zero (sign : Sign) : (Float.Model.pack (.zero sign)).isInf = false := by
  cases sign <;> decide +kernel

/-- Rounding overflows when the exponent that it asks for is too large, or else when it is the
largest and the mantissa carries. -/
theorem isInf_roundWithAccuracy_iff {sign : Sign} {m r : Nat} {e t : Int}
    (target : t = max (m.log2 + 1 + e - 53) (-1074)) (reached : e ≤ t)
    (rounded : r = (shortened m (t - e).toNat).roundedMantissa) :
    (Float.Model.pack (roundWithAccuracy Format.binary64 sign m e .exact)).isInf = true ↔
      r ≠ 0 ∧ (972 ≤ t ∨ t = 971 ∧ r = 2 ^ 53) := by
  have bound : r ≤ 2 ^ 53 := by
    have cut := (roundedMantissa_bounds (shortened m (t - e).toNat)).2
    rw [← rounded, shortened_mantissa] at cut
    have few : m < 2 ^ (53 + (t - e).toNat) :=
      Nat.lt_of_lt_of_le Nat.lt_log2_self (Nat.pow_le_pow_right (by decide) (by omega))
    rw [Nat.pow_add] at few
    have cutBound : m / 2 ^ (t - e).toNat < 2 ^ 53 := Nat.div_lt_of_lt_mul (Nat.mul_comm .. ▸ few)
    omega
  have first : shiftToTargetExponent Format.binary64 m e .exact =
      (shortened m (t - e).toNat, t) := by
    have exponent : e + ((t - e).toNat : Int) = t := by omega
    unfold shiftToTargetExponent
    rw [show Format.binary64.targetExponent (totalExponent m e) = t from target.symm]
    simp only [shiftToExponent, exponent]
    rfl
  have carried := shiftToTargetExponent_rounded bound (by omega : -1074 ≤ t)
  unfold roundWithAccuracy
  by_cases small : r < 2 ^ 53
  · rw [if_pos small] at carried
    simp only [first, ← rounded, carried]
    split
    · rename_i zero
      simp [isInf_pack_zero, zero]
    · rename_i notZero
      rw [isInf_pack_finite]
      omega
  · rw [if_neg small] at carried
    simp only [first, ← rounded, carried]
    split
    · rename_i zero
      cases zero
    · rw [isInf_pack_finite]
      omega

/-! ## Whole numbers -/

theorem log2_mul_two_pow {n : Nat} (positive : n ≠ 0) (k : Nat) :
    (n * 2 ^ k).log2 = n.log2 + k := by
  have more : 0 < 2 ^ k := Nat.two_pow_pos k
  rw [Nat.log2_eq_iff (Nat.mul_ne_zero positive (Nat.ne_of_gt more))]
  constructor
  · rw [Nat.pow_add]
    exact Nat.mul_le_mul_right _ (Nat.log2_self_le positive)
  · rw [Nat.add_right_comm, Nat.pow_add]
    exact Nat.mul_lt_mul_of_pos_right Nat.lt_log2_self more

/-- The mantissa of a double has 53 bits, and its exponent is not beyond the largest. -/
theorem bounds_of_unpack {bits : BitVec Format.binary64.numBits} {sign : Sign} {m : Nat} {e : Int}
    {positive : 0 < m}
    (unpacked : UnpackedFloat.unpack Format.binary64 bits = .finite sign m e positive) :
    m < 2 ^ 53 ∧ e ≤ 971 := by
  unfold UnpackedFloat.unpack at unpacked
  simp only [show Format.binary64.exponentBias = 1023 from rfl] at unpacked
  have exponentBound : (unpackExponent bits).toNat < 2 ^ 11 := (unpackExponent bits).isLt
  split at unpacked
  · split at unpacked <;> cases unpacked
  · rename_i partly
    have below : (unpackExponent bits).toNat ≠ 2047 :=
      fun full => partly (BitVec.eq_of_toNat_eq full)
    split at unpacked
    · rename_i lowest
      have zero : (unpackExponent bits).toNat = 0 := congrArg BitVec.toNat lowest
      split at unpacked
      · cases unpacked
      · have mantissaBound : (unpackMantissa bits).toNat < 2 ^ 52 := (unpackMantissa bits).isLt
        cases unpacked
        omega
    · have mantissaBound : (1#1 ++ unpackMantissa bits).toNat < 2 ^ 53 :=
        (1#1 ++ unpackMantissa bits).isLt
      cases unpacked
      omega

/-- A double times one does not overflow. -/
theorem isInf_mul_one {x : Float} (finite : x.isInf = false) :
    (x * Float.ofBits 0x3FF0000000000000).isInf = false := by
  have product : x * Float.ofBits 0x3FF0000000000000 =
      .ofModel (.pack (.mul Format.binary64 x.toModel.unpack
      (.finite .positive (2 ^ 52) (-52) (by decide)))) := rfl
  rw [product]
  change x.toModel.unpack.isInf = false at finite
  cases unpacked : x.toModel.unpack with
  | notANumber => decide +kernel
  | infinity sign =>
      rw [unpacked] at finite
      cases finite
  | zero sign => exact isInf_pack_zero _
  | finite sign m e positive =>
      obtain ⟨mBound, eBound⟩ := bounds_of_unpack unpacked
      have notZero : m ≠ 0 := Nat.ne_of_gt positive
      have digits : (m * 2 ^ 52).log2 = m.log2 + 52 := log2_mul_two_pow notZero 52
      have few : m.log2 < 53 := (Nat.log2_lt notZero).mpr mBound
      rw [Bool.eq_false_iff]
      intro overflows
      obtain ⟨_, beyond | ⟨top, carried⟩⟩ := (isInf_roundWithAccuracy_iff
        (t := max (m.log2 + e - 52) (-1074)) (by omega) (by omega) rfl).mp overflows
      · omega
      · -- At the largest exponent the digits of the one are cut off again.
        have places : (max ((m.log2 : Int) + e - 52) (-1074) - (e + -52)).toNat = 51 + 1 := by omega
        rw [places] at carried
        have nothing : (shortened (m * 2 ^ 52) (51 + 1)).roundBit = false := by
          have cut : m * 2 ^ 52 / 2 ^ 51 = m * 2 := by omega
          rw [shortened_succ_roundBit, cut, Nat.mul_mod_left]
          rfl
        rw [roundedMantissa_of_less nothing, shortened_mantissa] at carried
        omega

theorem isInf_ofNat_of_small {n : Nat} (small : n < 2 ^ 53) : (Float.ofNat n).isInf = false := by
  change (Float.ofScientific n false 0).isInf = false
  unfold Float.ofScientific
  rw [dif_pos ⟨small, by decide⟩]
  apply isInf_mul_one
  change (Float.Model.pack (UnpackedFloat.ofNat Format.binary64 n.toUInt64.toNat)).isInf = false
  have same : n.toUInt64.toNat = n := UInt64.toNat_ofNat_of_lt (by change n < 2 ^ 64; omega)
  rw [same]
  by_cases zero : n = 0
  · subst zero
    decide +kernel
  · have few : n.log2 < 53 := (Nat.log2_lt zero).mpr small
    have digits := log2_mul_two_pow zero (52 - n.log2)
    have places : (0 - max ((n.log2 : Int) + 1 + 0 - 53) (-1074)).toNat = 52 - n.log2 := by omega
    have rounded : UnpackedFloat.ofNat Format.binary64 n =
        roundWithAccuracy Format.binary64 .positive
        (n * 2 ^ (52 - n.log2)) (0 - (52 - n.log2 : Nat)) .exact := by
      have ordered : compare (n : Int) 0 = .gt := Int.compare_eq_gt.mpr (by omega)
      have target : Format.binary64.targetExponent (totalExponent n 0) =
        max ((n.log2 : Int) + 1 + 0 - 53) (-1074) := rfl
      simp only [UnpackedFloat.ofNat, UnpackedFloat.ofInt, UnpackedFloat.normalize, ordered,
        UnpackedFloat.round, decreaseExponent, target, places, Int.toNat_natCast, Nat.shiftLeft_eq]
    rw [rounded, Bool.eq_false_iff]
    intro overflows
    obtain ⟨_, beyond⟩ := (isInf_roundWithAccuracy_iff
      (t := (n.log2 : Int) - 52) (by omega) (by omega) rfl).mp overflows
    omega

/-- A number with few binary digits is below one that starts with 54 ones. -/
theorem lt_of_log2_lt {n k : Nat} (positive : n ≠ 0) (less : n.log2 < k + 53) :
    n < (2 ^ 54 - 1) * 2 ^ k := by
  have few := (Nat.log2_lt positive).mp less
  have unit := Nat.two_pow_pos k
  rw [Nat.pow_add] at few
  omega

/-- A number with many binary digits is not below one that starts with 54 ones. -/
theorem le_of_lt_log2 {n k : Nat} (positive : n ≠ 0) (more : k + 53 < n.log2) :
    (2 ^ 54 - 1) * 2 ^ k ≤ n := by
  have many : 2 ^ (k + 54) ≤ n := (Nat.le_log2 positive).mp more
  rw [Nat.pow_add] at many
  omega

/-- Among the numbers with a given count of binary digits, those carry whose
first 54 digits are ones. -/
theorem roundedMantissa_carries_iff {n k : Nat} (digits : n.log2 = k + 53) :
    (shortened (n * 2 ^ 53) (k + 53 + 1)).roundedMantissa = 2 ^ 53 ↔ (2 ^ 54 - 1) * 2 ^ k ≤ n := by
  have below : n / 2 ^ k < 2 ^ 54 := by
    apply Nat.div_lt_of_lt_mul
    have few : n < 2 ^ (n.log2 + 1) := Nat.lt_log2_self
    rwa [digits, Nat.add_assoc, Nat.pow_add] at few
  have cut : n * 2 ^ 53 / 2 ^ (k + 53) = n / 2 ^ k := by
    rw [Nat.pow_add, Nat.mul_div_mul_right n (2 ^ k) (Nat.two_pow_pos 53)]
  have kept := shortened_mantissa (n * 2 ^ 53) (k + 53 + 1)
  rw [Nat.pow_succ 2 (k + 53), ← Nat.div_div_eq_div_mul, cut] at kept
  have half := shortened_succ_roundBit (n * 2 ^ 53) (k + 53)
  rw [cut] at half
  rw [← Nat.le_div_iff_mul_le (Nat.two_pow_pos k)]
  by_cases top : n / 2 ^ k / 2 = 2 ^ 53 - 1
  · rw [roundedMantissa_of_odd (kept ▸ top ▸ by decide), kept, half]
    rcases Nat.mod_two_eq_zero_or_one (n / 2 ^ k) with zero | one
    · simp only [zero, bne_self_eq_false, Bool.false_eq_true, if_false]
      omega
    · simp only [one, Nat.one_ne_zero, bne_iff_ne, ne_eq, not_false_eq_true, if_true]
      omega
  · have bounds := roundedMantissa_bounds (shortened (n * 2 ^ 53) (k + 53 + 1))
    rw [kept] at bounds
    omega

/-- A large number is rounded from as many binary digits as it has. -/
theorem isInf_ofNat_of_large {n : Nat} (large : 2 ^ 53 ≤ n) :
    (Float.ofNat n).isInf = true ↔ doubleBound ≤ n := by
  have positive : n ≠ 0 := by omega
  have slow : Float.ofNat n =
      .ofModel (Float.Model.pack (roundWithAccuracy Format.binary64 .positive (n * 2 ^ 53) (-53)
        .exact)) := by
    have notSmall : ¬(n < 2 ^ 53 ∧ 0 ≤ 22) := by omega
    have notBeyond : ¬(Int.ofNat 0 > 2 ^ Format.binary64.exponentBits) := by decide
    have notBelow : ¬(Int.ofNat 0 < -((2 ^ Format.binary64.exponentBits : Int) + n.log2)) := by
      simp only [Int.ofNat_eq_natCast]
      omega
    change Float.ofScientific n false 0 = _
    unfold Float.ofScientific
    rw [dif_neg notSmall]
    simp only [Float.Model.ofScientific, UnpackedFloat.ofScientific, Bool.false_eq_true, if_false]
    rw [dif_neg positive, if_neg notBeyond, if_neg notBelow, if_pos (by decide)]
    change Float.ofModel
      (.pack (roundWithAccuracy Format.binary64 .positive (n <<< 53 * 1) (-53) .exact)) = _
    rw [Nat.mul_one, Nat.shiftLeft_eq]
  have digits : (n * 2 ^ 53).log2 = n.log2 + 53 := log2_mul_two_pow positive 53
  have places : ((n.log2 : Int) - 52 - -53).toNat = n.log2 + 1 := by omega
  have notZero : (shortened (n * 2 ^ 53) (n.log2 + 1)).roundedMantissa ≠ 0 := by
    have kept := (roundedMantissa_bounds (shortened (n * 2 ^ 53) (n.log2 + 1))).1
    rw [shortened_mantissa] at kept
    have least : 2 ^ 52 ≤ n * 2 ^ 53 / 2 ^ (n.log2 + 1) := by
      rw [Nat.le_div_iff_mul_le (Nat.two_pow_pos _), Nat.mul_comm, ← Nat.pow_add,
        Nat.add_assoc, Nat.pow_add]
      exact Nat.mul_le_mul_right _ (Nat.log2_self_le positive)
    omega
  rw [slow]
  refine (isInf_roundWithAccuracy_iff (t := n.log2 - 52) (by omega) (by omega) rfl).trans ?_
  rw [places, doubleBound_eq]
  rcases Nat.lt_trichotomy n.log2 (970 + 53) with less | equal | more
  · have few := lt_of_log2_lt positive less
    omega
  · have carries := roundedMantissa_carries_iff equal
    rw [equal] at notZero ⊢
    omega
  · have many := le_of_lt_log2 positive more
    omega

theorem isInf_neg (x : Float) : x.neg.isInf = x.isInf := by
  change (Float.Model.pack x.toModel.unpack.neg).isInf = x.toModel.unpack.isInf
  cases unpacked : x.toModel.unpack with
  | notANumber => decide +kernel
  | infinity sign => cases sign <;> decide +kernel
  | zero sign => exact isInf_pack_zero _
  | finite sign m e positive =>
      have bound := (bounds_of_unpack unpacked).2
      rw [Bool.eq_iff_iff]
      refine (isInf_pack_finite positive).trans ?_
      simp only [UnpackedFloat.isInf, Bool.false_eq_true, iff_false]
      omega

theorem isInf_ofNat_iff {n : Nat} : (Float.ofNat n).isInf = true ↔ doubleBound ≤ n := by
  by_cases small : n < 2 ^ 53
  · have below := lt_of_log2_lt (n := 2 ^ 53) (k := 970) (by decide) (by decide)
    rw [isInf_ofNat_of_small small, doubleBound_eq]
    simp only [Bool.false_eq_true, false_iff]
    omega
  · exact isInf_ofNat_of_large (by omega)

theorem isInf_ofInt_iff {i : Int} : (Float.ofInt i).isInf = true ↔ doubleBound ≤ i.natAbs := by
  cases i with
  | ofNat n => exact isInf_ofNat_iff
  | negSucc n =>
      change (Float.ofNat n.succ).neg.isInf = true ↔ _
      rw [isInf_neg]
      exact isInf_ofNat_iff

/-- A whole number has no double near it exactly when it is halfway from the largest double to the
next power of two, or further away from zero. -/
theorem floatOfInt?_eq_none_iff {i : Int} : floatOfInt? i = none ↔ doubleBound ≤ i.natAbs := by
  rw [← isInf_ofInt_iff, floatOfInt?]
  simp

end Outreach.Decimal
