import Outreach.Proofs.Decimal.Line

/-!
# Doubles that are whole numbers

A whole number of up to 53 binary digits is a double, and the sum of two doubles that are whole
numbers is the exact sum as long as that has no more digits: rounding only ever cuts off zeros.
-/

namespace Outreach.Decimal

open Float.Model Float.Model.UnpackedFloat

/-- The number that a double is, if it is finite. -/
def amount? : UnpackedFloat → Option ℚ
  | .zero _ => some 0
  | .finite sign m e _ => some (sign.apply m * 2 ^ e)
  | .infinity _ => none
  | .notANumber => none

/-! ## Rounding -/

/-- Cutting off zeros changes nothing. -/
theorem roundedMantissa_shortened (r k : Nat) : (shortened (r * 2 ^ k) k).roundedMantissa = r := by
  cases k with
  | zero => rw [Nat.pow_zero, Nat.mul_one]; rfl
  | succ k =>
      have nothing : (shortened (r * 2 ^ (k + 1)) (k + 1)).roundBit = false := by
        have cut : r * 2 ^ (k + 1) / 2 ^ k = r * 2 := by
          rw [Nat.pow_succ', ← Nat.mul_assoc, Nat.mul_div_cancel _ (Nat.two_pow_pos k)]
        rw [shortened_succ_roundBit, cut, Nat.mul_mod_left]
        rfl
      rw [roundedMantissa_of_less nothing, shortened_mantissa,
        Nat.mul_div_cancel _ (Nat.two_pow_pos _)]

/-- A mantissa of 53 digits with zeros behind it is only rid of the zeros. -/
theorem roundWithAccuracy_exact {r : Nat} {e : Int} (normal : 2 ^ 52 ≤ r ∧ r < 2 ^ 53) (k : Nat)
    (least : -1074 ≤ e + k) (sign : Sign) :
    roundWithAccuracy Format.binary64 sign (r * 2 ^ k) e .exact =
      .finite sign r (e + k) (Nat.lt_of_lt_of_le (by decide) normal.1) := by
  have positive : r ≠ 0 := by omega
  have digits : (r * 2 ^ k).log2 = 52 + k := by
    rw [log2_mul_two_pow positive, (Nat.log2_eq_iff positive).mpr normal]
  have first : shiftToTargetExponent Format.binary64 (r * 2 ^ k) e .exact =
      (shortened (r * 2 ^ k) k, e + k) := by
    have target : Format.binary64.targetExponent (totalExponent (r * 2 ^ k) e) = e + k := by
      change max (((r * 2 ^ k).log2 : Int) + 1 + e - 53) (-1074) = e + k
      omega
    have places : (e + k - e).toNat = k := by omega
    unfold shiftToTargetExponent
    rw [target]
    simp only [shiftToExponent, places]
    rfl
  have second := shiftToTargetExponent_rounded (Nat.le_of_lt normal.2) least
  rw [if_pos normal.2] at second
  unfold roundWithAccuracy
  simp only [first, roundedMantissa_shortened, second, positive, dite_false]

/-- A whole number of up to 53 digits as a mantissa of 53 digits with an exponent. -/
theorem exists_mantissa {n : Nat} (positive : n ≠ 0) (few : n ≤ 2 ^ 53) : ∃ (r : Nat) (t : Int),
    (2 ^ 52 ≤ r ∧ r < 2 ^ 53) ∧ (-52 ≤ t ∧ t ≤ 1) ∧ (r : ℚ) * 2 ^ t = n := by
  rcases Nat.lt_or_eq_of_le few with less | rfl
  · have digits : n.log2 < 53 := (Nat.log2_lt positive).mpr less
    have log : (n * 2 ^ (52 - n.log2)).log2 = 52 := by
      rw [log2_mul_two_pow positive]
      omega
    have bounds := (Nat.log2_eq_iff (Nat.mul_ne_zero positive (Nat.two_pow_pos _).ne')).mp log
    refine ⟨n * 2 ^ (52 - n.log2), -(52 - n.log2 : Nat), bounds, by omega, ?_⟩
    rw [Nat.cast_mul, Nat.cast_pow, mul_assoc, zpow_neg, zpow_natCast, Nat.cast_ofNat,
      mul_inv_cancel₀ (pow_ne_zero _ (by norm_num)), mul_one]
  · exact ⟨2 ^ 52, 1, by decide, by decide, by norm_num⟩

/-- Rounding leaves a whole number of up to 53 digits as it is. -/
theorem round_exact {m n : Nat} {e : Int} (positive : n ≠ 0) (few : n ≤ 2 ^ 53)
    (whole : (m : ℚ) * 2 ^ e = n) (sign : Sign) : ∃ (r : Nat) (t : Int) (notZero : 0 < r),
      UnpackedFloat.round Format.binary64 sign m e = .finite sign r t notZero ∧
      (2 ^ 52 ≤ r ∧ r < 2 ^ 53) ∧ (-52 ≤ t ∧ t ≤ 1) ∧ (r : ℚ) * 2 ^ t = n := by
  obtain ⟨r, t, normal, near, value⟩ := exists_mantissa positive few
  have notZero : r ≠ 0 := by omega
  have log : r.log2 = 52 := (Nat.log2_eq_iff notZero).mpr normal
  have same : (m : ℚ) * 2 ^ e = r * 2 ^ t := whole.trans value.symm
  refine ⟨r, t, Nat.pos_of_ne_zero notZero, ?_, normal, near, value⟩
  have target (log2Eq : (m.log2 : Int) + e = 52 + t) :
      Format.binary64.targetExponent (totalExponent m e) = t := by
    change max ((m.log2 : Int) + 1 + e - 53) (-1074) = t
    omega
  rcases Int.le_total e t with below | above
  · -- The mantissa has zeros to lose.
    obtain ⟨k, rfl⟩ := Int.le.dest below
    have mEq : m = r * 2 ^ k := by
      rw [zpow_add₀ (by norm_num), mul_comm (2 ^ e), ← mul_assoc,
        mul_left_inj' (zpow_ne_zero e (by norm_num)), zpow_natCast] at same
      exact_mod_cast same
    have digits := log2_mul_two_pow notZero k
    rw [← mEq, log] at digits
    have places : (e - (e + k)).toNat = 0 := by omega
    have exact' := roundWithAccuracy_exact normal k (e := e) (by omega) sign
    rw [← mEq] at exact'
    simp only [UnpackedFloat.round, target (by omega), decreaseExponent, places, Nat.shiftLeft_zero,
      Int.natCast_zero, Int.sub_zero]
    exact exact'
  · -- The mantissa needs zeros.
    obtain ⟨k, rfl⟩ := Int.le.dest above
    have rEq : r = m * 2 ^ k := by
      rw [zpow_add₀ (by norm_num), mul_comm (2 ^ t), ← mul_assoc,
        mul_left_inj' (zpow_ne_zero t (by norm_num)), zpow_natCast] at same
      exact_mod_cast same.symm
    have mPositive : m ≠ 0 := by
      rintro rfl
      simp at rEq
      omega
    have digits := log2_mul_two_pow mPositive k
    rw [← rEq, log] at digits
    have places : (t + k - t).toNat = k := by omega
    have exponent : t + k - k = t := by omega
    have exact' := roundWithAccuracy_exact normal 0 (e := t) (by omega) sign
    rw [Nat.pow_zero, Nat.mul_one] at exact'
    simp only [UnpackedFloat.round, target (by omega), decreaseExponent, places,
      Nat.shiftLeft_eq, exponent, ← rEq, exact']
    simp

/-! ## Packing -/

theorem unpackSign_packComponents (sign : Sign) (exponent : BitVec 11) (mantissa : BitVec 52) :
    unpackSign (packComponents Format.binary64 sign exponent mantissa) = sign.toBitVec := by
  ext i small
  obtain rfl : i = 0 := by omega
  simp only [unpackSign, packComponents, BitVec.extractLsb]
  rw [BitVec.getElem_cast, BitVec.getElem_extractLsb', BitVec.getLsbD_append, BitVec.getLsbD_append]
  simp [BitVec.getLsbD_eq_getElem]

/-- A normal double is read from its bits as it was written. -/
theorem unpack_pack {sign : Sign} {r : Nat} {t : Int} (normal : 2 ^ 52 ≤ r ∧ r < 2 ^ 53)
    (near : -1074 ≤ t ∧ t ≤ 971) (notZero : 0 < r) :
    (Float.Model.pack (.finite sign r t notZero)).unpack = .finite sign r t notZero := by
  have log : r.log2 = 52 := (Nat.log2_eq_iff (Nat.ne_of_gt notZero)).mpr normal
  have biased : (t + Format.binary64.exponentBias +
      Format.binary64.mantissaBitsWithoutImplicit).toNat = (t + 1075).toNat := by
    change (t + 1023 + 52).toNat = _
    omega
  have finite : ¬2 ^ Format.binary64.exponentBits ≤ (t + 1075).toNat + 1 := by
    change ¬2 ^ 11 ≤ _
    omega
  have exponent : (BitVec.ofNat 11 (t + 1075).toNat).toNat = (t + 1075).toNat := by
    rw [BitVec.toNat_ofNat, Nat.mod_eq_of_lt (by omega)]
  have notFull : BitVec.ofNat 11 (t + 1075).toNat ≠ -1#11 := by
    intro full
    have fullNat := congrArg BitVec.toNat full
    rw [exponent] at fullNat
    simp at fullNat
    omega
  have notLeast : BitVec.ofNat 11 (t + 1075).toNat ≠ 0#11 := by
    intro least
    have leastNat := congrArg BitVec.toNat least
    rw [exponent] at leastNat
    simp at leastNat
    omega
  have mantissa : (1#1 ++ BitVec.ofNat 52 r).toNat = r := by
    rw [BitVec.toNat_append, ← Nat.shiftLeft_add_eq_or_of_lt (BitVec.isLt _)]
    simp only [BitVec.toNat_ofNat, Nat.shiftLeft_eq]
    omega
  have signBack : Sign.ofBitVec sign.toBitVec = sign := by cases sign <;> rfl
  have packed : UnpackedFloat.pack Format.binary64 (.finite sign r t notZero) =
      packComponents Format.binary64 sign (BitVec.ofNat 11 (t + 1075).toNat)
      (BitVec.ofNat 52 r) := by
    simp only [UnpackedFloat.pack, biased, if_neg finite, log]
    rfl
  have bits : (Float.Model.pack (.finite sign r t notZero)).unpack =
      UnpackedFloat.unpack Format.binary64
        (UnpackedFloat.pack Format.binary64 (.finite sign r t notZero)) := rfl
  rw [bits, packed]
  unfold UnpackedFloat.unpack
  simp only [unpackExponent_packComponents, unpackMantissa_packComponents,
    unpackSign_packComponents, signBack]
  rw [if_neg notFull, if_neg notLeast]
  congr 1
  rw [exponent]
  change ((t + 1075).toNat : Int) - (1023 + 52) = t
  omega

/-! ## Whole numbers -/

/-- The fields of a double as its bits are unpacked. -/
theorem doubleFields_eq (x : Float) : doubleFields x =
    (decide (@unpackSign Format.binary64 x.toBits.toBitVec = 1#1),
      (@unpackExponent Format.binary64 x.toBits.toBitVec).toNat,
      (@unpackMantissa Format.binary64 x.toBits.toBitVec).toNat) := by
  have bound := x.toBits.toNat_lt
  have exponent : (@unpackExponent Format.binary64 x.toBits.toBitVec).toNat =
      x.toBits.toNat / 2 ^ 52 % 2 ^ 11 := by
    simp [unpackExponent, Nat.shiftRight_eq_div_pow]
  have mantissa : (@unpackMantissa Format.binary64 x.toBits.toBitVec).toNat =
      x.toBits.toNat % 2 ^ 52 := by
    simp [unpackMantissa]
  have sign : (@unpackSign Format.binary64 x.toBits.toBitVec).toNat = x.toBits.toNat / 2 ^ 63 := by
    simp [unpackSign, Nat.shiftRight_eq_div_pow]
    omega
  have negative : (x.toBits.toNat / 2 ^ 63 == 1) =
      decide (@unpackSign Format.binary64 x.toBits.toBitVec = 1#1) := by
    rw [Bool.eq_iff_iff, beq_iff_eq, decide_eq_true_iff, ← sign, ← BitVec.toNat_inj]
    rfl
  rw [doubleFields, exponent, mantissa, ← negative]

/-- What the bits of a double amount to. -/
theorem amount?_unpack (bits : BitVec 64) : amount? (UnpackedFloat.unpack Format.binary64 bits) =
    if (@unpackExponent Format.binary64 bits).toNat = 2047 then none
    else
      let magnitude := doubleMagnitude (@unpackExponent Format.binary64 bits).toNat
        (@unpackMantissa Format.binary64 bits).toNat
      some (((Sign.ofBitVec (@unpackSign Format.binary64 bits)).apply magnitude.1 : ℚ) *
        2 ^ magnitude.2) := by
  have bias : (Format.binary64.exponentBias : Int) + Format.binary64.mantissaBitsWithoutImplicit =
      1075 := rfl
  unfold UnpackedFloat.unpack
  simp only [bias]
  split
  · rename_i full
    have top : (@unpackExponent Format.binary64 bits).toNat = 2047 := congrArg BitVec.toNat full
    rw [if_pos top]
    split <;> rfl
  · rename_i partly
    have below : (@unpackExponent Format.binary64 bits).toNat ≠ 2047 := fun top =>
      partly (BitVec.eq_of_toNat_eq top)
    rw [if_neg below]
    split
    · rename_i least
      have zero : (@unpackExponent Format.binary64 bits).toNat = 0 := congrArg BitVec.toNat least
      rw [zero, doubleMagnitude, if_pos rfl]
      split
      · rename_i empty
        have none : (@unpackMantissa Format.binary64 bits).toNat = 0 := congrArg BitVec.toNat empty
        rw [none]
        cases Sign.ofBitVec (@unpackSign Format.binary64 bits) <;> simp [amount?, Sign.apply]
      · rfl
    · rename_i normal
      have positive : (@unpackExponent Format.binary64 bits).toNat ≠ 0 := fun zero =>
        normal (BitVec.eq_of_toNat_eq zero)
      have mantissa : (1#1 ++ @unpackMantissa Format.binary64 bits).toNat =
          (@unpackMantissa Format.binary64 bits).toNat + 2 ^ 52 := by
        rw [BitVec.toNat_append, ← Nat.shiftLeft_add_eq_or_of_lt (BitVec.isLt _), Nat.add_comm]
        rfl
      rw [doubleMagnitude, if_neg positive, amount?, mantissa]

/-- A double and its bits are the same number. -/
theorem position?_ofFloat (x : Float) {q : ℚ} :
    (Quantity.ofFloat x).position? = some (.point q) ↔ amount? x.toModel.unpack = some q := by
  have unpacked : x.toModel.unpack = UnpackedFloat.unpack Format.binary64 x.toBits.toBitVec := rfl
  have two (sign : BitVec 1) : sign = 0#1 ∨ sign = 1#1 := by
    have bit := sign.isLt
    rcases Nat.lt_or_eq_of_le (Nat.le_of_lt_succ bit) with zero | one
    · exact Or.inl (BitVec.eq_of_toNat_eq (by simpa using zero))
    · exact Or.inr (BitVec.eq_of_toNat_eq (by simpa using one))
  rw [unpacked, amount?_unpack, Quantity.ofFloat, doubleFields_eq]
  dsimp only
  split
  · split
    · rcases two (@unpackSign Format.binary64 x.toBits.toBitVec) with sign | sign <;>
        simp [sign, Quantity.position?, Line.point]
    · simp [Quantity.position?]
  · rw [Quantity.position?, Option.some_inj, Line.point_inj, Option.some_inj]
    rcases two (@unpackSign Format.binary64 x.toBits.toBitVec) with sign | sign <;>
      simp [sign, Sign.ofBitVec, Sign.apply]

/-- Every double but the undefined one has a position. -/
theorem exists_position {x : Float} (number : x.isNaN = false) :
    ∃ p, (Quantity.ofFloat x).position? = some p := by
  change (UnpackedFloat.unpack Format.binary64 x.toBits.toBitVec).isNaN = false at number
  rw [Quantity.ofFloat, doubleFields_eq]
  dsimp only
  split
  · rename_i top
    split
    · exact ⟨_, rfl⟩
    · rename_i notEmpty
      have full : @unpackExponent Format.binary64 x.toBits.toBitVec = -1#11 :=
        BitVec.eq_of_toNat_eq top
      have some : @unpackMantissa Format.binary64 x.toBits.toBitVec ≠ 0#52 := by
        intro empty
        exact notEmpty (congrArg BitVec.toNat empty)
      unfold UnpackedFloat.unpack at number
      simp only at number
      rw [if_pos full, if_neg some] at number
      cases number
  · exact ⟨_, rfl⟩

/-- A double is a whole number when its bits amount to it. -/
theorem liesOn_iff_amount {x : Float} {i : Int} :
    LiesOn x i ↔ amount? x.toModel.unpack = some (i : ℚ) :=
  position?_ofFloat x

/-- Bits that are those of a normal double with a whole number of up to 53 digits. -/
inductive IsWhole (sign : Sign) (n : Nat) : UnpackedFloat → Prop
  | mk {r : Nat} {t : Int} {notZero : 0 < r} (normal : 2 ^ 52 ≤ r ∧ r < 2 ^ 53)
      (near : -52 ≤ t ∧ t ≤ 1)
      (value : (r : ℚ) * 2 ^ t = n) : IsWhole sign n (.finite sign r t notZero)

namespace IsWhole

variable {sign : Sign} {n : Nat} {u : UnpackedFloat}

theorem round {m : Nat} {e : Int} (positive : n ≠ 0) (few : n ≤ 2 ^ 53)
    (whole : (m : ℚ) * 2 ^ e = n)
    (sign : Sign) : IsWhole sign n (UnpackedFloat.round Format.binary64 sign m e) := by
  obtain ⟨r, t, notZero, rounded, normal, near, value⟩ := round_exact positive few whole sign
  rw [rounded]
  exact ⟨normal, near, value⟩

theorem unpack_pack (isWhole : IsWhole sign n u) : (Float.Model.pack u).unpack = u := by
  obtain ⟨normal, near, value⟩ := isWhole
  exact Decimal.unpack_pack normal (by omega) _

theorem amount (isWhole : IsWhole sign n u) : amount? u = some ((sign.apply n : Int) : ℚ) := by
  obtain ⟨normal, near, value⟩ := isWhole
  cases sign <;> simp [amount?, Sign.apply, value]

theorem neg (isWhole : IsWhole sign n u) : IsWhole (-sign) n u.neg := by
  obtain ⟨normal, near, value⟩ := isWhole
  exact ⟨normal, near, value⟩

end IsWhole

/-- A whole number times one is that whole number. -/
theorem isWhole_mul_one {n : Nat} {x : Float} (isWhole : IsWhole .positive n x.toModel.unpack) :
    IsWhole .positive n (x * Float.ofBits 0x3FF0000000000000).toModel.unpack := by
  have product : (x * Float.ofBits 0x3FF0000000000000).toModel.unpack = (Float.Model.pack
      (.mul Format.binary64 x.toModel.unpack
        (.finite .positive (2 ^ 52) (-52) (by decide)))).unpack := rfl
  rw [product]
  generalize x.toModel.unpack = u at isWhole
  obtain ⟨normal, near, value⟩ := isWhole
  rename_i r t notZero
  have rounded : UnpackedFloat.mul Format.binary64 (.finite .positive r t notZero)
      (.finite .positive (2 ^ 52) (-52) (by decide)) = .finite .positive r (t + -52 + 52) notZero :=
    roundWithAccuracy_exact normal 52 (by omega) .positive
  have exponent : t + -52 + 52 = t := by omega
  rw [rounded, Decimal.unpack_pack normal (by omega), exponent]
  exact ⟨normal, near, value⟩

/-- A whole number of up to 53 digits is a double. -/
theorem isWhole_ofNat {n : Nat} (positive : n ≠ 0) (few : n ≤ 2 ^ 53) :
    IsWhole .positive n (Float.ofNat n).toModel.unpack := by
  rcases Nat.lt_or_eq_of_le few with less | rfl
  · change IsWhole .positive n (Float.ofScientific n false 0).toModel.unpack
    unfold Float.ofScientific
    rw [dif_pos ⟨less, by decide⟩]
    apply isWhole_mul_one
    change IsWhole .positive n
      (Float.Model.pack (UnpackedFloat.ofNat Format.binary64 n.toUInt64.toNat)).unpack
    have same : n.toUInt64.toNat = n := UInt64.toNat_ofNat_of_lt (by change n < 2 ^ 64; omega)
    have ordered : compare (n : Int) 0 = .gt := Int.compare_eq_gt.mpr (by omega)
    have ofNat : IsWhole .positive n (UnpackedFloat.ofNat Format.binary64 n) := by
      simp only [UnpackedFloat.ofNat, UnpackedFloat.ofInt, UnpackedFloat.normalize, ordered]
      exact .round positive few (by simp) .positive
    rw [same, ofNat.unpack_pack]
    exact ofNat
  · have bits : (Float.ofNat (2 ^ 53)).toBits.toBitVec = 0x4340000000000000#64 := by decide +kernel
    change IsWhole .positive (2 ^ 53)
      (UnpackedFloat.unpack Format.binary64 (Float.ofNat (2 ^ 53)).toBits.toBitVec)
    rw [bits]
    refine @IsWhole.mk .positive (2 ^ 53) (2 ^ 52) 1 (by decide) (by decide) (by decide) ?_
    norm_num

theorem liesOn_ofInt {i : Int} (few : i.natAbs ≤ 2 ^ 53) : LiesOn (Float.ofInt i) i := by
  rw [liesOn_iff_amount]
  cases i with
  | ofNat n =>
      change amount? (Float.ofNat n).toModel.unpack = _
      by_cases zero : n = 0
      · subst zero
        rfl
      · exact (isWhole_ofNat zero few).amount
  | negSucc n =>
      have isWhole := (isWhole_ofNat (Nat.succ_ne_zero n) few).neg
      change amount? (Float.Model.pack (Float.ofNat (n + 1)).toModel.unpack.neg).unpack = _
      rw [isWhole.unpack_pack, isWhole.amount]
      rfl

/-- A finite double is normal, or has the least exponent and fewer digits. -/
theorem normal_or_least_of_unpack {bits : BitVec Format.binary64.numBits} {sign : Sign}
    {m : Nat} {e : Int} {notZero : 0 < m} (unpacked : UnpackedFloat.unpack Format.binary64 bits =
      .finite sign m e notZero) :
    2 ^ 52 ≤ m ∨ m < 2 ^ 52 ∧ e = -1074 := by
  unfold UnpackedFloat.unpack at unpacked
  simp only [show (Format.binary64.exponentBias : Int) +
    Format.binary64.mantissaBitsWithoutImplicit = 1075
    from rfl] at unpacked
  split at unpacked
  · split at unpacked <;> cases unpacked
  · split at unpacked
    · rename_i least
      have zero : (unpackExponent bits).toNat = 0 := congrArg BitVec.toNat least
      split at unpacked
      · cases unpacked
      · have mantissaBound : (unpackMantissa bits).toNat < 2 ^ 52 := (unpackMantissa bits).isLt
        cases unpacked
        exact Or.inr ⟨mantissaBound, by omega⟩
    · have mantissa :
          (1#1 ++ unpackMantissa bits).toNat = (unpackMantissa bits).toNat + 2 ^ 52 := by
        rw [BitVec.toNat_append, ← Nat.shiftLeft_add_eq_or_of_lt (BitVec.isLt _), Nat.add_comm]
        rfl
      cases unpacked
      exact Or.inl (by omega)

/-- The bits of a double that is a whole number other than zero. -/
theorem isWhole_of_unpack {x : Float} {sign : Sign} {m n : Nat} {e : Int} {notZero : 0 < m}
    (unpacked : x.toModel.unpack = .finite sign m e notZero) (few : n ≤ 2 ^ 53)
    (whole : (m : ℚ) * 2 ^ e = n) : IsWhole sign n (.finite sign m e notZero) := by
  have unpackedBits :
      UnpackedFloat.unpack Format.binary64 x.toBits.toBitVec = .finite sign m e notZero :=
    unpacked
  obtain ⟨mBound, -⟩ := bounds_of_unpack unpackedBits
  have two : (1 : ℚ) < 2 := by norm_num
  have positive : (0 : ℚ) < 2 ^ e := zpow_pos (by norm_num) e
  have atLeastOne : (1 : ℚ) ≤ n := by
    have product : (0 : ℚ) < m * 2 ^ e := mul_pos (Nat.cast_pos.mpr notZero) positive
    rw [whole] at product
    exact_mod_cast product
  have notTiny : -52 ≤ e := by
    by_contra tiny
    have small : (2 : ℚ) ^ e ≤ 2 ^ (-53 : Int) := zpow_le_zpow_right₀ two.le (by omega)
    have mSmall : (m : ℚ) < 2 ^ 53 := by exact_mod_cast mBound
    have below : (m : ℚ) * 2 ^ e < 1 := calc
      (m : ℚ) * 2 ^ e < 2 ^ 53 * 2 ^ e := mul_lt_mul_of_pos_right mSmall positive
      _ ≤ 2 ^ 53 * 2 ^ (-53 : Int) := mul_le_mul_of_nonneg_left small (by norm_num)
      _ = 1 := by norm_num
    rw [whole] at below
    exact absurd atLeastOne (not_le.mpr below)
  have normal : 2 ^ 52 ≤ m := by
    rcases normal_or_least_of_unpack unpackedBits with normal | ⟨-, least⟩
    · exact normal
    · omega
  refine ⟨⟨normal, mBound⟩, ⟨notTiny, ?_⟩, whole⟩
  by_contra huge
  have large : (2 : ℚ) ^ (2 : Int) ≤ 2 ^ e := zpow_le_zpow_right₀ two.le (by omega)
  have mLarge : (2 : ℚ) ^ 52 ≤ m := by exact_mod_cast normal
  have nSmall : (n : ℚ) ≤ 2 ^ 53 := by exact_mod_cast few
  have above : (2 : ℚ) ^ 52 * 2 ^ (2 : Int) ≤ n := calc
    (2 : ℚ) ^ 52 * 2 ^ (2 : Int) ≤ m * 2 ^ e :=
    mul_le_mul mLarge large (by norm_num) (by positivity)
    _ = n := whole
  norm_num at above nSmall
  linarith

/-! ## Sums -/

/-- A mantissa with zeros added for a smaller exponent is the same number with it. -/
theorem apply_shiftLeft (sign : Sign) (m : Nat) {d e : Int} (least : d ≤ e) :
    ((sign.apply (m <<< (e - d).toNat : Nat) : Int) : ℚ) * 2 ^ d =
    (sign.apply m : Int) * 2 ^ e := by
  have scaled := Quantity.scaled_eq (sign.apply m) least
  rw [← scaled]
  cases sign <;> simp [Nat.shiftLeft_eq, Sign.apply]

/-- Rounding and packing a whole number gives that whole number. -/
theorem amount?_pack_round {m n : Nat} {e : Int} (positive : m ≠ 0) (few : n ≤ 2 ^ 53)
    (whole : (m : ℚ) * 2 ^ e = n) (sign : Sign) :
    amount? (Float.Model.pack (UnpackedFloat.round Format.binary64 sign m e)).unpack =
      some ((sign.apply n : Int) : ℚ) := by
  have notZero : n ≠ 0 := by
    rintro rfl
    have unit : (2 : ℚ) ^ e ≠ 0 := zpow_ne_zero e (by norm_num)
    simp [positive, unit] at whole
  have isWhole := IsWhole.round notZero few whole sign
  rw [isWhole.unpack_pack, isWhole.amount]

/-- A signed mantissa that is a whole number is normalized to that whole number. -/
theorem amount?_normalize {m i e : Int} (whole : (m : ℚ) * 2 ^ e = i) (few : i.natAbs ≤ 2 ^ 53) :
    amount? (Float.Model.pack (UnpackedFloat.normalize Format.binary64 m e .positive)).unpack =
      some (i : ℚ) := by
  have unit : (0 : ℚ) < 2 ^ e := zpow_pos (by norm_num) e
  unfold UnpackedFloat.normalize
  split
  · rename_i less
    have mNegative : m < 0 := Int.compare_eq_lt.mp less
    have iNegative : i < 0 := by
      have product : (m : ℚ) * 2 ^ e < 0 := mul_neg_of_neg_of_pos (by exact_mod_cast mNegative) unit
      rw [whole] at product
      exact_mod_cast product
    obtain ⟨k, rfl⟩ := Int.eq_negSucc_of_lt_zero mNegative
    obtain ⟨n, rfl⟩ := Int.eq_negSucc_of_lt_zero iNegative
    have magnitude : ((k + 1 : Nat) : ℚ) * 2 ^ e = (n + 1 : Nat) := by
      simp only [Int.cast_negSucc, neg_mul, neg_inj] at whole
      exact whole
    exact amount?_pack_round (Nat.succ_ne_zero k) few magnitude .negative
  · rename_i equal
    have mZero : m = 0 := Int.compare_eq_eq.mp equal
    have iZero : i = 0 := by
      rw [mZero, Int.cast_zero, zero_mul] at whole
      exact_mod_cast whole.symm
    subst iZero
    rfl
  · rename_i greater
    have mPositive : 0 < m := Int.compare_eq_gt.mp greater
    have iPositive : 0 < i := by
      have product : (0 : ℚ) < m * 2 ^ e := mul_pos (by exact_mod_cast mPositive) unit
      rw [whole] at product
      exact_mod_cast product
    obtain ⟨k, rfl⟩ := Int.eq_ofNat_of_zero_le mPositive.le
    obtain ⟨n, rfl⟩ := Int.eq_ofNat_of_zero_le iPositive.le
    exact amount?_pack_round (by omega) few (by exact_mod_cast whole) .positive

/-- What a double that is a whole number is unpacked to: zero, or the bits of the whole number. -/
theorem unpack_cases {x : Float} {i : Int} (lies : LiesOn x i) (few : i.natAbs ≤ 2 ^ 53) :
    (∃ sign, x.toModel.unpack = .zero sign ∧ i = 0) ∨ ∃ sign m e notZero,
      x.toModel.unpack = .finite sign m e notZero ∧ ((sign.apply m : Int) : ℚ) * 2 ^ e = i ∧
        IsWhole sign i.natAbs (.finite sign m e notZero) := by
  rw [liesOn_iff_amount] at lies
  cases unpacked : x.toModel.unpack with
  | notANumber =>
      rw [unpacked] at lies
      cases lies
  | infinity sign =>
      rw [unpacked] at lies
      cases lies
  | zero sign =>
      rw [unpacked, amount?, Option.some_inj] at lies
      exact Or.inl ⟨sign, rfl, by exact_mod_cast lies.symm⟩
  | finite sign m e notZero =>
      rw [unpacked, amount?, Option.some_inj] at lies
      refine Or.inr ⟨sign, m, e, notZero, rfl, lies, isWhole_of_unpack unpacked few ?_⟩
      have magnitude : |((sign.apply m : Int) : ℚ) * 2 ^ e| = m * 2 ^ e := by
        have unit : (0 : ℚ) < 2 ^ e := zpow_pos (by norm_num) e
        rw [abs_mul, abs_of_pos unit]
        cases sign <;> simp [Sign.apply]
      rw [← magnitude, lies, ← Int.cast_abs, Int.abs_eq_natAbs, Int.cast_natCast]

/-- Doubles that are whole numbers add up exactly, unless the sum has more than 53 digits. -/
theorem LiesOn.add {x y : Float} {i j : Int} (xLies : LiesOn x i) (yLies : LiesOn y j)
    (iFew : i.natAbs ≤ 2 ^ 53) (jFew : j.natAbs ≤ 2 ^ 53) (few : (i + j).natAbs ≤ 2 ^ 53) :
    LiesOn (x + y) (i + j) := by
  rw [liesOn_iff_amount]
  change amount? (Float.Model.pack
    (UnpackedFloat.add Format.binary64 x.toModel.unpack y.toModel.unpack)).unpack = _
  rcases unpack_cases xLies iFew with ⟨sign, xZero, rfl⟩ |
    ⟨sign, m, d, notZero, xFinite, xValue, xWhole⟩
  · rcases unpack_cases yLies jFew with ⟨other, yZero, rfl⟩ |
      ⟨other, n, e, yNotZero, yFinite, yValue, yWhole⟩
    · rw [xZero, yZero]
      cases sign <;> cases other <;> rfl
    · rw [xZero, yFinite]
      change amount? (Float.Model.pack (.finite other n e yNotZero)).unpack = _
      rw [yWhole.unpack_pack, amount?, yValue, Int.zero_add]
  · rcases unpack_cases yLies jFew with ⟨other, yZero, rfl⟩ |
      ⟨other, n, e, yNotZero, yFinite, yValue, yWhole⟩
    · rw [xFinite, yZero]
      change amount? (Float.Model.pack (.finite sign m d notZero)).unpack = _
      rw [xWhole.unpack_pack, amount?, xValue, Int.add_zero]
    · rw [xFinite, yFinite]
      apply amount?_normalize ?_ few
      rw [Int.cast_add, add_mul, apply_shiftLeft sign m (Int.min_le_left d e),
        apply_shiftLeft other n (Int.min_le_right d e), xValue, yValue, Int.cast_add]

end Outreach.Decimal
