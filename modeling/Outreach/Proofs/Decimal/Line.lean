import Mathlib
import Outreach.Proofs.Decimal.Doubles
import Outreach.Proofs.Decimal.Range

/-!
# Quantities on a line

Every quantity but the undefined one has a position on the line of the rationals with two ends. Two
quantities compare as their positions do, so comparing them is exact, and transitive whatever the
kinds of the numbers. A double that lies on a whole number is that number cut off, and is below the
bound of the doubles.
-/

namespace Outreach.Decimal

/-- The rationals and an end on either side. -/
abbrev Line := WithBot (WithTop ℚ)

/-- A rational on the line. -/
def Line.point (q : ℚ) : Line := ((q : WithTop ℚ) : Line)

theorem Line.point_strictMono : StrictMono Line.point := fun _ _ less =>
  WithBot.coe_lt_coe.mpr (WithTop.coe_lt_coe.mpr less)

theorem Line.point_inj {p q : ℚ} : Line.point p = Line.point q ↔ p = q :=
  Line.point_strictMono.injective.eq_iff

/-- Maps that keep the order keep comparisons. -/
theorem compare_map {α β : Type} [LinearOrder α] [LinearOrder β] {f : α → β} (mono : StrictMono f)
    (a b : α) :
    compare (f a) (f b) = compare a b := by
  rw [← cmp_eq_compare, ← cmp_eq_compare, mono.cmp_map_eq]

namespace Quantity

/-- Where a quantity lies, if it is a number at all. -/
def position? : Quantity → Option Line
  | .undefined => none
  | .infinite negative => some (if negative then ⊥ else ⊤)
  | .dyadic m e => some (.point (m * 2 ^ e))

/-- A mantissa that is scaled to a smaller exponent is the same number with it. -/
theorem scaled_eq (m : Int) {d e : Int} (least : d ≤ e) :
    ((m * 2 ^ (e - d).toNat : Int) : ℚ) * 2 ^ d = m * 2 ^ e := by
  have exponent : ((e - d).toNat : Int) + d = e := by omega
  have power : ((2 ^ (e - d).toNat : Int) : ℚ) = 2 ^ ((e - d).toNat : Int) := by
    rw [zpow_natCast]
    exact Int.cast_pow 2 _
  rw [Int.cast_mul, power, mul_assoc, ← zpow_add₀ (by norm_num), exponent]

theorem compareDyadic_eq (m d n e : Int) :
    compareDyadic m d n e = compare ((m : ℚ) * 2 ^ d) ((n : ℚ) * 2 ^ e) := by
  have mono : StrictMono fun k : Int => (k : ℚ) * 2 ^ min d e := by
    intro j k less
    exact mul_lt_mul_of_pos_right (Int.cast_lt.mpr less) (zpow_pos (by norm_num) _)
  rw [compareDyadic, ← compare_map mono, scaled_eq m (Int.min_le_left d e),
    scaled_eq n (Int.min_le_right d e)]

/-- Quantities compare as their positions do. -/
theorem compare?_eq (p q : Quantity) :
    p.compare? q = Option.map₂ compare p.position? q.position? := by
  have bot (x : ℚ) : compare (⊥ : Line) (Line.point x) = .lt :=
    compare_lt_iff_lt.mpr (WithBot.bot_lt_coe _)
  have bot' (x : ℚ) : compare (Line.point x) (⊥ : Line) = .gt :=
    compare_gt_iff_gt.mpr (WithBot.bot_lt_coe _)
  have top (x : ℚ) : compare (⊤ : Line) (Line.point x) = .gt :=
    compare_gt_iff_gt.mpr (WithBot.coe_lt_coe.mpr (WithTop.coe_lt_top x))
  have top' (x : ℚ) : compare (Line.point x) (⊤ : Line) = .lt :=
    compare_lt_iff_lt.mpr (WithBot.coe_lt_coe.mpr (WithTop.coe_lt_top x))
  have ends : compare (⊥ : Line) ⊤ = .lt := compare_lt_iff_lt.mpr bot_lt_top
  have ends' : compare (⊤ : Line) ⊥ = .gt := compare_gt_iff_gt.mpr bot_lt_top
  rcases p with _ | (_ | _) | ⟨m, d⟩ <;> rcases q with _ | (_ | _) | ⟨n, e⟩ <;>
    simp [compare?, position?, compareDyadic_eq, compare_map Line.point_strictMono, *]

theorem position?_ofInt (i : Int) : (ofInt i).position? = some (.point i) := by
  simp [ofInt, position?]

end Quantity

/-! ## Whole doubles -/

/-- The double is a whole number. -/
def LiesOn (x : Float) (i : Int) : Prop := (Quantity.ofFloat x).position? = some (.point i)

/-- A dyadic number that is whole is the whole number that it is cut to. -/
theorem dyadic_eq_int_iff {m e i : Int} : (m : ℚ) * 2 ^ e = i ↔
    Quantity.isWhole (.dyadic m e) = true ∧ Quantity.truncate m e = i := by
  by_cases positive : 0 ≤ e
  · have scaled := Quantity.scaled_eq m positive
    rw [zpow_zero, mul_one, Int.sub_zero] at scaled
    rw [← scaled, Int.cast_inj]
    simp [Quantity.isWhole, Quantity.truncate, positive]
  · have scaled := Quantity.scaled_eq i (Int.le_of_lt (Int.not_le.mp positive))
    rw [zpow_zero, mul_one, Int.zero_sub] at scaled
    have nonzero : (2 : ℚ) ^ e ≠ 0 := zpow_ne_zero e (by norm_num)
    rw [← scaled, mul_left_inj' nonzero, Int.cast_inj]
    simp only [Quantity.isWhole, Quantity.truncate, positive, decide_false, Bool.false_or,
      beq_iff_eq, if_false]
    have unit : (2 ^ (-e).toNat : Int) ≠ 0 := Int.pow_ne_zero (by decide)
    constructor
    · rintro rfl
      exact ⟨Int.mul_emod_left .., Int.mul_tdiv_cancel i unit⟩
    · rintro ⟨whole, rfl⟩
      exact (Int.tdiv_mul_cancel (Int.dvd_of_emod_eq_zero whole)).symm

/-- Being whole is what the two functions on doubles say. -/
theorem liesOn_iff {x : Float} {i : Int} :
    LiesOn x i ↔ isWholeFloat x = true ∧ truncateFloat x = i := by
  rw [LiesOn, isWholeFloat, truncateFloat]
  cases Quantity.ofFloat x with
  | undefined => simp [Quantity.position?, Quantity.isWhole]
  | infinite negative => cases negative <;> simp [Quantity.position?, Quantity.isWhole, Line.point]
  | dyadic m e => rw [Quantity.position?, Option.some_inj, Line.point_inj, dyadic_eq_int_iff]

/-- The parts of a finite double: a mantissa of 53 binary digits, and an exponent
that is not too large. -/
theorem bounds_of_ofFloat {x : Float} {m e : Int} (isDyadic : Quantity.ofFloat x = .dyadic m e) :
    m.natAbs < 2 ^ 53 ∧ e ≤ 971 := by
  rcases fields : doubleFields x with ⟨negative, biased, fraction⟩
  have bounds : biased < 2 ^ 11 ∧ fraction < 2 ^ 52 := by
    simp only [doubleFields, Prod.mk.injEq] at fields
    omega
  simp only [Quantity.ofFloat, fields] at isDyadic
  split at isDyadic
  · split at isDyadic <;> cases isDyadic
  · rename_i finite
    cases isDyadic
    refine ⟨?_, ?_⟩
    · exact (natAbs_signed negative _).symm ▸ (doubleMagnitude_normal biased fraction bounds.2).1
    · unfold doubleMagnitude
      split <;> simp only <;> omega

theorem natAbs_truncate_le {m e : Int} {k : Nat} (bound : e ≤ k) :
    (Quantity.truncate m e).natAbs ≤ m.natAbs * 2 ^ k := by
  unfold Quantity.truncate
  split
  · rw [Int.natAbs_mul, Int.natAbs_pow]
    exact Nat.mul_le_mul_left _ (Nat.pow_le_pow_right (by decide) (by omega))
  · rw [Int.natAbs_tdiv]
    exact Nat.le_trans (Nat.div_le_self ..) (Nat.le_mul_of_pos_right _ (Nat.two_pow_pos k))

theorem LiesOn.exists_dyadic {x : Float} {i : Int} (liesOn : LiesOn x i) :
    ∃ m e, Quantity.ofFloat x = .dyadic m e := by
  have whole := (liesOn_iff.mp liesOn).1
  rw [isWholeFloat] at whole
  cases isDyadic : Quantity.ofFloat x with
  | dyadic m e => exact ⟨m, e, rfl⟩
  | _ =>
      rw [isDyadic] at whole
      cases whole

/-- A whole double is not beyond the doubles. -/
theorem LiesOn.natAbs_lt {x : Float} {i : Int} (liesOn : LiesOn x i) : i.natAbs < doubleBound := by
  obtain ⟨m, e, isDyadic⟩ := liesOn.exists_dyadic
  obtain ⟨mBound, eBound⟩ := bounds_of_ofFloat isDyadic
  have cut : Quantity.truncate m e = i := by
    simpa only [truncateFloat, isDyadic] using (liesOn_iff.mp liesOn).2
  calc i.natAbs
      = (Quantity.truncate m e).natAbs := congrArg Int.natAbs cut.symm
    _ ≤ m.natAbs * 2 ^ 971 := natAbs_truncate_le eBound
    _ ≤ (2 ^ 53 - 1) * 2 ^ 971 := Nat.mul_le_mul_right _ (Nat.le_sub_one_of_lt mBound)
    _ < doubleBound := by decide +kernel

end Outreach.Decimal
