import Outreach.Proofs.Decimal.WholeSums
import Outreach.Proofs.Store.Statements
import Outreach.Proofs.Value.Agreement

/-!
# Numbers in a column of doubles

A column of doubles takes whole numbers too, and keeps them as doubles. As long as they have up to
53 binary digits, nothing is lost: numbers that are the same are kept as the same double, and it
makes no difference to what is kept of a sum whether a whole number has been read back as a double
in the meantime.
-/

namespace Outreach.Store

open Decimal

/-- The double that a number is kept as. -/
inductive IsDouble : Value → Float → Prop
  | float (x : Float) : IsDouble (.float x) x
  | int {i : Int} (few : i.natAbs ≤ 2 ^ 53) : IsDouble (.int i) (Float.ofInt i)

namespace IsDouble

variable {a b : Value} {x y : Float} {column : Column} {cell : Cell}

/-- A number and its double lie at the same place. -/
theorem position?_eq (isDouble : IsDouble a x) : a.position? = (Value.float x).position? := by
  cases isDouble with
  | float => rfl
  | int few => exact (Quantity.position?_ofInt _).trans (liesOn_ofInt few).symm

theorem sameNumber_eq (first : IsDouble a x) (second : IsDouble b y) :
    a.sameNumber b = (Value.float x).sameNumber (.float y) := by
  rw [Value.sameNumber_eq, Value.sameNumber_eq, Value.orderNumber?_eq, Value.orderNumber?_eq,
    first.position?_eq, second.position?_eq]

/-- The doubles of the same number are the same, or both are zero. -/
theorem eq_or_isZero (first : IsDouble a x) (second : IsDouble b y) (same : a.sameNumber b = true) :
    x = y ∨ IsZero x ∧ IsZero y := by
  rw [first.sameNumber_eq second] at same
  exact Decimal.eq_or_isZero (beq_iff_eq.mp same)

end IsDouble

/-- A whole number is kept as its double. -/
theorem cellOfFloat_ofInt {i : Int} (few : i.natAbs ≤ 2 ^ 53) :
    cellOfFloat (Float.ofInt i) = some (.float (Float.ofInt i)) := by
  have amounts := liesOn_iff_amount.mp (liesOn_ofInt few)
  have number : (Float.ofInt i).isNaN = false := by
    change (Float.ofInt i).toModel.unpack.isNaN = false
    cases unpacked : (Float.ofInt i).toModel.unpack with
    | notANumber =>
        rw [unpacked] at amounts
        cases amounts
    | _ => rfl
  unfold cellOfFloat
  rw [number, if_neg Bool.false_ne_true]
  split
  · rename_i blank
    obtain ⟨sign, unpacked⟩ := (beq_zero_iff.mp blank).unpack_eq
    rw [unpacked, amount?, Option.some_inj] at amounts
    obtain rfl : i = 0 := by exact_mod_cast amounts.symm
    rfl
  · rfl

/-- A column of doubles or times can be handed over anything but a text. -/
theorem bindCell_of_noText (position : Nat) {column : Column} {cell : Cell}
    (kind : column.kind = .real ∨ column.kind = .time) (noText : ∀ s, cell ≠ some (.text s)) :
    bindCell position column cell = .ok cell := by
  unfold bindCell
  split
  · rfl
  · rename_i s _
    exact absurd rfl (noText s)
  · rcases kind with kind | kind <;> simp_all
  · rcases kind with kind | kind <;> simp_all
  · rfl

theorem floatOfInt?_of_few {i : Int} (few : i.natAbs ≤ 2 ^ 53) :
    floatOfInt? i = some (Float.ofInt i) := by
  have finite : (Float.ofInt i).isInf = false := by
    rw [Bool.eq_false_iff, ne_eq, isInf_ofInt_iff, not_le]
    exact Nat.lt_of_le_of_lt few (by decide +kernel)
  simp [floatOfInt?, finite]

namespace IsDouble

variable {a b : Value} {x y : Float} {column : Column} {cell : Cell}

theorem prepare_eq (isDouble : IsDouble a x) (kind : column.kind = .real) :
    column.prepare a = .ok (cellOfFloat x) := by
  cases isDouble with
  | float => simp [Column.prepare, kind, keepReal]
  | int few =>
      simp [Column.prepare, kind, keepReal, Value.whole?, floatOfInt?_of_few few,
        cellOfFloat_ofInt few]

/-- A column of doubles keeps a number as its double. -/
theorem keeps_iff (isDouble : IsDouble a x) (kind : column.kind = .real) :
    column.Keeps a cell ↔ cell = cellOfFloat x := by
  have noText : ∀ s, cellOfFloat x ≠ some (.text s) := by
    intro s
    unfold cellOfFloat
    split
    · simp
    · split <;> simp
  constructor
  · rintro ⟨prepared, place, preparedEq, bound⟩
    rw [isDouble.prepare_eq kind, Except.ok.injEq] at preparedEq
    subst preparedEq
    exact bindCell_eq (Or.inl kind) noText bound
  · rintro rfl
    exact ⟨_, 0, isDouble.prepare_eq kind, bindCell_of_noText 0 (Or.inl kind) noText⟩

/-- Numbers that are the same are kept as the same double. -/
theorem keeps_of_sameNumber (first : IsDouble a x) (second : IsDouble b y)
    (kind : column.kind = .real)
    (same : a.sameNumber b = true) (keeps : column.Keeps b cell) : column.Keeps a cell := by
  rw [second.keeps_iff kind] at keeps
  rw [first.keeps_iff kind, keeps]
  rcases first.eq_or_isZero second same with rfl | ⟨zero, otherZero⟩
  · rfl
  · rw [cellOfFloat_of_isZero zero, cellOfFloat_of_isZero otherZero]

/-- A number counts as nothing when its double is zero. -/
theorem isBlank_iff (isDouble : IsDouble a x) : a.isBlank = true ↔ IsZero x := by
  cases isDouble with
  | float => exact beq_zero_iff
  | @int i few =>
      rw [← beq_zero_iff]
      constructor
      · intro blank
        obtain rfl : i = 0 := by simpa [Value.isBlank] using blank
        rfl
      · intro zero
        obtain ⟨sign, unpacked⟩ := (beq_zero_iff.mp zero).unpack_eq
        have amounts := liesOn_iff_amount.mp (liesOn_ofInt few)
        rw [unpacked, amount?, Option.some_inj] at amounts
        obtain rfl : i = 0 := by exact_mod_cast amounts.symm
        rfl

/-! ## Sums -/

theorem add_float (isDouble : IsDouble b y) (x : Float) :
    (Value.float x).add b = .ok (.float (x + y)) := by
  cases isDouble with
  | float => rfl
  | int few =>
      simp [Value.add, Value.addNumbers, Value.whole?, Value.quantity?, Value.toFloat?,
        floatOfInt?_of_few few, bind, Except.bind]

theorem float_add (isDouble : IsDouble a x) (y : Float) :
    a.add (.float y) = .ok (.float (x + y)) := by
  cases isDouble with
  | float => rfl
  | int few =>
      simp [Value.add, Value.addNumbers, Value.whole?, Value.quantity?, Value.toFloat?,
        floatOfInt?_of_few few, bind, Except.bind]

end IsDouble

theorem int_add (i j : Int) : (Value.int i).add (.int j) = .ok (.int (i + j)) := by
  simp [Value.add, Value.addNumbers, Value.whole?]

theorem increase_of_blank {value : Value} (blank : value.isBlank = true) (delta : Value) :
    value.increase delta = (Value.int 0).add delta := by
  rw [Value.increase, if_pos blank]

theorem increase_of_not_blank {value : Value} (full : value.isBlank ≠ true) (delta : Value) :
    value.increase delta = value.add delta := by
  rw [Value.increase, if_neg full]

section Increments

variable {seen value delta seenSum sum : Value} {x d : Float}

/-- The sum of two numbers is a double or a whole number. -/
theorem exists_add (first : IsDouble value x) (second : IsDouble delta d) :
    ∃ sum, value.add delta = .ok sum ∧ ((∃ y, sum = .float y) ∨ ∃ i, sum = .int i) := by
  cases first with
  | float => exact ⟨_, second.add_float x, Or.inl ⟨_, rfl⟩⟩
  | @int i few =>
      cases second with
      | float => exact ⟨_, (IsDouble.int few).float_add d, Or.inl ⟨_, rfl⟩⟩
      | @int j _ => exact ⟨_, int_add i j, Or.inr ⟨_, rfl⟩⟩

theorem exists_increase (number : value = .null ∨ ∃ x, IsDouble value x)
    (second : IsDouble delta d) :
    ∃ sum, value.increase delta = .ok sum ∧ ((∃ y, sum = .float y) ∨ ∃ i, sum = .int i) := by
  by_cases blank : value.isBlank = true
  · rw [increase_of_blank blank]
    exact exists_add (.int (by decide)) second
  · rw [increase_of_not_blank blank]
    rcases number with rfl | ⟨x, first⟩
    · exact absurd rfl blank
    · exact exists_add first second

/-- A number as it is, or the double that it has been read back as. -/
def Rereads (value seen : Value) : Prop :=
  seen = value ∨ ∃ x, seen = .float x ∧ seen.sameNumber value = true

theorem Rereads.matches (rereads : Rereads value seen) :
    value.Matches seen ∧ seen.Matches value := by
  rcases rereads with rfl | ⟨x, rfl, same⟩
  · exact ⟨Or.inl rfl, Or.inl rfl⟩
  · exact ⟨.of_sameNumber (Value.sameNumber_symm same), .of_sameNumber same⟩

/-- After an increment a number that was read back still is the same number, unless
it has grown too long. -/
theorem Rereads.increase (rereads : Rereads value seen)
    (first : value = .null ∨ ∃ x, IsDouble value x)
    (second : IsDouble delta d) (seenEq : seen.increase delta = .ok seenSum)
    (sumEq : value.increase delta = .ok sum) (few : ∀ i, sum = .int i → i.natAbs ≤ 2 ^ 53) :
    Rereads sum seenSum := by
  rcases rereads with rfl | ⟨x, rfl, same⟩
  · exact Or.inl (Except.ok.inj (seenEq.symm.trans sumEq))
  · rcases first with rfl | ⟨y, first⟩
    · cases same
    have reread := IsDouble.float x
    by_cases zero : IsZero x
    · -- A zero counts as nothing on both sides.
      have otherZero : IsZero y := by
        rcases reread.eq_or_isZero first same with rfl | ⟨_, otherZero⟩
        · exact zero
        · exact otherZero
      rw [increase_of_blank (reread.isBlank_iff.mpr zero)] at seenEq
      rw [increase_of_blank (first.isBlank_iff.mpr otherZero)] at sumEq
      exact Or.inl (Except.ok.inj (seenEq.symm.trans sumEq))
    · obtain rfl : x = y := (reread.eq_or_isZero first same).resolve_right fun both => zero both.1
      rw [increase_of_not_blank (mt reread.isBlank_iff.mp zero), second.add_float] at seenEq
      rw [increase_of_not_blank (mt first.isBlank_iff.mp zero)] at sumEq
      cases seenEq
      cases first with
      | float =>
          rw [second.add_float] at sumEq
          cases sumEq
          exact Or.inl rfl
      | @int i iFew =>
          cases second with
          | float =>
              rw [(IsDouble.int iFew).float_add] at sumEq
              cases sumEq
              exact Or.inl rfl
          | @int j jFew =>
              rw [int_add] at sumEq
              cases sumEq
              have lies := (liesOn_ofInt iFew).add (liesOn_ofInt jFew) iFew jFew (few _ rfl)
              exact Or.inr ⟨_, rfl, Value.sameNumber_iff.mpr ⟨_, lies, Quantity.position?_ofInt _⟩⟩

end Increments

end Outreach.Store
