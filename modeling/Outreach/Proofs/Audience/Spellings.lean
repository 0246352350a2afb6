import Mathlib.Logic.Relation
import Outreach.Proofs.Audience.Contexts
import Outreach.Proofs.Audience.Operators

/-!
# Whole numbers with and without a point

A rule may name a whole number as such or as a double, `150` or `150.0`. Both are read alike for
everything a record can hold: as numbers they lie on the same place of the line, as texts they are
written with the same digits, as instants they are the same milliseconds, and truth values they are
not. So either may stand for the other in any condition of a rule.
-/

namespace Outreach.Audience

open Decimal

/-! ## Reading -/

section Operands

variable {x : Float} {i : Int} {record actual : Value} {kind : FieldKind}

theorem readNumber_of_liesOn (liesOn : LiesOn x i) :
    readNumber (.float x) = .ok (some (.float x)) ∧ readNumber (.int i) = .ok (some (.int i)) := by
  have defined : Quantity.ofFloat x ≠ .undefined := by
    intro undefined
    rw [LiesOn, undefined] at liesOn
    cases liesOn
  have near : floatOfInt? i ≠ none := fun none =>
    absurd (floatOfInt?_eq_none_iff.mp none) (Nat.not_le.mpr liesOn.natAbs_lt)
  constructor
  · rw [readNumber, definedFloat?, if_neg defined]
  · rw [readNumber, if_pos (Option.isSome_iff_ne_none.mpr near)]

theorem readText_of_liesOn (liesOn : LiesOn x i) : readText (.float x) = readText (.int i) := by
  obtain ⟨whole, cut⟩ := liesOn_iff.mp liesOn
  have short : i.natAbs < 10 ^ Value.digitLimit :=
    Nat.lt_of_lt_of_le liesOn.natAbs_lt doubleBound_le_digitLimit
  simp [readText, Value.withinDigitLimit, whole, cut, short]

theorem readInstant?_of_liesOn (liesOn : LiesOn x i) :
    readInstant? (.float x) = readInstant? (.int i) := by
  obtain ⟨whole, cut⟩ := liesOn_iff.mp liesOn
  obtain ⟨m, e, isDyadic⟩ := liesOn.exists_dyadic
  simp only [isWholeFloat, truncateFloat, isDyadic] at whole cut
  simp only [readInstant?, Instant.ofMillisFloat?, isDyadic, whole, if_true, cut]

/-- As operands beside the same value, the two spellings satisfy the same comparisons. -/
theorem satisfy_of_liesOn (liesOn : LiesOn x i) (actual : Value) (c : Comparison) :
    (Operands.values actual (.float x)).satisfy c = (Operands.values actual (.int i)).satisfy c :=
  c.holds_eq_of_position liesOn (Quantity.position?_ofInt i)

/-- Whatever a field holds, the two spellings are read as operands that satisfy
the same comparisons. -/
theorem operandsFor_of_liesOn (liesOn : LiesOn x i) (kind : FieldKind) (actual : Value) :
    ∃ first second, operandsFor kind actual (.float x) = .ok first ∧
    operandsFor kind actual (.int i) = .ok second ∧
      ∀ c, first.any (·.satisfy c) = second.any (·.satisfy c) := by
  obtain ⟨ofFloat, ofInt⟩ := readNumber_of_liesOn liesOn
  have asNumbers : ∃ first second,
      (do .ok (valuesWith actual (← readNumber (.float x))) : Except Fault (Option Operands)) =
      .ok first ∧
      (do .ok (valuesWith actual (← readNumber (.int i))) : Except Fault (Option Operands)) =
      .ok second ∧
      ∀ c, first.any (·.satisfy c) = second.any (·.satisfy c) := by
    rw [ofFloat, ofInt]
    exact ⟨_, _, rfl, rfl, satisfy_of_liesOn liesOn actual⟩
  have asInstants : instantsOf? actual (.float x) = instantsOf? actual (.int i) := by
    rw [instantsOf?, instantsOf?, readInstant?_of_liesOn liesOn]
  cases kind with
  | number => exact asNumbers
  | instant => exact ⟨_, _, congrArg Except.ok asInstants, rfl, fun _ => rfl⟩
  | native =>
      cases actual with
      | int _ => exact asNumbers
      | float _ => exact asNumbers
      | time _ => exact ⟨_, _, congrArg Except.ok asInstants, rfl, fun _ => rfl⟩
      | date _ => exact ⟨_, _, congrArg Except.ok asInstants, rfl, fun _ => rfl⟩
      | bool _ => exact ⟨_, _, rfl, rfl, fun _ => rfl⟩
      | text s =>
          obtain ⟨read, ofText⟩ : ∃ read, operandsFor .native (.text s) (.int i) = .ok read :=
            exists_operandsFor_eq_ok fun _ same => Value.int.inj same ▸ liesOn.natAbs_lt
          refine ⟨read, read, ?_, ofText, fun _ => rfl⟩
          rw [← ofText, operandsFor, operandsFor, nativeOperands, nativeOperands,
            readText_of_liesOn liesOn]
      | null => exact ⟨_, _, rfl, rfl, satisfy_of_liesOn liesOn _⟩
      | list items => exact ⟨_, _, rfl, rfl, satisfy_of_liesOn liesOn _⟩
      | map fields => exact ⟨_, _, rfl, rfl, satisfy_of_liesOn liesOn _⟩

theorem compareField_of_liesOn (liesOn : LiesOn x i) (kind : FieldKind) (actual operator : Value) :
    compareField kind actual operator (.float x) = compareField kind actual operator (.int i) := by
  by_cases null : actual = .null
  · subst null
    rfl
  cases compared : comparisonOf? operator with
  | none => simp only [compareField, compared]
  | some c =>
      obtain rfl := comparisonOf?_eq_some_iff.mp compared
      obtain ⟨first, second, ofFloat, ofInt, same⟩ := operandsFor_of_liesOn liesOn kind actual
      rw [compareField_symbol null ofFloat, compareField_symbol null ofInt, same c]

end Operands

/-! ## Rules -/

/-- A rule in which a condition names a double that is a whole number, and the rule with the whole
number in its place. -/
inductive Respells : Value → Value → Prop
  | mk {node next leaf other field operator : Value} {x : Float} {i : Int} (liesOn : LiesOn x i)
      (isCondition : IsCondition leaf field operator (.float x))
      (otherCondition : IsCondition other field operator (.int i))
      (replaces : Replaces leaf other node next) :
      Respells node next

theorem Respells.evaluate_eq {node next : Value} (respells : Respells node next) (record : Value) :
    evaluate next record = evaluate node record := by
  obtain ⟨liesOn, isCondition, otherCondition, replaces⟩ := respells
  apply replaces.evaluate_eq
  rw [isCondition.evaluate_eq, otherCondition.evaluate_eq]
  unfold evaluateCondition
  simp only [compareField_of_liesOn liesOn]

/-- Rules are evaluated alike on every record when they differ by spellings of whole numbers only,
in any of their conditions and in either direction. -/
theorem evaluate_eq_of_respelled {rule next : Value}
    (respelled : Relation.EqvGen Respells rule next)
    (record : Value) : evaluate next record = evaluate rule record := by
  induction respelled with
  | rel node next respells => exact respells.evaluate_eq record
  | refl node => rfl
  | symm node next _ ih => exact ih.symm
  | trans first second third _ _ ih later => exact later.trans ih

def spentAtLeast (amount : Value) : Value := conditionNode "totalSpend" .ge amount

def owes (amount : Value) : Value := conditionNode "owed" .eq amount

/-- Customers who have spent at least an amount, and owe another. -/
def spentAndOwes (spent owed : Value) : Value :=
  groupNode .all [spentAtLeast spent, groupNode .any [owes owed]]

/-- A customer with a number and a text. -/
def settled : Value := .map [("totalSpend", .int 150), ("owed", .text "0")]

/-- One condition loses its point, and another gets one and a sign. -/
theorem settled_by_either_spelling :
    Relation.EqvGen Respells (spentAndOwes (.float 150.0) (.int 0))
    (spentAndOwes (.int 150) (.float (-0.0))) ∧
      evaluate (spentAndOwes (.int 150) (.float (-0.0))) settled =
        evaluate (spentAndOwes (.float 150.0) (.int 0)) settled ∧
      evaluate (spentAndOwes (.float 150.0) (.int 0)) settled = .ok true := by
  have whole : LiesOn 150.0 150 := liesOn_iff.mpr (by decide +kernel)
  have zero : LiesOn (-0.0) 0 := liesOn_iff.mpr (by decide +kernel)
  have spent : Respells (spentAndOwes (.float 150.0) (.int 0)) (spentAndOwes (.int 150) (.int 0)) :=
    .mk whole (isCondition_conditionNode ..) (isCondition_conditionNode ..)
      (.inGroup .all [] [groupNode .any [owes (.int 0)]] .here)
  have owed : Respells (spentAndOwes (.int 150) (.float (-0.0)))
      (spentAndOwes (.int 150) (.int 0)) :=
    .mk zero (isCondition_conditionNode ..) (isCondition_conditionNode ..)
      (.inGroup .all [spentAtLeast (.int 150)] [] (.inGroup .any [] [] .here))
  have respelled := Relation.EqvGen.trans _ _ _ (.rel _ _ spent) (.symm _ _ (.rel _ _ owed))
  exact ⟨respelled, evaluate_eq_of_respelled respelled settled, by decide +kernel⟩

end Outreach.Audience
