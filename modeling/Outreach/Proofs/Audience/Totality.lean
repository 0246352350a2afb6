import Outreach.Proofs.Audience.Nodes
import Outreach.Proofs.Decimal.Range

/-!
# When a rule can be evaluated

On a record with fields, only a whole number that is too large can keep a condition from being
decided: one without a double near it where a number is asked for, one with too many digits where a
text is. The evaluation of a rule fails exactly when it reaches such a condition; a rule whose whole
numbers all have doubles near them can always be evaluated.
-/

namespace Outreach.Audience

open Decimal

/-! ## Operands -/

theorem readNumber_eq_error_iff {value : Value} {fault : Fault} :
    readNumber value = .error fault ↔
      fault = .numberTooLarge ∧ ∃ i, value = .int i ∧ doubleBound ≤ i.natAbs := by
  cases value with
  | int i =>
      cases read : floatOfInt? i with
      | none =>
          have large := floatOfInt?_eq_none_iff.mp read
          simp [readNumber, read, large, eq_comm]
      | some x =>
          have small : ¬doubleBound ≤ i.natAbs := by
            rw [← floatOfInt?_eq_none_iff, read]
            simp
          simp [readNumber, read, small]
  | _ => simp [readNumber]

theorem readText_eq_error_iff {value : Value} {fault : Fault} :
    readText value = .error fault ↔
      fault = .tooManyDigits ∧ ∃ i, value = .int i ∧ 10 ^ Value.digitLimit ≤ i.natAbs := by
  cases value with
  | int i =>
      by_cases long : 10 ^ Value.digitLimit ≤ i.natAbs
      · simp [readText, Value.withinDigitLimit, Nat.not_lt.mpr long, long, eq_comm]
      · simp [readText, Value.withinDigitLimit, Nat.not_le.mp long, long]
  | _ => simp [readText]

/-- Comparing with the value asks for a number. -/
def AsksNumber (kind : FieldKind) (actual : Value) : Prop :=
  kind = .number ∨ kind = .native ∧ ((∃ i, actual = .int i) ∨ ∃ x, actual = .float x)

/-- A whole number that cannot be read for the comparison with a value. -/
inductive Unreadable (kind : FieldKind) (actual : Value) (i : Int) : Fault → Prop
  | number (asks : AsksNumber kind actual) (large : doubleBound ≤ i.natAbs) :
      Unreadable kind actual i .numberTooLarge
  | text {s : String} (native : kind = .native) (isText : actual = .text s)
      (long : 10 ^ Value.digitLimit ≤ i.natAbs) : Unreadable kind actual i .tooManyDigits

/-- The bound of doubles has no more digits than a whole number may have to be written out. -/
theorem doubleBound_le_digitLimit : doubleBound ≤ 10 ^ Value.digitLimit := by decide +kernel

section Unreadable

variable {kind : FieldKind} {actual expected : Value} {i : Int} {fault : Fault}

theorem Unreadable.large (unreadable : Unreadable kind actual i fault) :
    doubleBound ≤ i.natAbs := by
  cases unreadable with
  | number _ large => exact large
  | text _ _ long => exact Nat.le_trans doubleBound_le_digitLimit long

theorem AsksNumber.unreadable_iff (asks : AsksNumber kind actual) :
    Unreadable kind actual i fault ↔ fault = .numberTooLarge ∧ doubleBound ≤ i.natAbs := by
  constructor
  · rintro (⟨_, large⟩ | ⟨native, rfl, _⟩)
    · exact ⟨rfl, large⟩
    · simp [AsksNumber, native] at asks
  · rintro ⟨rfl, large⟩
    exact .number asks large

theorem unreadable_text_iff {s : String} :
    Unreadable .native (.text s) i fault ↔ fault = .tooManyDigits ∧
    10 ^ Value.digitLimit ≤ i.natAbs := by
  constructor
  · rintro (⟨asks, _⟩ | ⟨_, _, long⟩)
    · simp [AsksNumber] at asks
    · exact ⟨rfl, long⟩
  · rintro ⟨rfl, long⟩
    exact .text rfl rfl long

theorem operandsFor_of_asks (asks : AsksNumber kind actual) :
    operandsFor kind actual expected = (do .ok (valuesWith actual (← readNumber expected))) := by
  rcases asks with rfl | ⟨rfl, ⟨i, rfl⟩ | ⟨x, rfl⟩⟩ <;> rfl

/-- Pairing what was read with the value of the record adds no failure. -/
theorem pairing_eq_error_iff {α β : Type} {first : Except Fault α} {pair : α → β} :
    (do .ok (pair (← first)) : Except Fault β) = .error fault ↔ first = .error fault := by
  cases first <;> simp [bind, Except.bind]

theorem operandsFor_eq_error_iff :
    operandsFor kind actual expected = .error fault ↔
      ∃ i, expected = .int i ∧ Unreadable kind actual i fault := by
  by_cases asks : AsksNumber kind actual
  · rw [operandsFor_of_asks asks, pairing_eq_error_iff, readNumber_eq_error_iff]
    simp only [asks.unreadable_iff]
    grind
  · by_cases texts : kind = .native ∧ ∃ s, actual = .text s
    · obtain ⟨rfl, s, rfl⟩ := texts
      simp only [operandsFor, nativeOperands, unreadable_text_iff]
      rw [pairing_eq_error_iff, readText_eq_error_iff]
      grind
    · have never : ∀ i, ¬Unreadable kind actual i fault := by
        rintro i (⟨again, _⟩ | ⟨native, isText, _⟩)
        · exact asks again
        · exact texts ⟨native, _, isText⟩
      simp only [never, and_false, exists_false, iff_false]
      cases kind with
      | number => exact absurd (Or.inl rfl) asks
      | instant => simp [operandsFor]
      | native =>
          cases actual with
          | int i => exact absurd (Or.inr ⟨rfl, Or.inl ⟨i, rfl⟩⟩) asks
          | float x => exact absurd (Or.inr ⟨rfl, Or.inr ⟨x, rfl⟩⟩) asks
          | text s => exact absurd ⟨rfl, s, rfl⟩ texts
          | _ => simp [operandsFor, nativeOperands]

end Unreadable

/-! ## Conditions -/

/-- A condition that cannot be decided: it compares a field of the record, by one of the six signs,
with a whole number that is too large for what the field holds. -/
inductive TooLarge (fields : Fields) (fault : Fault) : Value → Prop
  | mk {leaf actual : Value} {name : String} {comparison : Comparison} {i : Int}
      (isCondition : IsCondition leaf (.text name) (.text comparison.symbol) (.int i))
      (present : Keyed.get? (canonicalField name) fields = some actual) (notNull : actual ≠ .null)
      (unreadable : Unreadable (fieldKind (canonicalField name)) actual i fault) :
      TooLarge fields fault leaf

section Conditions

variable {kind : FieldKind} {field operator actual expected : Value} {fields : Fields}
    {fault : Fault}

theorem compareField_eq_error_iff :
    compareField kind actual operator expected = .error fault ↔
      actual ≠ .null ∧ (∃ comparison : Comparison, operator = .text comparison.symbol) ∧
        ∃ i, expected = .int i ∧ Unreadable kind actual i fault := by
  have isNull_iff : actual.isNull = true ↔ actual = .null := by cases actual <;> simp [Value.isNull]
  rw [← operandsFor_eq_error_iff, compareField]
  simp only [← comparisonOf?_eq_some_iff, ne_eq, ← isNull_iff]
  by_cases null : actual.isNull = true
  · simp [null]
  · cases comparisonOf? operator with
    | none => simp [null]
    | some comparison =>
        cases operandsFor kind actual expected with
        | error other => simp [null, bind, Except.bind]
        | ok operands => cases operands <;> simp [null, bind, Except.bind]

theorem IsCondition.fails_iff {leaf : Value}
    (isCondition : IsCondition leaf field operator expected) :
    evaluate leaf (.map fields) = .error fault ↔ TooLarge fields fault leaf := by
  rw [isCondition.evaluate_eq]
  constructor
  · intro failed
    cases field with
    | text name =>
        change compareField _ ((Keyed.get? (canonicalField name) fields).getD .null) _ _ = _
          at failed
        obtain ⟨notNull, ⟨comparison, rfl⟩, i, rfl, unreadable⟩ :=
          compareField_eq_error_iff.mp failed
        cases present : Keyed.get? (canonicalField name) fields with
        | none =>
            rw [present] at notNull
            exact absurd rfl notNull
        | some actual =>
            rw [present] at notNull unreadable
            exact .mk isCondition present notNull unreadable
    | _ => cases failed
  · rintro ⟨same, present, notNull, unreadable⟩
    cases isCondition.named.symm.trans same.named
    cases isCondition.compared.symm.trans same.compared
    cases isCondition.against.symm.trans same.against
    change compareField _ ((Keyed.get? (canonicalField _) fields).getD .null) _ _ = _
    rw [present]
    exact compareField_eq_error_iff.mpr ⟨notNull, ⟨_, rfl⟩, _, rfl, unreadable⟩

end Conditions

/-! ## Rules -/

/-- The evaluation of a rule gets to a condition: in every group on the way there, what stands
before it leaves the group undecided. -/
inductive Reaches (record leaf : Value) : Value → Prop
  | self {field operator operand : Value} (isCondition : IsCondition leaf field operator operand) :
      Reaches record leaf leaf
  | inside {node item : Value} {connective : Connective} {before rest : List Value}
      (isGroup : IsGroup node connective (before ++ item :: rest))
      (undecided : ∀ other ∈ before, evaluate other record = .ok connective.neutral)
      (reaches : Reaches record leaf item) : Reaches record leaf node

theorem Reaches.leafOf {record leaf rule : Value} (reaches : Reaches record leaf rule) :
    LeafOf leaf rule := by
  induction reaches with
  | self isCondition => exact .self isCondition
  | inside isGroup _ _ ih => exact .inside isGroup (by simp) ih

/-- A rule that cannot be evaluated has a condition that is reached and cannot be decided. -/
theorem exists_reaches_of_error {rule : Value} {fields : Fields} {fault : Fault}
    (failed : evaluate rule (.map fields) = .error fault) :
    ∃ leaf, Reaches (.map fields) leaf rule ∧ TooLarge fields fault leaf := by
  induction rule using node_induction with
  | group isGroup ih =>
      rw [isGroup.evaluate_eq] at failed
      obtain ⟨before, item, rest, rfl, undecided, itemFailed⟩ :=
        evaluateGroup_eq_error_iff.mp failed
      obtain ⟨leaf, reaches, tooLarge⟩ := ih item (by simp) itemFailed
      exact ⟨leaf, .inside isGroup undecided reaches, tooLarge⟩
  | condition isCondition => exact ⟨_, .self isCondition, isCondition.fails_iff.mp failed⟩
  | other isFalse =>
      rw [isFalse] at failed
      cases failed

/-- On a record with fields, the evaluation of a rule fails exactly when it reaches a condition that
compares with a whole number too large for what the record holds: no double is near the number where
a number is asked for, or it has too many digits where a text is. -/
theorem evaluate_eq_error_iff {rule : Value} {fields : Fields} {fault : Fault} :
    evaluate rule (.map fields) = .error fault ↔
      ∃ leaf, Reaches (.map fields) leaf rule ∧ TooLarge fields fault leaf := by
  constructor
  · exact exists_reaches_of_error
  · rintro ⟨leaf, reaches, tooLarge⟩
    induction reaches with
    | self isCondition => exact isCondition.fails_iff.mpr tooLarge
    | inside isGroup undecided _ ih =>
        rw [isGroup.evaluate_eq]
        exact evaluateGroup_eq_error_iff.mpr ⟨_, _, _, rfl, undecided, ih⟩

/-- Spend above ten to the power of four hundred. -/
def hugeSpend : Value := conditionNode "totalSpend" .gt (.int (10 ^ 400))

/-- A well-formed rule and a record on which it has no truth value. -/
theorem hugeSpend_not_decided :
    WellFormed hugeSpend ∧
      ¬∃ satisfied, evaluate hugeSpend (.map [("totalSpend", .int 150)]) = .ok satisfied := by
  have isCondition := isCondition_conditionNode "totalSpend" .gt (.int (10 ^ 400))
  have unreadable : Unreadable .number (.int 150) (10 ^ 400) .numberTooLarge :=
    .number (Or.inl rfl) (by decide +kernel)
  have failed : evaluate hugeSpend (.map [("totalSpend", .int 150)]) = .error .numberTooLarge :=
    isCondition.fails_iff.mpr (.mk isCondition rfl (by simp) unreadable)
  refine ⟨.condition isCondition (.int _), ?_⟩
  rintro ⟨satisfied, decided⟩
  rw [failed] at decided
  cases decided

/-- A rule whose conditions name no whole number beyond the doubles can be evaluated on
every record with fields. -/
theorem exists_evaluate_eq_ok {rule : Value} {fields : Fields}
    (small : ∀ leaf, LeafOf leaf rule → ∀ i, leaf.field "value" = .int i → i.natAbs < doubleBound) :
    ∃ satisfied, evaluate rule (.map fields) = .ok satisfied := by
  cases evaluated : evaluate rule (.map fields) with
  | ok satisfied => exact ⟨satisfied, rfl⟩
  | error fault =>
      obtain ⟨leaf, reaches, isCondition, _, _, unreadable⟩ := exists_reaches_of_error evaluated
      exact absurd unreadable.large
        (Nat.not_le.mpr (small leaf reaches.leafOf _ isCondition.against))

end Outreach.Audience
