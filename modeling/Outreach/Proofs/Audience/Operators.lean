import Outreach.Proofs.Audience.Totality
import Outreach.Proofs.Outcome
import Outreach.Proofs.Value.Order

/-!
# The six comparisons of a condition

A condition on a record comes to two operands, or to none: when the field is missing or null, or
when the rule's value cannot be read as its kind. The operands do not depend on the comparison, and
have one order or none at all. So the six comparisons agree with each other whatever the field and
the record hold.
-/

namespace Outreach.Audience

open Decimal

/-! ## Operands -/

section Operands

variable {kind : FieldKind} {actual expected : Value} {operands : Operands}

/-- The side of the rule is a number, a truth value or a text; or both sides are instants. -/
inductive Operands.IsScalar : Operands → Prop
  | values {actual expected : Value} (isScalar : expected.IsScalar) : IsScalar
      (.values actual expected)
  | instants (actual expected : Instant) : IsScalar (.instants actual expected)

/-- The order of two operands. -/
def Operands.order? : Operands → Option Ordering
  | .values actual expected => actual.order? expected
  | .instants actual expected => some (compare actual expected)

theorem Operands.IsScalar.satisfy_eq (isScalar : operands.IsScalar) (c : Comparison) :
    operands.satisfy c = c.decides operands.order? := by
  cases isScalar with
  | values isScalar => exact c.holds_eq isScalar
  | instants actual expected => exact c.holdsBetween_eq actual expected

theorem valuesWith_eq_some_iff {read : Option Value} : valuesWith actual read = some operands ↔
    ∃ value, read = some value ∧ value.isNull = false ∧ operands = .values actual value := by
  cases read with
  | none => simp [valuesWith]
  | some value =>
      have order : Operands.values actual value = operands ↔ operands = .values actual value :=
        eq_comm
      cases null : value.isNull <;> simp [valuesWith, null, order]

theorem instantsOf?_eq_some_iff : instantsOf? actual expected = some operands ↔
    ∃ first second, readInstant? actual = some first ∧ readInstant? expected = some second ∧
      operands = .instants first second := by
  simp only [instantsOf?, Option.bind_eq_bind, Option.bind_eq_some_iff, Option.some.injEq]
  grind

/-- Pairing what was read with the value of the record adds no success. -/
theorem pairing_eq_ok_iff {first : Except Fault (Option Value)} :
    (do .ok (valuesWith actual (← first)) : Except Fault (Option Operands)) = .ok (some operands) ↔
      ∃ value, first = .ok (some value) ∧ value.isNull = false ∧
      operands = .values actual value := by
  rw [bind_eq_ok_iff]
  simp only [Except.ok.injEq, valuesWith_eq_some_iff]
  grind

theorem definedFloat?_eq_some_iff {x : Float} {value : Value} :
    definedFloat? x = some value ↔ Quantity.ofFloat x ≠ .undefined ∧ value = .float x := by
  unfold definedFloat?
  split <;> simp_all [eq_comm]

theorem isScalar_of_readNumber {number : Value} (read : readNumber expected = .ok (some number)) :
    number.IsScalar := by
  cases expected with
  | int i =>
      simp only [readNumber] at read
      split at read
      · cases read
        exact .int i
      · cases read
  | float x =>
      obtain ⟨_, rfl⟩ := definedFloat?_eq_some_iff.mp (Except.ok.inj read)
      exact .float x
  | text s =>
      obtain ⟨x, _, defined⟩ := Option.bind_eq_some_iff.mp (Except.ok.inj read)
      obtain ⟨_, rfl⟩ := definedFloat?_eq_some_iff.mp defined
      exact .float x
  | _ => cases read

/-- A number or a text of a rule stays a scalar, whatever it is read as. -/
theorem isScalar_of_operandsFor (isOperand : IsOperand expected)
    (made : operandsFor kind actual expected = .ok (some operands)) : operands.IsScalar := by
  have ofNumber (asked : (do .ok (valuesWith actual (← readNumber expected)) : Except Fault
      (Option Operands)) = .ok (some operands)) : operands.IsScalar := by
    obtain ⟨number, read, _, rfl⟩ := pairing_eq_ok_iff.mp asked
    exact .values (isScalar_of_readNumber read)
  have ofInstants (asked : instantsOf? actual expected = some operands) : operands.IsScalar := by
    obtain ⟨first, second, _, _, rfl⟩ := instantsOf?_eq_some_iff.mp asked
    exact .instants first second
  have ofItself (asked : valuesWith actual (some expected) = some operands) :
      operands.IsScalar := by
    obtain ⟨_, same, _, rfl⟩ := valuesWith_eq_some_iff.mp asked
    cases same
    cases isOperand with
    | int i => exact .values (.int i)
    | float x => exact .values (.float x)
    | text s => exact .values (.text s)
  cases kind with
  | number => exact ofNumber made
  | instant => exact ofInstants (Except.ok.inj made)
  | native =>
      cases actual with
      | int i => exact ofNumber made
      | float x => exact ofNumber made
      | time t => exact ofInstants (Except.ok.inj made)
      | date d => exact ofInstants (Except.ok.inj made)
      | bool b =>
          obtain ⟨_, read, _, rfl⟩ := valuesWith_eq_some_iff.mp (Except.ok.inj made)
          obtain ⟨word, _, rfl⟩ := Option.map_eq_some_iff.mp read
          exact .values (.bool word)
      | text s =>
          obtain ⟨read, _, paired⟩ := bind_eq_ok_iff.mp made
          obtain ⟨_, isText, _, rfl⟩ := valuesWith_eq_some_iff.mp (Except.ok.inj paired)
          obtain ⟨t, _, rfl⟩ := Option.map_eq_some_iff.mp isText
          exact .values (.text t)
      | null => exact ofItself (Except.ok.inj made)
      | list items => exact ofItself (Except.ok.inj made)
      | map fields => exact ofItself (Except.ok.inj made)

/-- A rule's value can be read, unless it is a whole number beyond the doubles. -/
theorem exists_operandsFor_eq_ok (inRange : ∀ i, expected = .int i → i.natAbs < doubleBound) :
    ∃ read, operandsFor kind actual expected = .ok read := by
  cases read : operandsFor kind actual expected with
  | ok operands => exact ⟨operands, rfl⟩
  | error fault =>
      obtain ⟨i, isInt, unreadable⟩ := operandsFor_eq_error_iff.mp read
      exact absurd unreadable.large (Nat.not_le.mpr (inRange i isInt))

end Operands

/-! ## What a condition comes to -/

/-- A condition on a field of a record comes to operands: the field is there and holds `actual`,
which is not null, and the rule's value is read as the kind of the field or of what it holds. -/
structure ComesTo (record : Value) (name : String) (expected actual : Value) (operands : Operands) :
    Prop where
  held : lookUp record (canonicalField name) = .ok actual
  notNull : actual ≠ .null
  read : operandsFor (fieldKind (canonicalField name)) actual expected = .ok (some operands)

section ComesTo

variable {record actual expected leaf : Value} {name : String} {operands : Operands}
    {c : Comparison}

/-- Comparing with the value of a rule, once it is known what it is read as. -/
theorem compareField_symbol {kind : FieldKind} {read : Option Operands} (notNull : actual ≠ .null)
    (readEq : operandsFor kind actual expected = .ok read) :
    compareField kind actual (.text c.symbol) expected = .ok (read.any (·.satisfy c)) := by
  have present : ¬actual.isNull = true := by cases actual <;> simp [Value.isNull] at notNull ⊢
  rw [compareField, if_neg present, comparisonOf?_eq_some_iff.mpr rfl]
  cases read <;> simp [readEq, bind, Except.bind]

/-- A condition compares what the record holds. -/
theorem evaluate_of_held (held : lookUp record (canonicalField name) = .ok actual)
    (isCondition : IsCondition leaf (.text name) (.text c.symbol) expected) :
    evaluate leaf record = compareField (fieldKind (canonicalField name)) actual (.text c.symbol)
    expected := by
  rw [isCondition.evaluate_eq]
  change (lookUp record (canonicalField name) >>= _) = _
  rw [held]
  rfl

theorem ComesTo.evaluate_eq (comesTo : ComesTo record name expected actual operands)
    (isCondition : IsCondition leaf (.text name) (.text c.symbol) expected) :
    evaluate leaf record = .ok (operands.satisfy c) := by
  rw [evaluate_of_held comesTo.held isCondition]
  exact compareField_symbol comesTo.notNull comesTo.read

/-- On a record with fields, a condition comes to operands, or it is false for
all six comparisons. -/
theorem comesTo_or_false (fields : Fields) (name : String)
    (inRange : ∀ i, expected = .int i → i.natAbs < doubleBound) :
    (∃ actual operands, ComesTo (.map fields) name expected actual operands) ∨
      (¬∃ actual operands, ComesTo (.map fields) name expected actual operands) ∧
        ∀ c leaf, IsCondition leaf (.text name) (.text (Comparison.symbol c)) expected →
          evaluate leaf (.map fields) = .ok false := by
  obtain ⟨actual, held⟩ : ∃ actual, lookUp (.map fields) (canonicalField name) = .ok actual :=
    ⟨_, rfl⟩
  by_cases null : actual = .null
  · right
    constructor
    · rintro ⟨other, _, comesTo⟩
      exact comesTo.notNull (Except.ok.inj (comesTo.held.symm.trans held) ▸ null)
    · intro c leaf isCondition
      rw [evaluate_of_held held isCondition, null]
      rfl
  · obtain ⟨read, readEq⟩ : ∃ read, operandsFor (fieldKind (canonicalField name)) actual expected =
      .ok read :=
      exists_operandsFor_eq_ok inRange
    cases read with
    | some operands => exact Or.inl ⟨actual, operands, held, null, readEq⟩
    | none =>
        right
        constructor
        · rintro ⟨other, operands, comesTo⟩
          obtain rfl := Except.ok.inj (comesTo.held.symm.trans held)
          cases comesTo.read.symm.trans readEq
        · intro c leaf isCondition
          rw [evaluate_of_held held isCondition, compareField_symbol null readEq]
          rfl

end ComesTo

/-! ## Coherence -/

/-- Verdicts of the six comparisons on the same two sides that agree with each other. -/
structure Coherent (verdict : Comparison → Bool) : Prop where
  ge_eq : verdict .ge = (verdict .gt || verdict .eq)
  le_eq : verdict .le = (verdict .lt || verdict .eq)
  atMostOne : [Comparison.lt, .eq, .gt].countP verdict ≤ 1

/-- Whatever the order of two sides, and if there is none, the comparisons agree with each other. -/
theorem coherent_decides (order : Option Ordering) : Coherent (·.decides order) := by
  rcases order with _ | _ | _ | _ <;> exact ⟨rfl, rfl, by decide⟩

/-- On a record with fields, the six conditions that compare a field with a number or a text can all
be decided, and agree with each other. Either the condition comes to no operands and all six are
false, or exactly one of "equal" and "not equal" is true. -/
theorem comparisons_cohere {fields : Fields} {name : String} {expected : Value}
    {leaf : Comparison → Value}
    (isCondition : ∀ c, IsCondition (leaf c) (.text name) (.text c.symbol) expected)
    (isOperand : IsOperand expected) (inRange : ∀ i, expected = .int i → i.natAbs < doubleBound) :
    ∃ verdict : Comparison → Bool, (∀ c, evaluate (leaf c) (.map fields) = .ok (verdict c)) ∧
    Coherent verdict ∧
      ((¬∃ actual operands, ComesTo (.map fields) name expected actual operands) ∧
        (∀ c, verdict c = false) ∨
        (∃ actual operands, ComesTo (.map fields) name expected actual operands) ∧
          verdict .ne = !verdict .eq) := by
  rcases comesTo_or_false fields name inRange with ⟨actual, operands, comesTo⟩ | ⟨nothing, allFalse⟩
  · have isScalar := isScalar_of_operandsFor isOperand comesTo.read
    refine ⟨(·.decides operands.order?), ?_, coherent_decides _,
      Or.inr ⟨⟨actual, operands, comesTo⟩, rfl⟩⟩
    intro c
    rw [comesTo.evaluate_eq (isCondition c), isScalar.satisfy_eq]
  · refine ⟨fun _ => false, ?_, ⟨rfl, rfl, by decide⟩, Or.inl ⟨nothing, fun _ => rfl⟩⟩
    intro c
    exact allFalse c (leaf c) (isCondition c)

/-- Spend compared with a whole number that no double equals, by the field's second spelling. -/
def spendAgainst (c : Comparison) : Value := conditionNode "total_spend" c (.int 9007199254740993)

/-- A spend that is a double next to that number. -/
def nearbySpend : Fields := [("totalSpend", .float 9007199254740992.0)]

/-- The double and the whole number are compared exactly: the one is less than the other. -/
theorem nearbySpend_coheres :
    (∃ verdict : Comparison → Bool,
      (∀ c, evaluate (spendAgainst c) (.map nearbySpend) = .ok (verdict c)) ∧
      Coherent verdict ∧ verdict .ne = !verdict .eq) ∧
      ∀ c, evaluate (spendAgainst c) (.map nearbySpend) =
      .ok (decide (c ∈ [Comparison.lt, .le, .ne])) := by
  have isCondition (c : Comparison) :
      IsCondition (spendAgainst c) (.text "total_spend") (.text c.symbol)
      (.int 9007199254740993) := isCondition_conditionNode ..
  have small : ∀ i, Value.int 9007199254740993 = .int i → i.natAbs < doubleBound :=
    fun i same => Value.int.inj same ▸ by decide +kernel
  have evaluated (c : Comparison) :
      evaluate (spendAgainst c) (.map nearbySpend) =
      .ok (decide (c ∈ [Comparison.lt, .le, .ne])) := by
    cases c <;> rfl
  obtain ⟨verdict, isVerdict, coherent, ⟨_, allFalse⟩ | ⟨_, opposed⟩⟩ :=
    comparisons_cohere isCondition (.int 9007199254740993) small
  · have less := (isVerdict .lt).symm.trans (evaluated .lt)
    rw [allFalse] at less
    cases less
  · exact ⟨⟨verdict, isVerdict, coherent, opposed⟩, evaluated⟩

end Outreach.Audience
