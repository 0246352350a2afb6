import Outreach.Proofs.Audience.Contexts
import Outreach.Proofs.Audience.Operators

/-!
# Thresholds

A condition with one of the four inequalities compares a field with a threshold. What a record
holds and the two thresholds lie in one linear order when they are compared at all: the line of
numbers, the texts, or the instants. So a record that is above a threshold is above every lower
one, and one that is below is below every higher one: raising a minimum or lowering a maximum adds
no record to an audience.
-/

namespace Outreach

open Decimal

namespace Comparison

/-- The comparison holds above a threshold. -/
def IsMinimum (c : Comparison) : Prop := c = .gt ∨ c = .ge

/-- The comparison holds below a threshold. -/
def IsMaximum (c : Comparison) : Prop := c = .lt ∨ c = .le

section Order

variable {α : Type} [LinearOrder α]

attribute [local simp] ofOrder

theorem ofOrder_gt_iff {u x : α} : Comparison.gt.ofOrder (some (compare u x)) = true ↔ x < u := by
  rw [← compare_gt_iff_gt]
  cases compare u x <;> simp

theorem ofOrder_lt_iff {u x : α} : Comparison.lt.ofOrder (some (compare u x)) = true ↔ u < x := by
  rw [← compare_lt_iff_lt]
  cases compare u x <;> simp

theorem ofOrder_ge_iff {u x : α} : Comparison.ge.ofOrder (some (compare u x)) = true ↔ x ≤ u := by
  rw [← compare_ge_iff_ge]
  cases compare u x <;> simp

theorem ofOrder_le_iff {u x : α} : Comparison.le.ofOrder (some (compare u x)) = true ↔ u ≤ x := by
  rw [← compare_le_iff_le]
  cases compare u x <;> simp

variable {c : Comparison} {u : Option α} {x y : α}

/-- What is above a threshold is above a lower one. -/
theorem ofOrder_of_minimum (minimum : c.IsMinimum) (le : x ≤ y)
    (above : c.ofOrder (u.map (compare · y)) = true) : c.ofOrder (u.map (compare · x)) = true := by
  cases u with
  | none => rcases minimum with rfl | rfl <;> cases above
  | some u =>
      rcases minimum with rfl | rfl
      · exact ofOrder_gt_iff.mpr (le.trans_lt (ofOrder_gt_iff.mp above))
      · exact ofOrder_ge_iff.mpr (le.trans (ofOrder_ge_iff.mp above))

/-- What is below a threshold is below a higher one. -/
theorem ofOrder_of_maximum (maximum : c.IsMaximum) (le : x ≤ y)
    (below : c.ofOrder (u.map (compare · x)) = true) : c.ofOrder (u.map (compare · y)) = true := by
  cases u with
  | none => rcases maximum with rfl | rfl <;> cases below
  | some u =>
      rcases maximum with rfl | rfl
      · exact ofOrder_lt_iff.mpr ((ofOrder_lt_iff.mp below).trans_le le)
      · exact ofOrder_le_iff.mpr ((ofOrder_le_iff.mp below).trans le)

end Order

end Comparison

/-- A number or a truth value is at most another, or a text at most another. -/
inductive Value.AtMost : Value → Value → Prop
  | numbers {a b : Value} {x y : Line} (first : a.position? = some x)
      (second : b.position? = some y) (le : x ≤ y) : AtMost a b
  | texts {s t : String} (le : s ≤ t) : AtMost (.text s) (.text t)

namespace Audience

section Operands

variable {lower upper : Operands} {c : Comparison}

/-- The rule's side of the operands is at most that of others with the same record. -/
inductive Operands.AtMost : Operands → Operands → Prop
  | values {actual a b : Value} (le : a.AtMost b) : AtMost (.values actual a) (.values actual b)
  | instants {actual a b : Instant} (le : a ≤ b) : AtMost (.instants actual a) (.instants actual b)

theorem Operands.satisfy_of_isMinimum (minimum : c.IsMinimum) (operands : Operands) :
    operands.satisfy c = c.ofOrder operands.order? := by
  rcases minimum with rfl | rfl <;> cases operands <;> rfl

theorem Operands.satisfy_of_isMaximum (maximum : c.IsMaximum) (operands : Operands) :
    operands.satisfy c = c.ofOrder operands.order? := by
  rcases maximum with rfl | rfl <;> cases operands <;> rfl

/-- The rule's sides lie in one linear order, in which the side of the record
has a place or none. -/
theorem Operands.AtMost.linear (atMost : lower.AtMost upper) :
    ∃ (α : Type) (_ : LinearOrder α) (u : Option α)
    (x y : α), x ≤ y ∧ lower.order? = u.map (compare · x) ∧ upper.order? = u.map (compare · y) := by
  cases atMost with
  | @values actual a b le =>
      cases le with
      | @numbers _ _ x y first second le =>
          exact ⟨Line, inferInstance, actual.position?, x, y, le, Value.order?_of_position first,
            Value.order?_of_position second⟩
      | @texts s t le =>
          exact ⟨String, inferInstance, actual.text?, s, t, le, Value.order?_text s,
            Value.order?_text t⟩
  | @instants actual a b le => exact ⟨Int, inferInstance, some actual, a, b, le, rfl, rfl⟩

theorem Operands.AtMost.satisfy_lower (atMost : lower.AtMost upper) (minimum : c.IsMinimum)
    (above : upper.satisfy c = true) : lower.satisfy c = true := by
  obtain ⟨α, _, u, x, y, le, lowerEq, upperEq⟩ := atMost.linear
  rw [Operands.satisfy_of_isMinimum minimum, upperEq] at above
  rw [Operands.satisfy_of_isMinimum minimum, lowerEq]
  exact Comparison.ofOrder_of_minimum minimum le above

theorem Operands.AtMost.satisfy_upper (atMost : lower.AtMost upper) (maximum : c.IsMaximum)
    (below : lower.satisfy c = true) : upper.satisfy c = true := by
  obtain ⟨α, _, u, x, y, le, lowerEq, upperEq⟩ := atMost.linear
  rw [Operands.satisfy_of_isMaximum maximum, lowerEq] at below
  rw [Operands.satisfy_of_isMaximum maximum, upperEq]
  exact Comparison.ofOrder_of_maximum maximum le below

end Operands

/-! ## Thresholds of a field -/

section Thresholds

variable {record leaf expected actual a b : Value} {name : String} {c : Comparison}
    {operands : Operands}

/-- A condition that is satisfied has come to operands. -/
theorem exists_comesTo_of_satisfied
    (isCondition : IsCondition leaf (.text name) (.text c.symbol) expected)
    (satisfied : evaluate leaf record = .ok true) :
    ∃ actual operands, ComesTo record name expected actual operands := by
  have evaluated := satisfied
  rw [isCondition.evaluate_eq] at evaluated
  obtain ⟨actual, held, _⟩ := bind_eq_ok_iff.mp evaluated
  rw [evaluate_of_held held isCondition] at satisfied
  have notNull : actual ≠ .null := by
    rintro rfl
    cases satisfied
  cases readEq : operandsFor (fieldKind (canonicalField name)) actual expected with
  | error fault =>
      have failed := compareField_eq_error_iff.mpr
        ⟨notNull, ⟨c, rfl⟩, operandsFor_eq_error_iff.mp readEq⟩
      rw [failed] at satisfied
      cases satisfied
  | ok read =>
      rw [compareField_symbol notNull readEq] at satisfied
      cases read with
      | none => cases satisfied
      | some operands => exact ⟨actual, operands, held, notNull, readEq⟩

/-- Two thresholds for a field are in order on a record: conditions with them come to operands of
one kind, the first at most the second, or neither condition comes to any. -/
inductive InOrder (record : Value) (name : String) (a b : Value) : Prop
  | operands {actual : Value} {low high : Operands} (ofLow : ComesTo record name a actual low)
      (ofHigh : ComesTo record name b actual high) (atMost : low.AtMost high) :
      InOrder record name a b
  | nothing (notLow : ¬∃ actual operands, ComesTo record name a actual operands)
      (notHigh : ¬∃ actual operands, ComesTo record name b actual operands) :
      InOrder record name a b

/-- Two thresholds for a field that is compared as a number, or as an instant,
whatever the records hold. -/
inductive ReadInOrder (name : String) (a b : Value) : Prop
  | numbers {x y : Value} (kind : fieldKind (canonicalField name) = .number)
      (first : readNumber a = .ok (some x)) (second : readNumber b = .ok (some y))
      (le : x.AtMost y) :
      ReadInOrder name a b
  | instants {s t : Instant} (kind : fieldKind (canonicalField name) = .instant)
      (first : readInstant? a = some s) (second : readInstant? b = some t) (le : s ≤ t) :
      ReadInOrder name a b

/-- A condition on a field of numbers comes to operands wherever the field holds something. -/
theorem comesTo_number_iff {number : Value} (kind : fieldKind (canonicalField name) = .number)
    (read : readNumber expected = .ok (some number)) :
    ComesTo record name expected actual operands ↔
      lookUp record (canonicalField name) = .ok actual ∧ actual ≠ .null ∧
      operands = .values actual number := by
  have made : operandsFor .number actual expected = .ok (some (.values actual number)) := by
    simp only [operandsFor, read]
    cases isScalar_of_readNumber read <;> rfl
  constructor
  · rintro ⟨held, notNull, readEq⟩
    rw [kind, made, Except.ok.injEq, Option.some.injEq] at readEq
    exact ⟨held, notNull, readEq.symm⟩
  · rintro ⟨held, notNull, rfl⟩
    exact ⟨held, notNull, kind ▸ made⟩

/-- A condition on a field of instants comes to operands wherever the field holds
what can be read as one. -/
theorem comesTo_instant_iff {t : Instant} (kind : fieldKind (canonicalField name) = .instant)
    (read : readInstant? expected = some t) : ComesTo record name expected actual operands ↔
      lookUp record (canonicalField name) = .ok actual ∧ actual ≠ .null ∧
        ∃ instant, readInstant? actual = some instant ∧ operands = .instants instant t := by
  have made : operandsFor .instant actual expected = .ok (some operands) ↔
      ∃ instant, readInstant? actual = some instant ∧ operands = .instants instant t := by
    rw [operandsFor, Except.ok.injEq, instantsOf?_eq_some_iff]
    simp [read]
  constructor
  · rintro ⟨held, notNull, readEq⟩
    exact ⟨held, notNull, made.mp (kind ▸ readEq)⟩
  · rintro ⟨held, notNull, isInstant⟩
    exact ⟨held, notNull, kind ▸ made.mpr isInstant⟩

/-- Such thresholds are in order on every record. -/
theorem ReadInOrder.inOrder (inOrder : ReadInOrder name a b) (record : Value) :
    InOrder record name a b := by
  by_cases comes : ∃ actual operands, ComesTo record name a actual operands
  · obtain ⟨actual, operands, comesTo⟩ := comes
    cases inOrder with
    | numbers kind first second le =>
        obtain ⟨held, notNull, rfl⟩ := (comesTo_number_iff kind first).mp comesTo
        exact .operands comesTo
          ((comesTo_number_iff kind second).mpr ⟨held, notNull, rfl⟩) (.values le)
    | instants kind first second le =>
        obtain ⟨held, notNull, instant, isInstant, rfl⟩ :=
          (comesTo_instant_iff kind first).mp comesTo
        exact .operands comesTo ((comesTo_instant_iff kind second).mpr ⟨held, notNull, instant,
          isInstant, rfl⟩) (.instants le)
  · refine .nothing comes ?_
    rintro ⟨actual, operands, comesTo⟩
    cases inOrder with
    | numbers kind first second _ =>
        obtain ⟨held, notNull, _⟩ := (comesTo_number_iff kind second).mp comesTo
        exact comes ⟨actual, _, (comesTo_number_iff kind first).mpr ⟨held, notNull, rfl⟩⟩
    | instants kind first second _ =>
        obtain ⟨held, notNull, instant, isInstant, _⟩ :=
          (comesTo_instant_iff kind second).mp comesTo
        exact comes ⟨actual, _,
          (comesTo_instant_iff kind first).mpr ⟨held, notNull, instant, isInstant, rfl⟩⟩

variable {lower upper : Comparison → Value} {low high : Operands}

/-- A record above the upper threshold is above the lower one, and a record below the lower
threshold is below the upper one. -/
theorem evaluate_of_atMost (isLower : ∀ c, IsCondition (lower c) (.text name) (.text c.symbol) a)
    (isUpper : ∀ c, IsCondition (upper c) (.text name) (.text c.symbol) b)
    (ofLow : ComesTo record name a actual low) (ofHigh : ComesTo record name b actual high)
    (atMost : low.AtMost high) :
    (c.IsMinimum → evaluate (upper c) record = .ok true → evaluate (lower c) record = .ok true) ∧
      (c.IsMaximum → evaluate (lower c) record = .ok true →
        evaluate (upper c) record = .ok true) := by
  rw [ofHigh.evaluate_eq (isUpper c), ofLow.evaluate_eq (isLower c), Except.ok.injEq,
    Except.ok.injEq]
  exact ⟨atMost.satisfy_lower, atMost.satisfy_upper⟩

/-- The same where the thresholds are in order on the record: without operands, neither
condition is satisfied. -/
theorem InOrder.monotone (inOrder : InOrder record name a b)
    (isLower : ∀ c, IsCondition (lower c) (.text name) (.text c.symbol) a)
    (isUpper : ∀ c, IsCondition (upper c) (.text name) (.text c.symbol) b) :
    (c.IsMinimum → evaluate (upper c) record = .ok true → evaluate (lower c) record = .ok true) ∧
      (c.IsMaximum → evaluate (lower c) record = .ok true →
        evaluate (upper c) record = .ok true) := by
  cases inOrder with
  | operands ofLow ofHigh atMost => exact evaluate_of_atMost isLower isUpper ofLow ofHigh atMost
  | nothing notLow notHigh =>
      constructor
      · intro _ satisfied
        exact absurd (exists_comesTo_of_satisfied (isUpper c) satisfied) notHigh
      · intro _ satisfied
        exact absurd (exists_comesTo_of_satisfied (isLower c) satisfied) notLow

/-- Where two thresholds are in order on all records, the upper minimum has the smaller audience,
and so has the lower maximum. -/
theorem audience_sublist_of_inOrder {population : List Value}
    (isLower : ∀ c, IsCondition (lower c) (.text name) (.text c.symbol) a)
    (isUpper : ∀ c, IsCondition (upper c) (.text name) (.text c.symbol) b)
    (inOrder : ∀ record ∈ population, InOrder record name a b) :
    (c.IsMinimum → (audience (upper c) population).Sublist (audience (lower c) population)) ∧
      (c.IsMaximum → (audience (lower c) population).Sublist (audience (upper c) population)) := by
  constructor
  · intro minimum
    apply audience_sublist
    intro record recordMem
    rw [belongs_iff, belongs_iff]
    exact ((inOrder record recordMem).monotone isLower isUpper).1 minimum
  · intro maximum
    apply audience_sublist
    intro record recordMem
    rw [belongs_iff, belongs_iff]
    exact ((inOrder record recordMem).monotone isLower isUpper).2 maximum

end Thresholds

/-- Two thresholds `a` and `b` for one field. On a record on which both are read as operands of one
kind, the first at most the second, what is above `b` is above `a`, and what is below `a` is below
`b`. So no audience grows when a minimum is raised from `a` to `b`, or a maximum lowered from `b` to
`a`, as long as the thresholds are in order on all its records; for the fields that are always
compared as numbers or as instants they are so on any records when they are read in order. -/
theorem thresholds_monotone {name : String} {a b : Value} {lower upper : Comparison → Value}
    (isLower : ∀ c, IsCondition (lower c) (.text name) (.text c.symbol) a)
    (isUpper : ∀ c, IsCondition (upper c) (.text name) (.text c.symbol) b) :
    (∀ {record actual low high c}, ComesTo record name a actual low →
      ComesTo record name b actual high →
      low.AtMost high →
      (c.IsMinimum → evaluate (upper c) record = .ok true → evaluate (lower c) record = .ok true) ∧
      (c.IsMaximum → evaluate (lower c) record = .ok true → evaluate (upper c) record = .ok true)) ∧
    ∀ {population c}, (∀ record ∈ population, InOrder record name a b) ∨ ReadInOrder name a b →
      (c.IsMinimum → (audience (upper c) population).Sublist (audience (lower c) population)) ∧
      (c.IsMaximum → (audience (lower c) population).Sublist (audience (upper c) population)) := by
  refine ⟨evaluate_of_atMost isLower isUpper, ?_⟩
  rintro population c (inOrder | readInOrder)
  · exact audience_sublist_of_inOrder isLower isUpper inOrder
  · exact audience_sublist_of_inOrder isLower isUpper fun record _ => readInOrder.inOrder record

/-- Spend compared with a double, one below the whole number that `spendAgainst` names. -/
def spendAgainstDouble (c : Comparison) : Value :=
  conditionNode "total_spend" c (.float 9007199254740992.0)

/-- Customers who have spent the one or the other number, a text, or nothing. -/
def bigSpenders : List Value :=
  [.map [("totalSpend", .int 9007199254740992)], .map [("totalSpend", .int 9007199254740993)],
    .map [("totalSpend", .text "plenty")], .map []]

/-- A double and a whole number between it and the next double are thresholds in order, and tell
customers apart who have spent the one or the other. -/
theorem bigSpenders_thresholds :
    evaluate (spendAgainst .le) (.map nearbySpend) = .ok true ∧
      ReadInOrder "total_spend" (.float 9007199254740992.0) (.int 9007199254740993) ∧
      (audience (spendAgainst .ge) bigSpenders).Sublist
      (audience (spendAgainstDouble .ge) bigSpenders) ∧
      (audience (spendAgainstDouble .le) bigSpenders).Sublist
      (audience (spendAgainst .le) bigSpenders) ∧
      [spendAgainst .ge, spendAgainstDouble .ge, spendAgainstDouble .le, spendAgainst .le].map
        (audienceSize · bigSpenders) = [1, 2, 1, 2] := by
  have isLower (c : Comparison) :
      IsCondition (spendAgainstDouble c) (.text "total_spend") (.text c.symbol)
      (.float 9007199254740992.0) := isCondition_conditionNode ..
  have isUpper (c : Comparison) :
      IsCondition (spendAgainst c) (.text "total_spend") (.text c.symbol)
      (.int 9007199254740993) := isCondition_conditionNode ..
  obtain ⟨onRecord, onAudience⟩ := thresholds_monotone isLower isUpper
  have liesOn : LiesOn 9007199254740992.0 9007199254740992 := liesOn_iff.mpr ⟨rfl, rfl⟩
  have le : (Value.float 9007199254740992.0).AtMost (.int 9007199254740993) :=
    .numbers liesOn (Quantity.position?_ofInt _) (Line.point_strictMono.monotone (by norm_num))
  have inOrder : ReadInOrder "total_spend" (.float 9007199254740992.0) (.int 9007199254740993) :=
    .numbers rfl rfl rfl le
  have comesTo {expected number : Value} (read : readNumber expected = .ok (some number)) :
      ComesTo (.map nearbySpend)
      "total_spend" expected (.float 9007199254740992.0)
      (.values (.float 9007199254740992.0) number) :=
    (comesTo_number_iff rfl read).mpr ⟨rfl, nofun, rfl⟩
  refine ⟨?_, inOrder, ?_, ?_, rfl⟩
  · exact (onRecord (comesTo rfl) (comesTo rfl) (.values le)).2 (Or.inr rfl) rfl
  · exact (onAudience (Or.inr inOrder)).1 (Or.inr rfl)
  · exact (onAudience (Or.inr inOrder)).2 (Or.inr rfl)

end Audience

end Outreach
