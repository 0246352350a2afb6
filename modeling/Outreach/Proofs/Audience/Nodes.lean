import Outreach.Audience.Evaluate

/-!
# Nodes of a rule

A rule comes as a value. A node of it that is a map is a group, when its operator names a
connective, or else a condition. How a node is evaluated depends on its own parts alone: a part
that is missing counts as null, and further parts make no difference. Everything else in the
place of a node is false.
-/

namespace Outreach.Audience

/-- A node that joins a list of conditions. -/
structure IsGroup (node : Value) (connective : Connective) (items : List Value) : Prop where
  operator : node.field "operator" = .text connective.word
  conditions : node.field "conditions" = .list items

/-- A node that compares a field of the record. -/
structure IsCondition (node field operator operand : Value) : Prop where
  isMap : ∃ fields, node = .map fields
  named : node.field "field" = field
  compared : node.field "operator" = operator
  against : node.field "value" = operand
  noConnective : Connective.ofValue? operator = none

/-- What a group without conditions is. -/
def Connective.neutral : Connective → Bool
  | .all => true
  | .any => false

theorem Connective.ofValue?_eq_some_iff {value : Value} {connective : Connective} :
    Connective.ofValue? value = some connective ↔ value = .text connective.word := by
  constructor
  · unfold Connective.ofValue?
    split
    · rintro ⟨⟩
      rfl
    · rintro ⟨⟩
      rfl
    · rintro ⟨⟩
  · rintro rfl
    cases connective <;> rfl

/-- The six signs name the comparisons. -/
theorem comparisonOf?_eq_some_iff {operator : Value} {comparison : Comparison} :
    comparisonOf? operator = some comparison ↔ operator = .text comparison.symbol := by
  constructor
  · intro named
    unfold comparisonOf? at named
    split at named
    · rename_i sign
      unfold Comparison.ofSymbol? at named
      split at named <;> cases named <;> rfl
    · cases named
  · rintro rfl
    exact Comparison.ofSymbol?_symbol comparison

theorem Connective.ofValue?_symbol (comparison : Comparison) :
    Connective.ofValue? (.text comparison.symbol) = none := by
  cases comparison <;> rfl

theorem Connective.word_inj {first second : Connective} (same : first.word = second.word) :
    first = second := by
  revert same
  cases first <;> cases second <;> decide

namespace Rule

theorem conditionsOf_eq (fields : Fields) :
    conditionsOf fields = match (Value.map fields).field "conditions" with
      | .list values => .listed (values.map ofValue)
      | value => .other value := by
  induction fields with
  | nil => rfl
  | cons head rest ih =>
      obtain ⟨name, value⟩ := head
      simp only [Value.field, Keyed.get?] at ih ⊢
      by_cases here : name = "conditions"
      · rw [if_pos here, Option.getD_some]
        cases value <;> simp [conditionsOf, here]
      · rw [if_neg here, ← ih]
        cases value <;> simp [conditionsOf, here]

theorem ofValue_map (fields : Fields) :
    ofValue (.map fields) = match Connective.ofValue? ((Value.map fields).field "operator") with
      | some connective => ofConditions connective (conditionsOf fields)
      | none => .condition ((Value.map fields).field "field") ((Value.map fields).field "operator")
          ((Value.map fields).field "value") := by
  rw [ofValue]
  rfl

end Rule

section Nodes

variable {node field operator operand : Value} {connective : Connective} {items : List Value}

/-- Only a map has a part that is not null. -/
theorem isMap_of_field_ne (name : String) (present : node.field name ≠ .null) :
    ∃ fields, node = .map fields := by
  cases node with
  | map fields => exact ⟨fields, rfl⟩
  | _ => exact absurd rfl present

theorem IsGroup.isMap (isGroup : IsGroup node connective items) : ∃ fields, node = .map fields := by
  apply isMap_of_field_ne "operator"
  rw [isGroup.operator]
  rintro ⟨⟩

theorem IsGroup.unique {other : Connective} {others : List Value}
    (isGroup : IsGroup node connective items)
    (again : IsGroup node other others) : connective = other ∧ items = others := by
  have words := isGroup.operator.symm.trans again.operator
  have lists := isGroup.conditions.symm.trans again.conditions
  exact ⟨Connective.word_inj (Value.text.inj words), Value.list.inj lists⟩

/-- No node is a group and a condition at once. -/
theorem IsGroup.not_isCondition (isGroup : IsGroup node connective items) :
    ¬IsCondition node field operator operand := by
  intro isCondition
  have named :=
    Connective.ofValue?_eq_some_iff.mpr (isCondition.compared.symm.trans isGroup.operator)
  rw [isCondition.noConnective] at named
  cases named

theorem IsGroup.ofValue_eq (isGroup : IsGroup node connective items) :
    Rule.ofValue node = .group connective (items.map Rule.ofValue) := by
  obtain ⟨fields, rfl⟩ := isGroup.isMap
  rw [Rule.ofValue_map, Connective.ofValue?_eq_some_iff.mpr isGroup.operator, Rule.conditionsOf_eq,
    isGroup.conditions]
  rfl

theorem IsCondition.ofValue_eq (isCondition : IsCondition node field operator operand) :
    Rule.ofValue node = .condition field operator operand := by
  obtain ⟨fields, rfl⟩ := isCondition.isMap
  rw [Rule.ofValue_map, isCondition.compared, isCondition.noConnective, isCondition.named,
    isCondition.against]

theorem IsCondition.evaluate_eq (isCondition : IsCondition node field operator operand)
    (record : Value) :
    evaluate node record = evaluateCondition record field operator operand := by
  rw [evaluate, isCondition.ofValue_eq, Rule.evaluate]

theorem sizeOf_field_lt (name : String) (fields : Fields) :
    sizeOf ((Value.map fields).field name) < sizeOf (Value.map fields) := by
  induction fields with
  | nil => simp [Value.field]
  | cons head rest ih =>
      obtain ⟨key, value⟩ := head
      simp only [Value.field, Keyed.get?, Value.map.sizeOf_spec, List.cons.sizeOf_spec,
        Prod.mk.sizeOf_spec]
        at ih ⊢
      split
      · rw [Option.getD_some]
        omega
      · omega

/-- The conditions of a group are smaller than the group. -/
theorem IsGroup.sizeOf_lt (isGroup : IsGroup node connective items) {item : Value}
    (itemMem : item ∈ items) :
    sizeOf item < sizeOf node := by
  obtain ⟨fields, rfl⟩ := isGroup.isMap
  have inList : sizeOf item < sizeOf items := List.sizeOf_lt_of_mem itemMem
  have inMap := sizeOf_field_lt "conditions" fields
  rw [isGroup.conditions] at inMap
  simp only [Value.list.sizeOf_spec] at inMap
  omega

/-- Every node is a group, a condition, or false for every record. -/
theorem node_cases (node : Value) :
    (∃ connective items, IsGroup node connective items) ∨
      (∃ field operator operand, IsCondition node field operator operand) ∨
      ∀ record, evaluate node record = .ok false := by
  cases node with
  | map fields =>
      cases named : Connective.ofValue? ((Value.map fields).field "operator") with
      | none => exact Or.inr (Or.inl ⟨_, _, _, ⟨fields, rfl⟩, rfl, rfl, rfl, named⟩)
      | some connective =>
          have operator := Connective.ofValue?_eq_some_iff.mp named
          cases listed : (Value.map fields).field "conditions" with
          | list items => exact Or.inl ⟨connective, items, operator, listed⟩
          | _ =>
              refine Or.inr (Or.inr fun record => ?_)
              rw [evaluate, Rule.ofValue_map, named, Rule.conditionsOf_eq, listed]
              simp [Rule.ofConditions, Rule.evaluate]
  | _ =>
      refine Or.inr (Or.inr fun record => ?_)
      simp [evaluate, Rule.ofValue, Rule.evaluate]

/-- A property of all nodes that passes from the conditions of a group to the group. -/
theorem node_induction {motive : Value → Prop}
    (group : ∀ {node connective items}, IsGroup node connective items →
      (∀ item ∈ items, motive item) →
      motive node)
    (condition : ∀ {node field operator operand},
      IsCondition node field operator operand → motive node)
    (other : ∀ {node}, (∀ record, evaluate node record = .ok false) → motive node) (node : Value) :
    motive node := by
  rcases node_cases node with ⟨connective, items, isGroup⟩ |
    ⟨field, operator, operand, isCondition⟩ | isFalse
  · exact group isGroup fun item itemMem => node_induction group condition other item
  · exact condition isCondition
  · exact other isFalse
termination_by sizeOf node
decreasing_by exact isGroup.sizeOf_lt itemMem

end Nodes

/-! ## Nodes without further parts -/

/-- A group node. -/
def groupNode (connective : Connective) (items : List Value) : Value :=
  .map [("operator", .text connective.word), ("conditions", .list items)]

/-- A condition node. -/
def conditionNode (name : String) (comparison : Comparison) (operand : Value) : Value :=
  .map [("field", .text name), ("operator", .text comparison.symbol), ("value", operand)]

theorem isGroup_groupNode (connective : Connective) (items : List Value) :
    IsGroup (groupNode connective items) connective items := ⟨rfl, rfl⟩

theorem isCondition_conditionNode (name : String) (comparison : Comparison) (operand : Value) :
    IsCondition (conditionNode name comparison operand) (.text name) (.text comparison.symbol)
    operand :=
  ⟨⟨_, rfl⟩, rfl, rfl, rfl, Connective.ofValue?_symbol comparison⟩

/-! ## Groups -/

/-- Evaluates a group with the given conditions. -/
def evaluateGroup (connective : Connective) (items : List Value) (record : Value) :
    Except Fault Bool :=
  (Rule.group connective (items.map Rule.ofValue)).evaluate record

section Groups

variable {connective : Connective} {item record : Value} {items before rest : List Value}

theorem IsGroup.evaluate_eq {node : Value} (isGroup : IsGroup node connective items)
    (record : Value) :
    evaluate node record = evaluateGroup connective items record := by
  rw [evaluate, isGroup.ofValue_eq, evaluateGroup]

@[simp]
theorem evaluateGroup_nil : evaluateGroup connective [] record = .ok connective.neutral := by
  cases connective <;> rfl

/-- What is equal to an empty group leaves the group undecided. -/
theorem evaluateGroup_cons_of_undecided
    (undecided : evaluate item record = .ok connective.neutral) :
    evaluateGroup connective (item :: rest) record = evaluateGroup connective rest record := by
  rw [evaluate] at undecided
  cases connective <;>
    simp only [evaluateGroup, List.map_cons, Rule.evaluate, Rule.evaluateAll,
      Rule.evaluateAny, undecided, Connective.neutral]

/-- Anything else decides the group, or makes its evaluation fail. -/
theorem evaluateGroup_cons_of_decided (decided : evaluate item record ≠ .ok connective.neutral) :
    evaluateGroup connective (item :: rest) record = evaluate item record := by
  rw [evaluate] at decided ⊢
  cases connective <;>
    simp only [evaluateGroup, List.map_cons, Rule.evaluate, Rule.evaluateAll, Rule.evaluateAny] <;>
    split <;> simp_all [Connective.neutral]

theorem evaluateGroup_append_of_undecided
    (undecided : ∀ other ∈ before, evaluate other record = .ok connective.neutral) :
    evaluateGroup connective (before ++ rest) record = evaluateGroup connective rest record := by
  induction before with
  | nil => rfl
  | cons other before ih =>
      obtain ⟨first, others⟩ := List.forall_mem_cons.mp undecided
      rw [List.cons_append, evaluateGroup_cons_of_undecided first, ih others]

/-- Only what each of its conditions evaluates to matters to a group. -/
theorem evaluateGroup_congr {others : List Value}
    (same : items.map (evaluate · record) = others.map (evaluate · record)) :
    evaluateGroup connective items record = evaluateGroup connective others record := by
  induction items generalizing others with
  | nil =>
      obtain rfl := List.map_eq_nil_iff.mp same.symm
      rfl
  | cons item rest ih =>
      obtain ⟨other, otherRest, rfl, first, later⟩ := List.map_eq_cons_iff.mp same.symm
      by_cases undecided : evaluate item record = .ok connective.neutral
      · rw [evaluateGroup_cons_of_undecided undecided,
          evaluateGroup_cons_of_undecided (first.trans undecided), ih later.symm]
      · have otherDecided : evaluate other record ≠ .ok connective.neutral := by
          rw [first]
          exact undecided
        rw [evaluateGroup_cons_of_decided undecided,
          evaluateGroup_cons_of_decided otherDecided, first]

/-- The evaluation of a group fails when that of a condition fails that follows
on undecided ones. -/
theorem evaluateGroup_eq_error_iff {fault : Fault} :
    evaluateGroup connective items record = .error fault ↔
      ∃ before item rest, items = before ++ item :: rest ∧
        (∀ other ∈ before, evaluate other record = .ok connective.neutral) ∧
        evaluate item record = .error fault := by
  constructor
  · intro failed
    induction items with
    | nil =>
        rw [evaluateGroup_nil] at failed
        cases failed
    | cons item rest ih =>
        by_cases undecided : evaluate item record = .ok connective.neutral
        · rw [evaluateGroup_cons_of_undecided undecided] at failed
          obtain ⟨before, later, after, rfl, others, laterFailed⟩ := ih failed
          exact ⟨item :: before, later, after, rfl,
            List.forall_mem_cons.mpr ⟨undecided, others⟩, laterFailed⟩
        · rw [evaluateGroup_cons_of_decided undecided] at failed
          exact ⟨[], item, rest, rfl, by simp, failed⟩
  · rintro ⟨before, item, rest, rfl, undecided, failed⟩
    rw [evaluateGroup_append_of_undecided undecided,
      evaluateGroup_cons_of_decided (by simp [failed]), failed]

end Groups

/-! ## Audiences -/

theorem belongs_iff {rule record : Value} :
    belongs rule record = true ↔ evaluate rule record = .ok true := by
  unfold belongs
  cases evaluate rule record <;> simp

/-! ## Conditions and well-formed rules -/

/-- A condition at any depth of a rule. -/
inductive LeafOf (leaf : Value) : Value → Prop
  | self {field operator operand : Value} (isCondition : IsCondition leaf field operator operand) :
      LeafOf leaf leaf
  | inside {node item : Value} {connective : Connective} {items : List Value}
      (isGroup : IsGroup node connective items) (itemMem : item ∈ items)
      (leafOf : LeafOf leaf item) :
      LeafOf leaf node

/-- What a rule may name as the value of a condition. -/
inductive IsOperand : Value → Prop
  | int (i : Int) : IsOperand (.int i)
  | float (x : Float) : IsOperand (.float x)
  | text (s : String) : IsOperand (.text s)

/-- The rules that the wire format describes: groups of such rules, and conditions that compare a
field by one of the six signs with a number or a text. -/
inductive WellFormed : Value → Prop
  | group {node : Value} {connective : Connective} {items : List Value}
      (isGroup : IsGroup node connective items) (each : ∀ item ∈ items, WellFormed item) :
      WellFormed node
  | condition {node operand : Value} {name : String} {comparison : Comparison}
      (isCondition : IsCondition node (.text name) (.text comparison.symbol) operand)
      (isOperand : IsOperand operand) : WellFormed node

end Outreach.Audience
