import Outreach.Proofs.Audience.Nodes
import Outreach.Proofs.Form.Checks

/-!
# Rules that have been checked

A check keeps of a rule only the parts of its nodes. So what a well-formed rule has become by it is
evaluated like the rule itself.
-/

namespace Outreach.Form

open Audience

theorem either_eq_valid {α : Type} {first second : Checked α} {result : α}
    (valid : either first second = .valid result) :
    first = .valid result ∨ second = .valid result := by
  unfold either at valid
  split at valid
  · exact Or.inl valid
  · exact Or.inr valid
  · cases valid

theorem connective_eq_valid {place : Place} {value : Value} {c : Connective}
    (valid : connective place value = .valid c) : value = .text c.word := by
  unfold connective at valid
  split at valid
  · rename_i named
    cases valid
    exact Connective.ofValue?_eq_some_iff.mp named
  · cases valid

theorem comparison_eq_valid {place : Place} {value : Value} {c : Comparison}
    (valid : comparison place value = .valid c) : value = .text c.symbol := by
  apply comparisonOf?_eq_some_iff.mp
  unfold comparison at valid
  split at valid
  · split at valid
    · rename_i named
      cases valid
      exact named
    · cases valid
  · cases valid

/-- A number or a text is kept as it is. -/
theorem operand_eq_valid {place : Place} {value : Value} {kept : Operand}
    (isOperand : IsOperand value)
    (valid : operand place value = .valid kept) : kept.toValue = value := by
  cases isOperand <;> cases valid <;> rfl

theorem conditionsOf_eq_valid {place : Place} {whole : Value} {fields : Fields}
    {rules : List SegmentRule} (valid : conditionsOf place whole fields = .valid rules) : ∃ items,
      (Value.map fields).field "conditions" = .list items ∧
        segmentRules (place.step "conditions") 0 items = .valid rules := by
  induction fields with
  | nil => cases valid
  | cons head rest ih =>
      obtain ⟨name, value⟩ := head
      by_cases here : name = "conditions"
      · cases value with
        | list items =>
            simp only [conditionsOf, here, if_true] at valid
            exact ⟨items, by simp [Value.field, Keyed.get?, here], valid⟩
        | _ =>
            simp only [conditionsOf, here, if_true] at valid
            cases valid
      · have skipped : conditionsOf place whole ((name, value) :: rest) =
          conditionsOf place whole rest := by
          cases value <;> simp [conditionsOf, here]
        rw [skipped] at valid
        simpa only [Value.field, Keyed.get?, if_neg here] using ih valid

/-- What a value that has passed the check of rules is, and what it has become. -/
inductive Accepted (value : Value) : SegmentRule → Prop
  | group {c : Connective} {items : List Value} {rules : List SegmentRule} {place : Place}
      (isGroup : IsGroup value c items) (each : segmentRules place 0 items = .valid rules) :
      Accepted value (.group c rules)
  | condition {name : String} {c : Comparison} {expected : Value} {kept : Operand} {place : Place}
      (isCondition : IsCondition value (.text name) (.text c.symbol) expected)
      (checked : operand place expected = .valid kept) : Accepted value (.condition name c kept)

/-- The field of a map under a name that was asked for. -/
theorem field_of_required {α : Type} {place : Place} {fields : Fields} {name : String}
    {check : Check α} {result : α} {whole : Value}
    (valid : (Entries.mk place whole fields).required name check = .valid result) :
    ∃ place, check place ((Value.map fields).field name) = .valid result := by
  obtain ⟨at_, value, found, checked⟩ := required_eq_valid valid
  refine ⟨at_, ?_⟩
  rw [Value.field, show Keyed.get? name fields = some value from found]
  exact checked

theorem accepted_of_segmentRule {place : Place} {value : Value} {rule : SegmentRule}
    (valid : segmentRule place value = .valid rule) : Accepted value rule := by
  cases value with
  | map fields =>
      rw [segmentRule] at valid
      rcases either_eq_valid valid with asGroup | asCondition
      · obtain ⟨_, rules, started, listed, rfl⟩ := Checked.seq_eq_valid asGroup
        obtain ⟨c, named, rfl⟩ := Checked.map_eq_valid started
        obtain ⟨_, operator⟩ := field_of_required named
        obtain ⟨items, conditions, each⟩ := conditionsOf_eq_valid listed
        exact .group ⟨connective_eq_valid operator, conditions⟩ each
      · obtain ⟨_, kept, started, against, rfl⟩ := Checked.seq_eq_valid asCondition
        obtain ⟨_, c, named, compared, rfl⟩ := Checked.seq_eq_valid started
        obtain ⟨name, found, rfl⟩ := Checked.map_eq_valid named
        obtain ⟨_, field⟩ := field_of_required found
        obtain ⟨_, operator⟩ := field_of_required compared
        obtain ⟨_, expected⟩ := field_of_required against
        have sign := comparison_eq_valid operator
        refine .condition ⟨⟨fields, rfl⟩, (textBetween_eq_valid field).1, sign, rfl, ?_⟩ expected
        exact Connective.ofValue?_symbol c
  | _ =>
      rw [segmentRule] at valid
      · rcases either_eq_valid valid with refused | refused <;> cases refused
      · simp

/-- The rules of a list are checked one by one. -/
theorem map_evaluate_of_segmentRules {record : Value} {items : List Value} {place : Place}
    {index : Nat} {rules : List SegmentRule} (valid : segmentRules place index items = .valid rules)
    (each : ∀ item ∈ items, ∀ place rule, segmentRule place item = .valid rule →
      evaluate rule.toValue record = evaluate item record) :
    (SegmentRule.toValues rules).map (evaluate · record) = items.map (evaluate · record) := by
  induction items generalizing index rules with
  | nil =>
      cases valid
      rfl
  | cons item rest ih =>
      rw [segmentRules] at valid
      obtain ⟨_, others, started, later, rfl⟩ := Checked.seq_eq_valid valid
      obtain ⟨rule, first, rfl⟩ := Checked.map_eq_valid started
      obtain ⟨itemSame, restSame⟩ := List.forall_mem_cons.mp each
      rw [SegmentRule.toValues, List.map_cons, List.map_cons, itemSame _ _ first, ih later restSame]

theorem isGroup_toValue (c : Connective) (rules : List SegmentRule) :
    IsGroup (SegmentRule.group c rules).toValue c (SegmentRule.toValues rules) := by
  rw [SegmentRule.toValue]
  exact isGroup_groupNode c _

theorem isCondition_toValue (name : String) (c : Comparison) (kept : Operand) :
    IsCondition (SegmentRule.condition name c kept).toValue (.text name) (.text c.symbol)
    kept.toValue := by
  rw [SegmentRule.toValue]
  exact isCondition_conditionNode name c _

/-- A well-formed rule is evaluated in the same way before and after its check. -/
theorem evaluate_toValue {value : Value} (wellFormed : WellFormed value) (record : Value)
    {place : Place} {rule : SegmentRule} (valid : segmentRule place value = .valid rule) :
    evaluate rule.toValue record = evaluate value record := by
  induction wellFormed generalizing place rule with
  | group isGroup _ ih =>
      cases accepted_of_segmentRule valid with
      | group again each =>
          obtain ⟨rfl, rfl⟩ := isGroup.unique again
          rw [(isGroup_toValue _ _).evaluate_eq, isGroup.evaluate_eq]
          exact evaluateGroup_congr
            (map_evaluate_of_segmentRules each fun item itemMem _ _ itemValid =>
              ih item itemMem itemValid)
      | condition isCondition _ => exact absurd isCondition isGroup.not_isCondition
  | condition isCondition isOperand =>
      cases accepted_of_segmentRule valid with
      | group isGroup _ => exact absurd isCondition isGroup.not_isCondition
      | condition again checked =>
          have names := isCondition.named.symm.trans again.named
          have signs := isCondition.compared.symm.trans again.compared
          have operands := isCondition.against.symm.trans again.against
          rw [(isCondition_toValue _ _ _).evaluate_eq, isCondition.evaluate_eq, names, signs,
            operand_eq_valid isOperand (operands ▸ checked)]

/-- The rule is the one that a value was stored from, or the one that a
well-formed value is read as. -/
inductive Restates (value : Value) (rule : SegmentRule) : Prop
  | stored (same : rule.toValue = value) : Restates value rule
  | read {place : Place} (wellFormed : WellFormed value)
      (valid : segmentRule place value = .valid rule) :
      Restates value rule

theorem Restates.evaluate_eq {value : Value} {rule : SegmentRule} (restates : Restates value rule)
    (record : Value) : evaluate rule.toValue record = evaluate value record := by
  cases restates with
  | stored same => rw [same]
  | read wellFormed valid => exact evaluate_toValue wellFormed record valid

end Outreach.Form
