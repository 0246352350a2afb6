import Outreach.Proofs.Audience.Totality
import Outreach.Proofs.Audience.Validated

/-!
# Which values are accepted as rules

The check of rules accepts the rules of the wire format, and more: a condition may compare with a
truth value, which becomes a number. The engine reads a truth value as no number at all, so such a
condition can be decided in another way after the check than before it. Where the evaluation of a
rule gets to no such condition, the check does not change what the rule means. The name of a field
has to have an encoding.
-/

namespace Outreach.Form

open Audience

/-! ## The wire format -/

/-- Groups of rules, and conditions that compare a field by one of the six signs with an operand. -/
inductive WireRule (isName : String → Prop) (isOperand : Value → Prop) : Value → Prop
  | group {node : Value} {connective : Connective} {items : List Value}
      (isGroup : IsGroup node connective items)
      (each : ∀ item ∈ items, WireRule isName isOperand item) :
      WireRule isName isOperand node
  | condition {node operand : Value} {name : String} {comparison : Comparison}
      (isCondition : IsCondition node (.text name) (.text comparison.symbol) operand)
      (named : isName name) (against : isOperand operand) : WireRule isName isOperand node

/-- The rules that are documented: a field has a name, and an operand is a number or a text. -/
def IsDocumented : Value → Prop := WireRule (· ≠ "") IsOperand

/-- A name that a condition may give its field. -/
structure IsFieldName (name : String) : Prop where
  notEmpty : name ≠ ""
  encoded : Text.hasLoneSurrogate name = false

/-- What passes as an operand: a number, a text, or a truth value in the place of a number. -/
inductive PassesAsOperand : Value → Prop
  | operand {value : Value} (isOperand : IsOperand value) : PassesAsOperand value
  | truth (b : Bool) : PassesAsOperand (.bool b)

/-- The number that takes the place of a truth value. -/
def truthNumber (b : Bool) : Value := .int (if b then 1 else 0)

/-! ## Checks of the parts of a node -/

theorem textBetween_one_eq_valid_iff {place : Place} {value : Value} {s : String} :
    textBetween 1 none place value = .valid s ↔ value = .text s ∧ IsFieldName s := by
  constructor
  · intro valid
    obtain ⟨rfl, encoded⟩ := textBetween_eq_valid valid
    refine ⟨rfl, ?_, encoded Nat.one_pos⟩
    rintro rfl
    simp [textBetween, encoded Nat.one_pos, refuse] at valid
  · rintro ⟨rfl, notEmpty, encoded⟩
    have long : ¬s.length < 1 := by
      rw [Nat.lt_one_iff, String.length_eq_zero_iff]
      exact notEmpty
    simp [textBetween, encoded, long]

theorem exists_operand_iff {place : Place} {value : Value} :
    (∃ kept, operand place value = .valid kept) ↔ PassesAsOperand value := by
  constructor
  · rintro ⟨kept, valid⟩
    cases value with
    | int i => exact .operand (.int i)
    | bool b => exact .truth b
    | float x => exact .operand (.float x)
    | text s => exact .operand (.text s)
    | _ => cases valid
  · rintro (⟨_ | _ | _⟩ | _) <;> exact ⟨_, rfl⟩

theorem connective_word (place : Place) (c : Connective) :
    connective place (.text c.word) = .valid c := by
  rw [connective, Connective.ofValue?_eq_some_iff.mpr rfl]

theorem comparison_symbol (place : Place) (c : Comparison) :
    comparison place (.text c.symbol) = .valid c := by
  simp [comparison]

/-- A part that a node has is checked where it stands. -/
theorem required_of_field {α : Type} {place : Place} {fields : Fields} {whole : Value}
    {name : String}
    {check : Check α} {value : Value} (field : (Value.map fields).field name = value)
    (notNull : value ≠ .null) :
    (Entries.mk place whole fields).required name check = check (place.step name) value := by
  rw [Value.field] at field
  cases found : Keyed.get? name fields with
  | none =>
      rw [found] at field
      exact absurd field.symm notNull
  | some other =>
      rw [found] at field
      simp only [Entries.required, found, show other = value from field]

theorem conditionsOf_of_field {place : Place} {whole : Value} {fields : Fields} {items : List Value}
    (field : (Value.map fields).field "conditions" = .list items) :
    conditionsOf place whole fields = segmentRules (place.step "conditions") 0 items := by
  induction fields with
  | nil => cases field
  | cons head rest ih =>
      obtain ⟨name, value⟩ := head
      simp only [Value.field, Keyed.get?] at field ih
      by_cases here : name = "conditions"
      · rw [if_pos here, Option.getD_some] at field
        subst field
        simp [conditionsOf, here]
      · rw [if_neg here] at field
        rw [← ih field]
        cases value <;> simp [conditionsOf, here]

/-! ## Accepted values -/

section Acceptance

variable {value : Value} {rule : SegmentRule} {place : Place}

theorem exists_either {α : Type} {first second : Checked α} {result : α}
    (valid : second = .valid result) :
    ∃ chosen, either first second = .valid chosen := by
  subst valid
  cases first with
  | valid chosen => exact ⟨chosen, rfl⟩
  | invalid problems => exact ⟨result, rfl⟩

theorem exists_segmentRules {items : List Value} (index : Nat)
    (each : ∀ item ∈ items, ∀ place, ∃ rule, segmentRule place item = .valid rule) :
    ∃ rules, segmentRules place index items = .valid rules := by
  induction items generalizing index with
  | nil => exact ⟨[], rfl⟩
  | cons item rest ih =>
      obtain ⟨first, later⟩ := List.forall_mem_cons.mp each
      obtain ⟨rule, ruleValid⟩ := first (place.step (toString index))
      obtain ⟨rules, rulesValid⟩ := ih (index + 1) later
      refine ⟨rule :: rules, ?_⟩
      rw [segmentRules, ruleValid, rulesValid]
      rfl

theorem exists_segmentRule (wire : WireRule IsFieldName PassesAsOperand value) (place : Place) :
    ∃ rule, segmentRule place value = .valid rule := by
  induction wire generalizing place with
  | @group node c items isGroup _ ih =>
      obtain ⟨fields, rfl⟩ := isGroup.isMap
      obtain ⟨rules, listed⟩ := exists_segmentRules 0 ih
      refine ⟨.group c rules, ?_⟩
      rw [segmentRule, required_of_field isGroup.operator (by simp), connective_word,
        conditionsOf_of_field isGroup.conditions, listed]
      rfl
  | @condition node expected name c isCondition named against =>
      obtain ⟨fields, rfl⟩ := isCondition.isMap
      have notNull : expected ≠ .null := by
        rintro rfl
        cases against with
        | operand isOperand => cases isOperand
      obtain ⟨kept, keptValid⟩ := exists_operand_iff.mpr against
      rw [segmentRule]
      refine @exists_either _ _ _ (.condition name c kept) ?_
      rw [condition, object, required_of_field isCondition.named (by simp),
        textBetween_one_eq_valid_iff.mpr ⟨rfl, named⟩,
        required_of_field isCondition.compared (by simp),
        comparison_symbol, required_of_field isCondition.against notNull, keptValid]
      rfl

theorem mem_segmentRules {items : List Value} {index : Nat} {rules : List SegmentRule}
    (valid : segmentRules place index items = .valid rules) {item : Value}
    (itemMem : item ∈ items) :
    ∃ place rule, segmentRule place item = .valid rule := by
  induction items generalizing index rules with
  | nil => cases itemMem
  | cons first rest ih =>
      rw [segmentRules] at valid
      obtain ⟨_, others, started, later, rfl⟩ := Checked.seq_eq_valid valid
      obtain ⟨rule, firstValid, rfl⟩ := Checked.map_eq_valid started
      rcases List.mem_cons.mp itemMem with rfl | inRest
      · exact ⟨_, rule, firstValid⟩
      · exact ih later inRest

/-- The field of a condition that was accepted has a name. -/
theorem isFieldName_of_segmentRule {name : String} {c : Comparison} {kept : Operand}
    (valid : segmentRule place value = .valid (.condition name c kept)) : IsFieldName name := by
  cases value with
  | map fields =>
      rw [segmentRule] at valid
      rcases either_eq_valid valid with asGroup | asCondition
      · obtain ⟨_, _, started, _, same⟩ := Checked.seq_eq_valid asGroup
        obtain ⟨_, _, rfl⟩ := Checked.map_eq_valid started
        cases same
      · obtain ⟨_, _, started, _, same⟩ := Checked.seq_eq_valid asCondition
        obtain ⟨_, _, named, _, rfl⟩ := Checked.seq_eq_valid started
        obtain ⟨_, found, rfl⟩ := Checked.map_eq_valid named
        cases same
        obtain ⟨_, field⟩ := field_of_required found
        exact (textBetween_one_eq_valid_iff.mp field).2
  | _ =>
      rw [segmentRule] at valid
      · rcases either_eq_valid valid with refused | refused <;> cases refused
      · simp

theorem wireRule_of_segmentRule {value : Value} {rule : SegmentRule} {place : Place}
    (valid : segmentRule place value = .valid rule) :
    WireRule IsFieldName PassesAsOperand value := by
  cases accepted_of_segmentRule valid with
  | group isGroup each =>
      refine .group isGroup fun item itemMem => ?_
      obtain ⟨_, _, itemValid⟩ := mem_segmentRules each itemMem
      exact wireRule_of_segmentRule itemValid
  | condition isCondition checked =>
      exact .condition isCondition (isFieldName_of_segmentRule valid)
        (exists_operand_iff.mp ⟨_, checked⟩)
termination_by sizeOf value
decreasing_by exact isGroup.sizeOf_lt itemMem

theorem exists_segmentRule_iff :
    (∃ rule, segmentRule place value = .valid rule) ↔ WireRule IsFieldName PassesAsOperand value :=
  ⟨fun ⟨_, valid⟩ => wireRule_of_segmentRule valid, fun wire => exists_segmentRule wire place⟩

end Acceptance

/-! ## Conditions with a truth value -/

/-- A condition with a truth value that a record decides in another way once the truth value has
become a number. -/
inductive Misread (fields : Fields) : Value → Prop
  | mk {leaf actual : Value} {name : String} {comparison : Comparison} {b : Bool}
      (isCondition : IsCondition leaf (.text name) (.text comparison.symbol) (.bool b))
      (present : Keyed.get? (canonicalField name) fields = some actual)
      (differs :
        compareField (fieldKind (canonicalField name)) actual (.text comparison.symbol)
            (truthNumber b) ≠
          compareField (fieldKind (canonicalField name)) actual (.text comparison.symbol)
            (.bool b)) :
      Misread fields leaf

/-- Where the group of the checked rules is decided in another way, some item is so itself, and all
before it leave the group undecided. -/
theorem exists_differs_of_segmentRules {c : Connective} {items : List Value} {place : Place}
    {index : Nat} {rules : List SegmentRule} {record : Value}
    (valid : segmentRules place index items = .valid rules)
    (differs : evaluateGroup c (SegmentRule.toValues rules) record ≠ evaluateGroup c items record) :
    ∃ before item rest place rule, items = before ++ item :: rest ∧
      (∀ other ∈ before, evaluate other record = .ok c.neutral) ∧
      segmentRule place item = .valid rule ∧ evaluate rule.toValue record ≠
      evaluate item record := by
  induction items generalizing index rules with
  | nil =>
      cases valid
      exact absurd rfl differs
  | cons item rest ih =>
      rw [segmentRules] at valid
      obtain ⟨_, others, started, later, rfl⟩ := Checked.seq_eq_valid valid
      obtain ⟨rule, first, rfl⟩ := Checked.map_eq_valid started
      rw [SegmentRule.toValues] at differs
      by_cases same : evaluate rule.toValue record = evaluate item record
      · by_cases undecided : evaluate item record = .ok c.neutral
        · rw [evaluateGroup_cons_of_undecided undecided,
            evaluateGroup_cons_of_undecided (same.trans undecided)] at differs
          obtain ⟨before, other, after, place, otherRule, rfl, allUndecided, itemDiffers⟩ :=
            ih later differs
          exact ⟨item :: before, other, after, place, otherRule, rfl,
            List.forall_mem_cons.mpr ⟨undecided, allUndecided⟩, itemDiffers⟩
        · rw [evaluateGroup_cons_of_decided undecided,
            evaluateGroup_cons_of_decided (same ▸ undecided)] at differs
          exact absurd same differs
      · exact ⟨[], item, rest, _, rule, rfl, by simp, first, same⟩

/-- An operand is kept, unless it is a truth value. -/
theorem toValue_of_operand {place : Place} {value : Value} {kept : Operand}
    (valid : operand place value = .valid kept) :
    kept.toValue = value ∨ ∃ b, value = .bool b ∧ kept.toValue = truthNumber b := by
  rcases exists_operand_iff.mp ⟨kept, valid⟩ with isOperand | b
  · exact .inl (operand_eq_valid isOperand valid)
  · cases valid
    exact .inr ⟨b, rfl, rfl⟩

theorem evaluateCondition_map (fields : Fields) (name : String) (operator expected : Value) :
    evaluateCondition (.map fields) (.text name) operator expected =
      compareField (fieldKind (canonicalField name))
        ((Keyed.get? (canonicalField name) fields).getD .null) operator expected := rfl

/-- Such a condition does not mean the same after the check. -/
theorem Misread.differs {leaf : Value} {rule : SegmentRule} {place : Place} {fields : Fields}
    (misread : Misread fields leaf) (valid : segmentRule place leaf = .valid rule) :
    evaluate rule.toValue (.map fields) ≠ evaluate leaf (.map fields) := by
  obtain ⟨isCondition, present, differs⟩ := misread
  cases accepted_of_segmentRule valid with
  | group isGroup _ => exact absurd isCondition isGroup.not_isCondition
  | condition again checked =>
      cases isCondition.named.symm.trans again.named
      have signs := isCondition.compared.symm.trans again.compared
      cases isCondition.against.symm.trans again.against
      cases checked
      rw [(isCondition_toValue _ _ _).evaluate_eq, isCondition.evaluate_eq, ← signs,
        evaluateCondition_map, evaluateCondition_map, present]
      exact differs

theorem exists_misread_of_differs {value : Value} {rule : SegmentRule} {place : Place}
    {fields : Fields} (valid : segmentRule place value = .valid rule)
    (differs : evaluate rule.toValue (.map fields) ≠ evaluate value (.map fields)) :
    ∃ leaf, Reaches (.map fields) leaf value ∧ Misread fields leaf := by
  cases accepted_of_segmentRule valid with
  | group isGroup each =>
      rw [(isGroup_toValue _ _).evaluate_eq, isGroup.evaluate_eq] at differs
      obtain ⟨before, item, rest, _, itemRule, rfl, undecided, itemValid, itemDiffers⟩ :=
        exists_differs_of_segmentRules each differs
      have itemMem : item ∈ before ++ item :: rest := by simp
      obtain ⟨leaf, reaches, misread⟩ := exists_misread_of_differs itemValid itemDiffers
      exact ⟨leaf, .inside isGroup undecided reaches, misread⟩
  | @condition name _ _ _ _ isCondition checked =>
      rw [(isCondition_toValue _ _ _).evaluate_eq, isCondition.evaluate_eq, evaluateCondition_map,
        evaluateCondition_map] at differs
      rcases toValue_of_operand checked with same | ⟨b, rfl, keptEq⟩
      · rw [same] at differs
        exact absurd rfl differs
      · rw [keptEq] at differs
        cases present : Keyed.get? (canonicalField name) fields with
        | none =>
            rw [present] at differs
            exact absurd rfl differs
        | some actual =>
            rw [present] at differs
            exact ⟨value, .self isCondition, .mk isCondition present differs⟩
termination_by sizeOf value
decreasing_by exact isGroup.sizeOf_lt itemMem

/-! ## What the check accepts and keeps -/

/-- A value is accepted exactly if it is a rule of the wire format in which a truth value may stand
for a number and every field has a name with an encoding. What was accepted is evaluated on a record
like the value itself, unless the evaluation gets to a condition with a truth value that is misread
there; and a rule that is such a condition is evaluated in another way. -/
theorem segmentRule_accepts_and_keeps (place : Place) (value : Value) :
    ((∃ rule, segmentRule place value = .valid rule) ↔ WireRule IsFieldName PassesAsOperand value) ∧
      ∀ rule, segmentRule place value = .valid rule → ∀ fields : Fields,
        (evaluate rule.toValue (.map fields) ≠ evaluate value (.map fields) →
          ∃ leaf, Reaches (.map fields) leaf value ∧ Misread fields leaf) ∧
        (Misread fields value → evaluate rule.toValue (.map fields) ≠
          evaluate value (.map fields)) := by
  refine ⟨exists_segmentRule_iff, fun rule valid fields => ⟨?_, ?_⟩⟩
  · exact exists_misread_of_differs valid
  · exact fun misread => misread.differs valid

/-- Visits of at least "true". -/
def visitedAtAll : Value :=
  .map [("field", .text "visits"), ("operator", .text ">="), ("value", .bool true)]

/-- A customer with three visits. -/
def visitor : Fields := [("visits", .int 3)]

theorem visitedAtAll_isCondition :
    IsCondition visitedAtAll (.text "visits") (.text Comparison.ge.symbol) (.bool true) :=
  ⟨⟨_, rfl⟩, rfl, rfl, rfl, rfl⟩

theorem visitedAtAll_misread : Misread visitor visitedAtAll := by
  have before : compareField .number (.int 3) (.text Comparison.ge.symbol) (.bool true) =
      .ok false := rfl
  have behind : compareField .number (.int 3) (.text Comparison.ge.symbol) (truthNumber true) =
      .ok true := by
    decide +kernel
  refine .mk visitedAtAll_isCondition rfl ?_
  change compareField .number _ _ _ ≠ compareField .number _ _ _
  rw [before, behind]
  simp

theorem visitedAtAll_accepted_and_misread :
    ∃ rule, segmentRule .top visitedAtAll = .valid rule ∧
      evaluate rule.toValue (.map visitor) ≠ evaluate visitedAtAll (.map visitor) := by
  obtain ⟨accepts, keeps⟩ := segmentRule_accepts_and_keeps .top visitedAtAll
  have wire : WireRule IsFieldName PassesAsOperand visitedAtAll :=
    .condition visitedAtAll_isCondition ⟨by decide, by decide +kernel⟩ (.truth true)
  obtain ⟨rule, valid⟩ := accepts.mpr wire
  exact ⟨rule, valid, (keeps rule valid visitor).2 visitedAtAll_misread⟩

/-- A condition that is no rule of the documented format is accepted, and a record that does not
satisfy it satisfies what it has become. -/
theorem visitedAtAll_changes :
    ¬ IsDocumented visitedAtAll ∧ ∃ rule, segmentRule .top visitedAtAll = .valid rule ∧
      evaluate visitedAtAll (.map visitor) = .ok false ∧
      evaluate rule.toValue (.map visitor) = .ok true := by
  refine ⟨?_, .condition "visits" .ge (.whole 1), rfl, rfl, by decide +kernel⟩
  intro documented
  cases documented with
  | group isGroup _ => exact isGroup.not_isCondition visitedAtAll_isCondition
  | condition isCondition _ against =>
      cases isCondition.against.symm.trans visitedAtAll_isCondition.against
      cases against

end Outreach.Form
