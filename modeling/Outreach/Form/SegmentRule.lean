import Outreach.Form.Scalar
import Outreach.Audience.Rule
import Outreach.Value.Compare

/-!
# Checking segment rules

A rule that may be stored is a group with a list of rules, or a condition with a field name, one of
the six comparisons and a number or text. Other entries are dropped. A value that is neither is
refused with what keeps it from being a group and then what keeps it from being a condition.
-/

namespace Outreach.Form

/-- The value that a stored condition compares with. -/
inductive Operand where
  | whole (i : Int)
  | real (x : Float)
  | word (s : String)

/-- The operand as a value. -/
def Operand.toValue : Operand → Value
  | .whole i => .int i
  | .real x => .float x
  | .word s => .text s

/-- A rule that may be stored. -/
inductive SegmentRule where
  | group (connective : Audience.Connective) (rules : List SegmentRule)
  | condition (field : String) (comparison : Comparison) (operand : Operand)

namespace SegmentRule

mutual

/-- The rule as a value. -/
def toValue : SegmentRule → Value
  | .group connective rules =>
    .map [("operator", .text connective.word), ("conditions", .list (toValues rules))]
  | .condition field comparison operand =>
    .map [("field", .text field), ("operator", .text comparison.symbol), ("value", operand.toValue)]

/-- Rules as values. -/
def toValues : List SegmentRule → List Value
  | [] => []
  | rule :: rest => toValue rule :: toValues rest

end

end SegmentRule

/-- The connective of a group. -/
def connective : Check Audience.Connective := fun place value =>
  match Audience.Connective.ofValue? value with
  | some c => .valid c
  | none => refuse .literal place value

/-- The comparison of a condition. -/
def comparison : Check Comparison := fun place value =>
  match value with
  | .text sign => match Comparison.ofSymbol? sign with
    | some c => .valid c
    | none => refuse .literal place value
  | _ => refuse .literal place value

/-- A number or text; truth values become zero and one. -/
def operand : Check Operand := fun place value =>
  match value with
  | .int i => .valid (.whole i)
  | .bool b => .valid (.whole (if b then 1 else 0))
  | .float x => .valid (.real x)
  | .text s => .valid (.word s)
  | _ =>
    .invalid [⟨.intType, place.path ++ ["int"], value⟩,
      ⟨.floatType, place.path ++ ["float"], value⟩, ⟨.stringType, place.path ++ ["str"], value⟩]

/-- A condition. -/
def condition : Check SegmentRule := object fun entries =>
  SegmentRule.condition <$> entries.required "field" (textBetween 1 none)
    <*> entries.required "operator" comparison <*> entries.required "value" operand

/-- The first reading that goes well, else the problems of both. -/
def either {α : Type} (first second : Checked α) : Checked α :=
  match first, second with
  | .valid value, _ => .valid value
  | .invalid _, .valid value => .valid value
  | .invalid problems, .invalid others => .invalid (problems ++ others)

/-- The name under which problems of a group are reported. -/
def groupPart : String := "RuleGroup"

/-- The name under which problems of a condition are reported. -/
def conditionPart : String := "RuleCondition"

mutual

/-- A rule: a group or else a condition. -/
def segmentRule (place : Place) : Value → Checked SegmentRule
  | .map fields =>
    let entries : Entries := ⟨place.step groupPart, .map fields, fields⟩
    either
      (SegmentRule.group <$> entries.required "operator" connective <*>
        conditionsOf (place.step groupPart) (.map fields) fields)
      (condition (place.step conditionPart) (.map fields))
  | value =>
    either (refuse place.noObject (place.step groupPart) value)
      (refuse place.noObject (place.step conditionPart) value)

/-- The conditions among the entries of a group. -/
def conditionsOf (place : Place) (whole : Value) :
    List (String × Value) → Checked (List SegmentRule)
  | [] => refuse .missing (place.step "conditions") whole
  | (name, value) :: rest =>
    if name = "conditions" then
      match value with
      | .list values => segmentRules (place.step "conditions") 0 values
      | value => refuse .listType (place.step "conditions") value
    else conditionsOf place whole rest

/-- The rules of a list from a given index on. -/
def segmentRules (place : Place) : Nat → List Value → Checked (List SegmentRule)
  | _, [] => .valid []
  | index, value :: rest =>
    List.cons <$> segmentRule (place.step (toString index)) value <*>
      segmentRules place (index + 1) rest

end

/-- A group of rules. -/
def ruleGroup : Check SegmentRule := object fun entries =>
  SegmentRule.group <$> entries.required "operator" connective <*>
    conditionsOf entries.place entries.whole entries.fields

end Outreach.Form
