import Outreach.Value.Basic

/-!
# Segment rules

A rule is a tree. A group joins its rules with "all of" or "any of"; a condition names a field, a
comparison and a value. Rules come in as plain values, in which anything may stand anywhere:
`Rule.ofValue` sorts every value into one of the shapes and never fails.
-/

namespace Outreach.Audience

/-- How a group joins its rules. -/
inductive Connective where
  | all
  | any
  deriving DecidableEq, Repr, Inhabited

/-- The word of a connective. -/
def Connective.word : Connective → String
  | .all => "AND"
  | .any => "OR"

/-- The connective that an operator names. -/
def Connective.ofValue? : Value → Option Connective
  | .text "AND" => some .all
  | .text "OR" => some .any
  | _ => none

/-- A rule of a segment. -/
inductive Rule where
  /-- No rule node at all. -/
  | malformed
  /-- A group of rules. -/
  | group (connective : Connective) (rules : List Rule)
  /-- A group whose conditions are not a list. -/
  | unlisted (connective : Connective) (conditions : Value)
  /-- A single condition; parts that are missing are null. -/
  | condition (field operator operand : Value)
  deriving Inhabited

/-- What a group node gives as its conditions. -/
inductive Conditions where
  | listed (rules : List Rule)
  | other (value : Value)

/-- The group of a connective with the conditions given. -/
def Rule.ofConditions (connective : Connective) : Conditions → Rule
  | .listed rules => .group connective rules
  | .other value => .unlisted connective value

namespace Rule

mutual

/-- Sorts a value into the shapes of rules. -/
def ofValue : Value → Rule
  | .map fields =>
    match Connective.ofValue? ((Keyed.get? "operator" fields).getD .null) with
    | some connective => ofConditions connective (conditionsOf fields)
    | none =>
      .condition ((Keyed.get? "field" fields).getD .null)
        ((Keyed.get? "operator" fields).getD .null)
        ((Keyed.get? "value" fields).getD .null)
  | _ => .malformed

/-- Sorts every value of a list. -/
def ofValues : List Value → List Rule
  | [] => []
  | value :: rest => ofValue value :: ofValues rest

/-- The conditions that a node names. -/
def conditionsOf : List (String × Value) → Conditions
  | [] => .other .null
  | (name, value) :: rest =>
    if name = "conditions" then
      match value with
      | .list values => .listed (ofValues values)
      | value => .other value
    else conditionsOf rest

end

mutual

/-- The number of nodes of a rule. -/
def nodeCount : Rule → Nat
  | .group _ rules => nodeCounts rules + 1
  | _ => 1

/-- The number of nodes of several rules. -/
def nodeCounts : List Rule → Nat
  | [] => 0
  | rule :: rest => nodeCount rule + nodeCounts rest

end

@[simp]
theorem ofValues_eq_map (values : List Value) : ofValues values = values.map ofValue := by
  induction values with
  | nil => simp [ofValues]
  | cons value rest ih => simp [ofValues, ih]

end Rule

end Outreach.Audience
