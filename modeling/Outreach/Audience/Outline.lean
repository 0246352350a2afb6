import Outreach.Audience.Rule
import Outreach.Value.Literal

/-!
# Rule outlines

A rule is written as an indented outline, one line for each node that is a group or a condition, and
two blanks of indent for each level. Children that are no rule nodes leave no line.
-/

namespace Outreach.Audience

/-- Why a rule has no outline. -/
inductive OutlineFault where
  /-- The conditions of a group are a value that has no parts. -/
  | noParts
  /-- A whole number has more digits than may be written out. -/
  | tooManyDigits
  deriving DecidableEq, Repr

/-- Two blanks for each level; none for a level below the first. -/
def indent (depth : Int) : String := String.ofList (List.replicate (2 * depth).toNat ' ')

/-- The line of a condition. -/
def conditionLine (depth : Int) (field operator operand : Value) : String :=
  indent depth ++ field.display ++ " " ++ operator.display ++ " " ++ operand.literal

/-- Conditions that are not a list: nothing, or something whose parts are no rule nodes. -/
def hasParts (conditions : Value) : Bool :=
  conditions.isBlank || match conditions with
    | .text _ | .map _ => true
    | _ => false

namespace Rule

mutual

/-- The outline of a rule from a given depth on. -/
def outline (depth : Int) : Rule → Except OutlineFault String
  | .malformed => .ok ""
  | .group connective rules => do
    let rendered ← outlines (depth + 1) rules
    .ok ("\n".intercalate ((indent depth ++ connective.word) :: rendered.filter (· ≠ "")))
  | .unlisted connective conditions =>
    if hasParts conditions then .ok (indent depth ++ connective.word) else .error .noParts
  | .condition field operator operand =>
    if field.isWritable && operator.isWritable && operand.isWritable then
      .ok (conditionLine depth field operator operand)
    else .error .tooManyDigits

/-- The outlines of several rules. -/
def outlines (depth : Int) : List Rule → Except OutlineFault (List String)
  | [] => .ok []
  | rule :: rest => do .ok ((← outline depth rule) :: (← outlines depth rest))

end

end Rule

end Outreach.Audience
