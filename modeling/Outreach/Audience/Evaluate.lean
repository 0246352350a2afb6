import Outreach.Audience.Operand
import Outreach.Audience.Rule

/-!
# Evaluating rules

`Rule.evaluate` decides whether a record satisfies a rule. Groups look at their rules in order
and stop at the first that decides. A condition is false when its field is missing or null,
when its comparison is unknown, or when its value cannot be read as the kind of the record's
value. Spend and visits are compared as numbers and the time of last activity as an instant,
whatever kind the record holds.
-/

namespace Outreach.Audience

/-- How the values of a field are compared. -/
inductive FieldKind where
  | number
  | instant
  | native
  deriving DecidableEq, Repr

/-- The kind of a field, by its name. -/
def fieldKind (name : String) : FieldKind :=
  if name = "totalSpend" ∨ name = "visits" then .number
  else if name = "lastActive" then .instant
  else .native

/-- Two fields have a second spelling in rules. -/
def canonicalField (name : String) : String :=
  if name = "total_spend" then "totalSpend"
  else if name = "last_active" then "lastActive"
  else name

/-- One text occurs inside another. -/
def occursIn (part : List Char) : List Char → Bool
  | [] => part.isEmpty
  | c :: rest => part.isPrefixOf (c :: rest) || occursIn part rest

/-- Looks a field up in a record. In a text or a list only a name that does not occur can be looked
up, and every other value has no fields. -/
def lookUp (record : Value) (name : String) : Except Fault Value :=
  match record with
  | .map fields => .ok ((Keyed.get? name fields).getD .null)
  | .text s => if occursIn name.toList s.toList then .error .noFields else .ok .null
  | .list items => if items.any (·.agrees (.text name)) then .error .noFields else .ok .null
  | _ => .error .noFields

/-- The operands of a condition on a field of the given kind. -/
def operandsFor (kind : FieldKind) (actual expected : Value) : Except Fault (Option Operands) :=
  match kind with
  | .number => do .ok (valuesWith actual (← readNumber expected))
  | .instant => .ok (instantsOf? actual expected)
  | .native => nativeOperands actual expected

/-- The comparison that an operator names. -/
def comparisonOf? : Value → Option Comparison
  | .text sign => Comparison.ofSymbol? sign
  | _ => none

/-- Compares a value of a record with the value of a rule. -/
def compareField (kind : FieldKind) (actual operator expected : Value) : Except Fault Bool :=
  if actual.isNull then .ok false
  else match comparisonOf? operator with
    | none => .ok false
    | some comparison => do
      match ← operandsFor kind actual expected with
      | some operands => .ok (operands.satisfy comparison)
      | none => .ok false

/-- Decides a single condition. -/
def evaluateCondition (record field operator expected : Value) : Except Fault Bool :=
  match field with
  | .text name => do
    let actual ← lookUp record (canonicalField name)
    compareField (fieldKind (canonicalField name)) actual operator expected
  | _ => .ok false

namespace Rule

mutual

/-- Decides whether a record satisfies a rule. -/
def evaluate (record : Value) : Rule → Except Fault Bool
  | .malformed => .ok false
  | .unlisted _ _ => .ok false
  | .group .all rules => evaluateAll record rules
  | .group .any rules => evaluateAny record rules
  | .condition field operator expected => evaluateCondition record field operator expected

/-- Every rule is satisfied; the first that is not ends the search. -/
def evaluateAll (record : Value) : List Rule → Except Fault Bool
  | [] => .ok true
  | rule :: rest =>
    match evaluate record rule with
    | .ok true => evaluateAll record rest
    | decided => decided

/-- Some rule is satisfied; the first that is ends the search. -/
def evaluateAny (record : Value) : List Rule → Except Fault Bool
  | [] => .ok false
  | rule :: rest =>
    match evaluate record rule with
    | .ok false => evaluateAny record rest
    | decided => decided

end

end Rule

/-- A record satisfies a rule given as a value. -/
def evaluate (rule record : Value) : Except Fault Bool := (Rule.ofValue rule).evaluate record

/-- The record belongs to the audience of a rule; one that cannot be evaluated does not. -/
def belongs (rule record : Value) : Bool :=
  match evaluate rule record with
  | .ok satisfied => satisfied
  | .error _ => false

/-- The records of a population that belong to the audience of a rule, in order. -/
def audience (rule : Value) (population : List Value) : List Value :=
  population.filter (belongs rule)

/-- The size of the audience. -/
def audienceSize (rule : Value) (population : List Value) : Nat := (audience rule population).length

/-- The places in a population of those that belong to the audience. -/
def audiencePlaces (rule : Value) (population : List Value) : List Nat :=
  (population.zipIdx.filter fun (record, _) => belongs rule record).map Prod.snd

end Outreach.Audience
