import Outreach.Value.Basic
import Outreach.Decimal.Quantity

/-!
# Comparing values

Numbers are compared exactly, whatever their kind, and booleans count as zero and one among them.
Texts are ordered by code points, lists by the first place where they differ. `agrees` is equality
of values and `order?` their order; values of different kinds, and undefined numbers, have none. The
six comparisons of rules are read off these two.
-/

namespace Outreach.Value

/-- The number that a value counts as in comparisons. -/
def quantity? : Value → Option Decimal.Quantity
  | .bool b => some (.ofInt (if b then 1 else 0))
  | .int i => some (.ofInt i)
  | .float x => some (.ofFloat x)
  | _ => none

/-- Two numbers have the same value. -/
def sameNumber (a b : Value) : Bool :=
  match a.quantity?, b.quantity? with
  | some x, some y => x.compare? y == some .eq
  | _, _ => false

mutual

/-- Equality of values. -/
def agrees : Value → Value → Bool
  | .null, .null => true
  | .text s, .text t => s == t
  | .time s, .time t => s.sameTime t
  | .date s, .date t => s == t
  | .list xs, .list ys => agreesList xs ys
  | .map xs, .map ys => xs.length == ys.length && agreesFields xs ys
  | a, b => sameNumber a b

/-- Lists agree item by item. -/
def agreesList : List Value → List Value → Bool
  | [], [] => true
  | x :: xs, y :: ys => agrees x y && agreesList xs ys
  | _, _ => false

/-- Each entry of the first list agrees with the entry of that name in the second. -/
def agreesFields : List (String × Value) → List (String × Value) → Bool
  | [], _ => true
  | (name, x) :: xs, ys =>
    (match Keyed.get? name ys with
      | some y => agrees x y
      | none => false) && agreesFields xs ys

end

/-- The order of texts by code points. -/
def orderText (s t : String) : Ordering := compareOfLessAndEq s t

/-- The order of dates. -/
def orderDate (a b : Date) : Ordering := compare a.dayNumber b.dayNumber

/-- Times are ordered when both name a zone or neither does. -/
def orderTime? (a b : DateTime) : Option Ordering :=
  if a.offset.isSome == b.offset.isSome then some (compare a.epochMicros b.epochMicros) else none

/-- The order of two numbers, if both values are numbers and neither is undefined. -/
def orderNumber? (a b : Value) : Option Ordering := do
  (← a.quantity?).compare? (← b.quantity?)

mutual

/-- The order of two values, where they have one. -/
def order? : Value → Value → Option Ordering
  | .text s, .text t => some (orderText s t)
  | .time s, .time t => orderTime? s t
  | .date s, .date t => some (orderDate s t)
  | .list xs, .list ys => orderList? xs ys
  | a, b => orderNumber? a b

/-- Lists are ordered by the first items that differ, else by length. -/
def orderList? : List Value → List Value → Option Ordering
  | [], [] => some .eq
  | [], _ :: _ => some .lt
  | _ :: _, [] => some .gt
  | x :: xs, y :: ys => if agrees x y then orderList? xs ys else order? x y

end

end Outreach.Value

namespace Outreach

/-- The comparison of a rule condition. -/
inductive Comparison where
  | gt | lt | eq | ne | ge | le
  deriving DecidableEq, Repr, Inhabited

namespace Comparison

/-- The written sign of a comparison. -/
def symbol : Comparison → String
  | .gt => ">"
  | .lt => "<"
  | .eq => "="
  | .ne => "!="
  | .ge => ">="
  | .le => "<="

/-- The comparison that a sign stands for. -/
def ofSymbol? : String → Option Comparison
  | ">" => some .gt
  | "<" => some .lt
  | "=" => some .eq
  | "!=" => some .ne
  | ">=" => some .ge
  | "<=" => some .le
  | _ => none

@[simp]
theorem ofSymbol?_symbol (c : Comparison) : ofSymbol? c.symbol = some c := by
  cases c <;> decide

/-- What a comparison makes of an order. Without an order none of the four inequalities holds. -/
def ofOrder (c : Comparison) (order : Option Ordering) : Bool :=
  match c, order with
  | .gt, some .gt => true
  | .lt, some .lt => true
  | .ge, some .gt | .ge, some .eq => true
  | .le, some .lt | .le, some .eq => true
  | _, _ => false

/-- The comparison holds between two values. -/
def holds (c : Comparison) (a b : Value) : Bool :=
  match c with
  | .eq => a.agrees b
  | .ne => !a.agrees b
  | c => c.ofOrder (a.order? b)

/-- The comparison holds between two instants. -/
def holdsBetween (c : Comparison) (a b : Int) : Bool :=
  match c with
  | .eq => a == b
  | .ne => a != b
  | c => c.ofOrder (some (compare a b))

end Comparison

end Outreach
