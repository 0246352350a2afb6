import Outreach.Proofs.Decimal.Line
import Outreach.Value.Compare

/-!
# Comparing with a number or a text

What stands on the right of a comparison is a number, a truth value or a text. A number compares
with whatever has a position, by the positions; a text compares with texts; with everything else
they have no order. Being equal is the same as having the order "equal", so all six comparisons are
read off one order.
-/

namespace Outreach

open Decimal

namespace Value

/-- Where a value lies on the line of numbers; truth values lie on zero and one. -/
def position? (v : Value) : Option Line := v.quantity?.bind Quantity.position?

/-- The text that a value is. -/
def text? : Value → Option String
  | .text s => some s
  | _ => none

theorem orderNumber?_eq (a b : Value) :
    a.orderNumber? b = Option.map₂ compare a.position? b.position? := by
  unfold orderNumber? position?
  cases a.quantity? with
  | none => rfl
  | some p =>
      cases b.quantity? with
      | none => exact (Option.map₂_none_right ..).symm
      | some q => exact Quantity.compare?_eq p q

theorem sameNumber_eq (a b : Value) : a.sameNumber b = (a.orderNumber? b == some .eq) := by
  unfold sameNumber orderNumber?
  cases a.quantity? <;> cases b.quantity? <;> rfl

/-- Numbers, truth values and texts. -/
inductive IsScalar : Value → Prop
  | bool (b : Bool) : IsScalar (.bool b)
  | int (i : Int) : IsScalar (.int i)
  | float (x : Float) : IsScalar (.float x)
  | text (s : String) : IsScalar (.text s)

theorem IsScalar.of_position {v : Value} {x : Line} (number : v.position? = some x) :
    v.IsScalar := by
  cases v with
  | bool b => exact .bool b
  | int i => exact .int i
  | float y => exact .float y
  | _ => cases number

section Scalars

variable {a b : Value}

/-- What is compared with a number is compared as a number. -/
theorem order?_of_quantity {q : Quantity} (number : b.quantity? = some q) :
    a.order? b = a.orderNumber? b := by
  cases b <;> cases number <;> cases a <;> rfl

theorem agrees_of_quantity {q : Quantity} (number : b.quantity? = some q) :
    a.agrees b = a.sameNumber b := by
  cases b <;> cases number <;> cases a <;> simp only [agrees]

theorem order?_of_position {x : Line} (number : b.position? = some x) :
    a.order? b = a.position?.map (compare · x) := by
  obtain ⟨q, quantity, _⟩ := Option.bind_eq_some_iff.mp number
  rw [order?_of_quantity quantity, orderNumber?_eq, number]
  exact Option.map₂_coe_right ..

/-- What is compared with a text has an order only if it is a text. -/
theorem order?_text (s : String) : a.order? (.text s) = a.text?.map (compare · s) := by
  cases a <;> rfl

/-- A value agrees with a number or a text exactly when the two compare as equal. -/
theorem agrees_eq (scalar : IsScalar b) : a.agrees b = (a.order? b == some .eq) := by
  cases scalar with
  | text s =>
      rw [order?_text]
      cases a with
      | text t =>
          rw [Bool.eq_iff_iff, agrees]
          simp [text?]
      | _ => rfl
  | _ => rw [agrees_of_quantity rfl, order?_of_quantity rfl, sameNumber_eq]

end Scalars

end Value

/-! ## The six comparisons -/

namespace Comparison

/-- What a comparison makes of an order; to be equal is to have the order "equal". -/
def decides (c : Comparison) (order : Option Ordering) : Bool :=
  match c with
  | .eq => order == some .eq
  | .ne => order != some .eq
  | c => c.ofOrder order

theorem holds_eq {a b : Value} (c : Comparison) (scalar : b.IsScalar) :
    c.holds a b = c.decides (a.order? b) := by
  cases c with
  | eq => exact Value.agrees_eq scalar
  | ne => exact congrArg (!·) (Value.agrees_eq scalar)
  | _ => rfl

theorem holdsBetween_eq (c : Comparison) (a b : Int) :
    c.holdsBetween a b = c.decides (some (compare a b)) := by
  cases c with
  | eq =>
      rw [Bool.eq_iff_iff]
      simp [holdsBetween, decides]
  | ne =>
      rw [Bool.eq_iff_iff]
      simp [holdsBetween, decides]
  | _ => rfl

/-- Values at the same place of the line make no difference to a comparison. -/
theorem holds_eq_of_position {a b other : Value} {x : Line} (c : Comparison)
    (number : b.position? = some x)
    (same : other.position? = some x) : c.holds a b = c.holds a other := by
  rw [c.holds_eq (.of_position number), c.holds_eq (.of_position same),
    Value.order?_of_position number,
    Value.order?_of_position same]

end Comparison

end Outreach
