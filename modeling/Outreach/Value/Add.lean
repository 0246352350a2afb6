import Outreach.Value.Compare

/-!
# Adding values

Increments add a value to the one that is stored. Whole numbers add exactly, a double on either side
makes the sum a double, booleans count as zero and one, and texts and lists are joined. All other
pairs have no sum.
-/

namespace Outreach

/-- Why two values have no sum. -/
inductive AddFault where
  /-- The kinds of the two sides do not add. -/
  | unsupported (left right : String)
  /-- A text or list is only joined with its like. -/
  | joinsOnly (whole other : String)
  /-- A whole number is too large to be added to a double. -/
  | tooLarge
  deriving DecidableEq, Repr

namespace AddFault

/-- What an addition fault says. -/
def message : AddFault → String
  | .unsupported left right => s!"unsupported operand type(s) for +: '{left}' and '{right}'"
  | .joinsOnly whole other => s!"can only concatenate {whole} (not \"{other}\") to {whole}"
  | .tooLarge => "int too large to convert to float"

end AddFault

namespace Value

/-- The name of a value's kind in messages. -/
def kindName : Value → String
  | .null => "NoneType"
  | .bool _ => "bool"
  | .int _ => "int"
  | .float _ => "float"
  | .text _ => "str"
  | .time _ => "datetime.datetime"
  | .date _ => "datetime.date"
  | .list _ => "list"
  | .map _ => "dict"

/-- The whole number that a boolean or whole number is. -/
def whole? : Value → Option Int
  | .bool b => some (if b then 1 else 0)
  | .int i => some i
  | _ => none

/-- The double nearest to a number. -/
def toFloat? : Value → Except AddFault (Option Float)
  | .float x => .ok (some x)
  | value => match value.whole? with
    | some i => match Decimal.floatOfInt? i with
      | some x => .ok (some x)
      | none => .error .tooLarge
    | none => .ok none

/-- The sum of two values of kinds that do not join. -/
def addNumbers (a b : Value) : Except AddFault Value :=
  match a.whole?, b.whole? with
  | some i, some j => .ok (.int (i + j))
  | _, _ =>
    if a.quantity?.isSome && b.quantity?.isSome then do
      match ← a.toFloat?, ← b.toFloat? with
      | some x, some y => .ok (.float (x + y))
      | _, _ => .error (.unsupported a.kindName b.kindName)
    else .error (.unsupported a.kindName b.kindName)

/-- The sum of two values. -/
def add (a b : Value) : Except AddFault Value :=
  match a, b with
  | .text s, .text t => .ok (.text (s ++ t))
  | .text _, b => .error (.joinsOnly "str" b.kindName)
  | .list xs, .list ys => .ok (.list (xs ++ ys))
  | .list _, b => .error (.joinsOnly "list" b.kindName)
  | a, b => addNumbers a b

/-- Adds to a stored value, which counts as zero when it is blank. -/
def increase (old delta : Value) : Except AddFault Value :=
  (if old.isBlank then Value.int 0 else old).add delta

end Value

end Outreach
