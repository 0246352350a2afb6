import Outreach.Form.Check
import Outreach.Text.Encoding
import Outreach.Office.Task

/-!
# Answers to requests

An answer has a status and shows a value or a text. Numbers that are infinite or undefined are shown
as null. A text that has no encoding cannot be shown. A failure that callers are told is answered by
its message; any other setback is an internal error.
-/

namespace Outreach.Http

/-- What an answer shows. -/
inductive Content where
  | value (v : Value)
  | text (s : String)

/-- An answer. -/
structure Response where
  status : Nat
  content : Content

mutual

/-- The value with null in place of numbers that are infinite or undefined. -/
def finiteOnly : Value → Value
  | .float x => if x.isNaN || x.isInf then .null else .float x
  | .list items => .list (finiteItems items)
  | .map fields => .map (finiteFields fields)
  | value => value

/-- The items with null in place of such numbers. -/
def finiteItems : List Value → List Value
  | [] => []
  | item :: rest => finiteOnly item :: finiteItems rest

/-- The entries with null in place of such numbers. -/
def finiteFields : List (String × Value) → List (String × Value)
  | [] => []
  | (name, value) :: rest => (name, finiteOnly value) :: finiteFields rest

end

mutual

/-- Every part of a value that is no list and no map, and every name in it, passes a test. -/
def everyPart (test : Value → Bool) : Value → Bool
  | .list items => everyItem test items
  | .map fields => everyEntry test fields
  | value => test value

/-- Every part of the items passes a test. -/
def everyItem (test : Value → Bool) : List Value → Bool
  | [] => true
  | item :: rest => everyPart test item && everyItem test rest

/-- Every part of the entries passes a test. -/
def everyEntry (test : Value → Bool) : List (String × Value) → Bool
  | [] => true
  | (name, value) :: rest => test (.text name) && everyPart test value && everyEntry test rest

end

/-- The text, if it is one, has an encoding. -/
def hasEncoding : Value → Bool
  | .text s => !Text.hasLoneSurrogate s
  | _ => true

/-- The number, if it is one, is finite. -/
def isFinite : Value → Bool
  | .float x => !(x.isNaN || x.isInf)
  | _ => true

namespace Response

/-- The answer to an internal error. -/
def internal : Response := ⟨500, .text "Internal Server Error"⟩

/-- An answer that shows a value; one with a text that has no encoding cannot be given. -/
def showing (status : Nat) (v : Value) : Response :=
  if everyPart hasEncoding v then ⟨status, .value (finiteOnly v)⟩ else internal

/-- An answer without content. -/
def empty (status : Nat) : Response := ⟨status, .text ""⟩

/-- An answer that says what is wrong. -/
def detail (status : Nat) (message : String) : Response :=
  .showing status (.map [("detail", .text message)])

/-- A problem as it is answered. -/
def problemValue (problem : Form.Problem) : Value :=
  .map [("type", .text problem.kind.word), ("loc", .list (problem.path.map Value.text))]

/-- The answer to a request with problems. It repeats what was found, so it cannot be given when
that holds a number that is not finite or a text that has no encoding. -/
def unprocessable (problems : List Form.Problem) : Response :=
  if problems.all fun problem => everyPart (fun v => isFinite v && hasEncoding v) problem.input then
    .showing 422 (.map [("detail", .list (problems.map problemValue))])
  else .internal

/-- The answer to a setback. -/
def ofSetback : Setback → Response
  | .failure why => .detail why.kind.status why.message
  | _ => .internal

end Response

end Outreach.Http
