import Outreach.Json.Reader
import Outreach.Json.Writer
import Outreach.Suggestion.Fence
import Outreach.Value.Literal

/-!
# Suggested messages

An answer of a language model is read as a list of suggestions: a JSON array that is not empty,
plain or fenced. A suggestion with subject and body is taken as it is. Any other becomes a
placeholder that shows it.
-/

namespace Outreach.Suggestion

/-- Why an answer is no list of suggestions. -/
inductive AnswerFault where
  | notJson (message : String)
  /-- A number in it is too long to be read. -/
  | longNumber (message : String)
  /-- Lists and objects in it are nested too deeply. -/
  | nesting (message : String)
  | noList
  deriving DecidableEq, Repr

/-- What an answer fault says. -/
def AnswerFault.message : AnswerFault → String
  | .notJson message => s!"JSON parsing failed: {message}"
  | .longNumber message | .nesting message => message
  | .noList => "Received invalid suggestions format"

/-- The part of an answer that should be JSON. -/
def payload (answer : String) : List Char :=
  let trimmed := Text.trimBy Text.isBlank answer.toList
  (fenced? trimmed).getD trimmed

/-- The fault of an answer that cannot be read as JSON. -/
def faultOf (text : List Char) (failure : Json.Failure) : AnswerFault :=
  match failure.kind with
  | .digitLimit _ => .longNumber (failure.message text)
  | .nesting _ => .nesting (failure.message text)
  | _ => .notJson (failure.message text)

/-- Reads the suggestions of an answer with at most so many levels of nested lists and objects. -/
def parseWithin (levels : Nat) (answer : String) : Except AnswerFault (List Value) :=
  let text := payload answer
  match Json.readMarked levels text with
  | .error failure => .error (faultOf text failure)
  | .ok (.list (first :: rest)) => .ok (first :: rest)
  | .ok _ => .error .noList

/-- Reads the suggestions of an answer. -/
def parse (answer : String) : Except AnswerFault (List Value) :=
  parseWithin Json.nestingLimit answer

/-- A suggested message. -/
structure Variant where
  subject : String
  body : String
  deriving DecidableEq, Repr

/-- Why a suggestion cannot be shown. -/
inductive VariantFault where
  | tooManyDigits
  | unwritable (kind : Json.Unwritable)
  deriving DecidableEq, Repr

namespace Variant

/-- The suggestion names both parts of a message. -/
def isComplete (suggestion : Value) : Bool :=
  !(suggestion.field "subject").isBlank && !(suggestion.field "body").isBlank

/-- The message that stands for a suggestion without subject or body. -/
def placeholder (index : Int) (suggestion : Value) : Except VariantFault Variant :=
  if !suggestion.isWritable then .error .tooManyDigits
  else match Json.write? suggestion with
    | .ok written => .ok ⟨s!"Generated Subject {index + 1}", written⟩
    | .error kind => .error (.unwritable kind)

/-- The message of the suggestion at an index. -/
def ofValue (index : Int) (suggestion : Value) : Except VariantFault Variant :=
  if isComplete suggestion then
    let subject := suggestion.field "subject"
    let body := suggestion.field "body"
    if subject.isWritable && body.isWritable then .ok ⟨subject.display, body.display⟩
    else .error .tooManyDigits
  else placeholder index suggestion

/-- The messages of suggestions from an index on. -/
def ofValues : Int → List Value → Except VariantFault (List Variant)
  | _, [] => .ok []
  | index, suggestion :: rest => do
    .ok ((← ofValue index suggestion) :: (← ofValues (index + 1) rest))

/-- The message as a value. -/
def toValue (v : Variant) : Value := .map [("subject", .text v.subject), ("body", .text v.body)]

end Variant

end Outreach.Suggestion
