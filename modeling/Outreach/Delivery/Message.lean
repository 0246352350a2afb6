import Outreach.Text.Search
import Outreach.Value.Literal

/-!
# Personal messages

A message is made from a template by putting the name of the customer in place of a mark. A customer
without a name leaves the place empty.
-/

namespace Outreach.Delivery

/-- Why a record cannot be written to. -/
inductive RecordFault where
  | noRecord
  | missing (field : String)
  | tooManyDigits
  deriving DecidableEq, Repr

/-- The mark that stands for the name. -/
def nameMark : String := "\x7bname\x7d"

/-- A value in running text, empty when it is blank. -/
def shownOrEmpty (value : Value) : Except RecordFault String :=
  if value.isBlank then .ok ""
  else if value.isWritable then .ok value.display
  else .error .tooManyDigits

/-- The message for a record. -/
def personalize (template : String) : Value → Except RecordFault String
  | .map fields => do
    let name ← shownOrEmpty ((Keyed.get? "name" fields).getD .null)
    .ok (Text.replaceAll nameMark name template)
  | _ => .error .noRecord

/-- The identifier of a record as text. -/
def recordId (record : Value) : Except RecordFault String :=
  match Keyed.get? "id" record.fields with
  | some id => if id.isWritable then .ok id.display else .error .tooManyDigits
  | none => .error (.missing "id")

end Outreach.Delivery
