import Outreach.Delivery.Run
import Outreach.Form.Requests
import Outreach.Proofs.Form.Checks
import Outreach.Proofs.Office.Identifiers
import Outreach.Proofs.Office.Population
import Outreach.Proofs.Store.Statements

/-!
# Messages and their encoding

A message has an encoding when its template and the name of the customer have one. A
checked template has one, and so has every text that is stored. So every message of
a campaign can be posted.
-/

namespace Outreach

namespace Text

theorem plain_replaceFrom {mark filling text : List Char} (fillingPlain : Plain filling)
    (textPlain : Plain text) (skipped : Nat) : Plain (replaceFrom mark filling skipped text) := by
  induction text generalizing skipped with
  | nil => cases skipped <;> simp [replaceFrom]
  | cons c rest ih =>
      obtain ⟨first, later⟩ := plain_cons.mp textPlain
      cases skipped with
      | succ skipped => exact ih later skipped
      | zero =>
          rw [replaceFrom]
          split
          · exact plain_append.mpr ⟨fillingPlain, ih later _⟩
          · exact plain_cons.mpr ⟨first, ih later 0⟩

theorem hasLoneSurrogate_replaceAll {mark filling text : String}
    (fillingPlain : hasLoneSurrogate filling = false) (textPlain : hasLoneSurrogate text = false) :
    hasLoneSurrogate (replaceAll mark filling text) = false := by
  rw [hasLoneSurrogate_eq_false_iff] at fillingPlain textPlain
  exact hasLoneSurrogate_ofList (plain_replaceFrom fillingPlain textPlain 0)

end Text

namespace Form

/-- The template of a checked campaign has an encoding. -/
theorem hasLoneSurrogate_body {place : Place} {value : Value} {campaign : NewCampaign}
    (checked : NewCampaign.check place value = .valid campaign) :
    Text.hasLoneSurrogate campaign.content.body = false := by
  obtain ⟨entries, valid⟩ := object_eq_valid checked
  obtain ⟨_, creator, toSchedule, -, rfl⟩ := Checked.seq_eq_valid valid
  obtain ⟨_, scheduleDate, toStatus, -, rfl⟩ := Checked.seq_eq_valid toSchedule
  obtain ⟨_, status, toContent, -, rfl⟩ := Checked.seq_eq_valid toStatus
  obtain ⟨_, content, toSegment, contentValid, rfl⟩ := Checked.seq_eq_valid toContent
  obtain ⟨_, segmentId, toType, -, rfl⟩ := Checked.seq_eq_valid toSegment
  obtain ⟨_, type, toDescription, -, rfl⟩ := Checked.seq_eq_valid toType
  obtain ⟨_, description, toName, -, rfl⟩ := Checked.seq_eq_valid toDescription
  obtain ⟨name, -, rfl⟩ := Checked.map_eq_valid toName
  obtain ⟨_, _, -, contentChecked⟩ := required_eq_valid contentValid
  obtain ⟨contentEntries, subjectAndBody⟩ := object_eq_valid contentChecked
  obtain ⟨_, body, toSubject, bodyValid, rfl⟩ := Checked.seq_eq_valid subjectAndBody
  obtain ⟨subject, -, rfl⟩ := Checked.map_eq_valid toSubject
  obtain ⟨_, _, -, bodyChecked⟩ := required_eq_valid bodyValid
  exact (textBetween_eq_valid bodyChecked).2 Nat.one_pos

end Form

namespace Delivery

open Store

/-- The posting is for a record: it has the identifier of the record and the message made for it. -/
structure Addresses (template : String) (record : Value) (posting : Posting) : Prop where
  customerId : recordId record = .ok posting.customerId
  message : personalize template record = .ok posting.message

/-- A customer can be written to: identifier and name are texts with an encoding. -/
structure Addressee (row : Row) : Prop where
  id : Text.hasLoneSurrogate row.id = false
  name : ∃ name, row.cell "name" = some (.text name) ∧ Text.hasLoneSurrogate name = false

/-- Every customer of a table can be written to. This is so of all that the store has taken in,
since it refuses texts that have no encoding. -/
structure Addressable (t : Table) : Prop where
  schema : t.schema = customerSchema
  everyone : ∀ row ∈ t.rows, Addressee row

theorem recordId_of_isRecordOf {t : Table} {row : Row} {record : Value}
    (isRecord : Audience.IsRecordOf t row record) : recordId record = .ok row.id := by
  obtain ⟨fields, read, rfl⟩ := isRecord
  obtain ⟨cells, _, fieldsEq⟩ := bind_eq_ok_iff.mp read
  obtain rfl := Except.ok.inj fieldsEq
  rfl

/-- A message to a stored customer has an encoding. -/
theorem Addresses.hasEncoding {t : Table} {row : Row} {record : Value} {template : String}
    {posting : Posting} (addresses : Addresses template record posting)
    (addressable : Addressable t)
    (rowMem : row ∈ t.rows) (isRecord : Audience.IsRecordOf t row record)
    (templatePlain : Text.hasLoneSurrogate template = false)
    (logIdPlain : Text.hasLoneSurrogate posting.logId = false) : posting.isUnencodable = false := by
  have customerIdPlain : Text.hasLoneSurrogate posting.customerId = false := by
    have same := (recordId_of_isRecordOf isRecord).symm.trans addresses.customerId
    rw [← Except.ok.inj same]
    exact (addressable.everyone row rowMem).id
  have messagePlain : Text.hasLoneSurrogate posting.message = false := by
    obtain ⟨name, nameEq, namePlain⟩ := (addressable.everyone row rowMem).name
    obtain ⟨fields, read, rfl⟩ := isRecord
    obtain ⟨_, nameRead, nameFound⟩ := get?_readRow read (customerColumns_nodup addressable.schema)
      (nameColumn_mem addressable.schema) (by decide)
    rw [show (textColumn "name").name = "name" from rfl] at nameRead nameFound
    rw [nameEq] at nameRead
    obtain rfl := Except.ok.inj nameRead
    obtain ⟨shown, shownEq, messageEq⟩ := bind_eq_ok_iff.mp addresses.message
    rw [← Except.ok.inj messageEq]
    refine Text.hasLoneSurrogate_replaceAll ?_ templatePlain
    have shownText : shownOrEmpty (.text name) = .ok shown := by
      simpa [Keyed.get?, fieldOf, nameFound] using shownEq
    unfold shownOrEmpty at shownText
    split at shownText
    · cases shownText
      rfl
    · cases shownText
      exact namePlain
  simp [Posting.isUnencodable, logIdPlain, customerIdPlain, messagePlain]

end Delivery

end Outreach
