import Outreach.Proofs.Audience.Nodes
import Outreach.Proofs.Calendar.Written

/-!
# One instant in several spellings

The time of last activity is compared as an instant, and an instant can be spelled in several ways:
as a time, as the text of a time, with or without the mark of a zone where the clock shows UTC, and
as a whole number of milliseconds. All of them are read as the wall clock less the offset of its
zone, so neither the spelling in the record nor that in the rule makes a difference to a condition.
-/

namespace Outreach

namespace DateTime

/-- The instant of a reading: its wall clock less the offset of its zone, in nanoseconds. -/
def instant (t : DateTime) : Instant := t.wallNanos - t.offset.getD 0 * 1000000000

theorem ofDateTime_eq (t : DateTime) : Instant.ofDateTime t = t.instant := by
  unfold Instant.ofDateTime epochMicros instant wallNanos
  ring

theorem IsReading.offset_near {t : DateTime} (reading : t.IsReading) :
    (t.offset.getD 0).natAbs < 86400 := by
  cases zone : t.offset with
  | none => decide
  | some offset => exact (reading.zone offset zone).2

/-- The microseconds of every reading fit a word. -/
theorem IsReading.fitsWord {t : DateTime} (reading : t.IsReading) {ms : Int}
    (whole : t.instant = ms * 1000000) :
    Instant.fitsWord (ms * 1000) = true := by
  have days := Date.natAbs_dayNumber_le reading.date
  have near := reading.offset_near
  have hour := reading.hour
  have minute := reading.minute
  have second := reading.second
  have micro := reading.micro
  have nanos : t.wallNanos - t.offset.getD 0 * 1000000000 = ms * 1000000 := whole
  rw [wallNanos, wallSeconds] at nanos
  simp only [Instant.fitsWord, Bool.and_eq_true, decide_eq_true_eq]
  omega

/-- The zone that ends the written form of a reading. -/
theorem IsReading.isZone {t : DateTime} (reading : t.IsReading) :
    Iso.IsZone ((t.offset.map offsetText).getD "").toList (t.offset.getD 0) := by
  cases zone : t.offset with
  | none => exact Iso.isZone_nil
  | some offset =>
      obtain ⟨minutes, near⟩ := reading.zone offset zone
      exact isZone_offsetText minutes near

end DateTime

namespace Audience

/-- The values that spell a time. -/
inductive Spells (t : DateTime) : Value → Prop
  | time : Spells t (.time t)
  | iso : Spells t (.text t.iso)
  | zulu (naive : t.offset = none) : Spells t (.text (t.iso ++ "Z"))
  | utc (naive : t.offset = none) : Spells t (.text (t.iso ++ "+00:00"))
  | millis {ms : Int} (whole : t.instant = ms * 1000000) : Spells t (.int ms)

/-- A time is read as its instant, however it is spelled. -/
theorem readInstant?_of_spells {t : DateTime} (reading : t.IsReading) {value : Value}
    (spells : Spells t value) :
    readInstant? value = some t.instant := by
  -- With no zone of its own the written form may be followed by any name of UTC.
  have named {s : String} {zone : List Char} (naive : t.offset = none) (isZone : Iso.IsZone zone 0)
      (written : s.toList = t.iso.toList ++ zone) : readInstant? (.text s) = some t.instant := by
    rw [reading.toList_iso, naive, Option.map_none, Option.getD_none, String.toList_empty,
      List.append_nil]
      at written
    rw [readInstant?, reading.ofText?_eq isZone (by decide) written, DateTime.instant, naive]
    rfl
  cases spells with
  | time => rw [readInstant?, DateTime.ofDateTime_eq]
  | iso => exact reading.ofText?_eq reading.isZone reading.offset_near reading.toList_iso
  | zulu naive => exact named naive Iso.isZone_letter String.toList_append
  | utc naive =>
      exact named naive (@DateTime.isZone_offsetText 0 rfl (by decide)) String.toList_append
  | millis whole => rw [readInstant?, Instant.ofMillis?, if_pos (reading.fitsWord whole), whole]

/-- What a condition on the time of last activity comes to when both sides are read as instants. -/
theorem compareField_instants {actual expected : Value} {first second : Instant}
    (held : readInstant? actual = some first) (named : readInstant? expected = some second)
    (operator : Value) :
    compareField .instant actual operator expected =
      .ok ((comparisonOf? operator).any (·.holdsBetween first second)) := by
  have present : ¬actual.isNull = true := by
    cases actual <;> simp [Value.isNull, readInstant?] at held ⊢
  rw [compareField, if_neg present]
  cases comparisonOf? operator with
  | none => rfl
  | some comparison =>
      simp only [operandsFor, instantsOf?, held, named]
      rfl

/-- An instant does not depend on its spelling. Times are read as the wall clock less the offset,
whatever spells them, and a condition on the time of last activity gives the answer that these
instants give: for every operator, and whichever spellings the record and the rule use. -/
theorem instants_of_any_spelling {held named : DateTime} (heldReading : held.IsReading)
    (namedReading : named.IsReading) {actual expected : Value} (heldSpelled : Spells held actual)
    (namedSpelled : Spells named expected) :
    readInstant? actual = some (held.wallNanos - held.offset.getD 0 * 1000000000) ∧
      readInstant? expected = some (named.wallNanos - named.offset.getD 0 * 1000000000) ∧
      ∀ {fields : Fields} {leaf operator : Value} {name : String},
      canonicalField name = "lastActive" →
        Keyed.get? "lastActive" fields = some actual →
        IsCondition leaf (.text name) operator expected →
        evaluate leaf (.map fields) =
          .ok ((comparisonOf? operator).any (·.holdsBetween held.instant named.instant)) := by
  have heldRead := readInstant?_of_spells heldReading heldSpelled
  have namedRead := readInstant?_of_spells namedReading namedSpelled
  refine ⟨heldRead, namedRead, ?_⟩
  intro fields leaf operator name isLastActive found isCondition
  rw [isCondition.evaluate_eq]
  change compareField (fieldKind (canonicalField name))
    ((Keyed.get? (canonicalField name) fields).getD .null) operator expected = _
  rw [isLastActive, found]
  exact compareField_instants heldRead namedRead operator

/-- The last half hour of a leap day on a clock west of Greenwich. -/
def leapNight : DateTime := ⟨⟨2024, 2, 29⟩, 23, 30, 0, 0, some (-19800)⟩

/-- Five in the morning of the day after, on a clock without a zone. -/
def marchMorning : DateTime := ⟨⟨2024, 3, 1⟩, 5, 0, 0, 0, none⟩

/-- The same instant as a text on one day and as a number from the other. -/
theorem leapNight_is_marchMorning :
    let record : Fields := [("lastActive", .text leapNight.iso)]
    let leaf := conditionNode "last_active" .ge (.int 1709269200000)
    leapNight.IsReading ∧ marchMorning.IsReading ∧ Spells marchMorning (.int 1709269200000) ∧
      evaluate leaf (.map record) = .ok true := by
  have night : leapNight.IsReading := ⟨⟨by decide, by decide, by decide, by decide, by decide⟩, by
    rintro offset ⟨⟩
    decide⟩
  have morning : marchMorning.IsReading :=
    ⟨⟨by decide, by decide, by decide, by decide, by decide⟩, nofun⟩
  have number : Spells marchMorning (.int 1709269200000) := .millis (by decide)
  obtain ⟨-, -, evaluated⟩ := instants_of_any_spelling night morning .iso number
  refine ⟨night, morning, number, ?_⟩
  rw [evaluated (by decide) rfl (isCondition_conditionNode ..)]
  decide

end Audience

end Outreach
