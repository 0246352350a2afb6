import Outreach.Calendar.DateTime
import Outreach.Proofs.Decimal.Numerals
import Outreach.Text.Encoding

/-!
# Texts with an encoding

A text without stand-ins has an encoding. Numbers, dates and times are written with digits, letters
and a few signs, none of which is a stand-in.
-/

namespace Outreach

namespace Text

/-- No character of the text stands in for half of a surrogate pair. -/
def Plain (text : List Char) : Prop := ∀ c ∈ text, isStandIn c = false

@[simp]
theorem plain_nil : Plain [] := by simp [Plain]

@[simp]
theorem plain_cons {c : Char} {text : List Char} :
    Plain (c :: text) ↔ isStandIn c = false ∧ Plain text := List.forall_mem_cons

@[simp]
theorem plain_append {first second : List Char} :
    Plain (first ++ second) ↔ Plain first ∧ Plain second := List.forall_mem_append

theorem Plain.subset {text part : List Char} (plain : Plain text) (inside : part ⊆ text) :
    Plain part :=
  fun c member => plain c (inside member)

theorem hasLoneSurrogate_eq_false_iff {s : String} :
    hasLoneSurrogate s = false ↔ Plain s.toList := by
  simp [hasLoneSurrogate, Plain]

theorem hasLoneSurrogate_ofList {text : List Char} (plain : Plain text) :
    hasLoneSurrogate (String.ofList text) = false := by
  rwa [hasLoneSurrogate_eq_false_iff, String.toList_ofList]

theorem hasLoneSurrogate_append (s t : String) :
    hasLoneSurrogate (s ++ t) = (hasLoneSurrogate s || hasLoneSurrogate t) := by
  simp [hasLoneSurrogate, List.any_append]

theorem toNat_standIn {unit : Nat} (surrogate : isSurrogateUnit unit = true) :
    (standIn unit).toNat = standInStart + (unit - 0xd800) := by
  simp only [isSurrogateUnit, Bool.and_eq_true, decide_eq_true_eq] at surrogate
  have valid : (standInStart + (unit - 0xd800)).isValidChar := by
    simp only [Nat.isValidChar, standInStart]
    omega
  rw [standIn, Char.ofNat, dif_pos valid]
  rfl

/-- A text keeps every code point but the characters that serve as stand-ins. -/
theorem CodePoint.ofChar_toChar {point : CodePoint}
    (genuine : ∀ c, point = .char c → isStandIn c = false) : ofChar point.toChar = point := by
  cases point with
  | char c =>
      have outside : ¬(standInStart ≤ c.toNat ∧ c.toNat < standInStart + 0x800) := fun bounds => by
        simpa [isStandIn, standInUnit?, bounds] using genuine c rfl
      rw [toChar, ofChar, dif_neg outside]
  | half offset =>
      have place : (standIn (0xd800 + offset)).toNat = standInStart + offset := by
        rw [toNat_standIn (by simp [isSurrogateUnit]; omega), Nat.add_sub_cancel_left]
      simp [toChar, ofChar, place]

theorem codePoints_ofCodePoints {points : List CodePoint}
    (genuine : ∀ c, .char c ∈ points → isStandIn c = false) :
    codePoints (ofCodePoints points) = points := by
  rw [codePoints, ofCodePoints, String.toList_ofList, List.map_map]
  conv_rhs => rw [← List.map_id points]
  exact List.map_congr_left fun point member =>
    CodePoint.ofChar_toChar fun c isChar => genuine c (isChar ▸ member)

end Text

open Text

namespace Decimal

/-- Nothing that numbers are written with is a stand-in. -/
theorem takesNumerals_plain : TakesNumerals (isStandIn · = false) where
  digit := @forall_digitChar (isStandIn · = false) (by decide) (by decide)
  point := by decide
  minus := by decide
  plus := by decide
  power := by decide

theorem isStandIn_digitChar (n : Nat) : isStandIn (Nat.digitChar n) = false :=
  TakesNumerals.digit takesNumerals_plain n

theorem plain_toDigits {base : Nat} (large : 1 < base) (n : Nat) : Plain (Nat.toDigits base n) :=
  TakesNumerals.toDigits takesNumerals_plain large n

theorem plain_padZeros (width : Nat) {digits : List Char} (plain : Plain digits) :
    Plain (padZeros width digits) :=
  TakesNumerals.padZeros takesNumerals_plain width plain

theorem plain_writeHex (width n : Nat) : Plain (writeHex width n) :=
  TakesNumerals.writeHex takesNumerals_plain width n

@[simp]
theorem hasLoneSurrogate_writePadded (width n : Nat) :
    hasLoneSurrogate (writePadded width n) = false :=
  hasLoneSurrogate_ofList (plain_padZeros width (plain_toDigits (by decide) n))

theorem hasLoneSurrogate_writeInt (i : Int) : hasLoneSurrogate (writeInt i) = false :=
  hasLoneSurrogate_eq_false_iff.mpr (TakesNumerals.writeInt takesNumerals_plain i)

theorem plain_writePositional {d : Digits} (plain : Plain d.digits) : Plain (writePositional d) :=
  TakesNumerals.writePositional takesNumerals_plain plain

theorem plain_writeExponential (style : NumberStyle) {d : Digits} (plain : Plain d.digits) :
    Plain (writeExponential style d) :=
  TakesNumerals.writeExponential takesNumerals_plain plain style

theorem plain_leadingDigits (count : Nat) (x : Extended) : Plain (leadingDigits count x) := by
  induction count generalizing x with
  | zero => simp [leadingDigits]
  | succ count ih => simp [leadingDigits, isStandIn_digitChar, ih]

theorem plain_fifteenDigits (x : Extended) : Plain (fifteenDigits x).digits := by
  unfold fifteenDigits
  generalize roundedUp (normalized x) = rounded
  refine (plain_leadingDigits 15 rounded.1).subset fun c member => ?_
  have kept := List.mem_reverse.mp member
  exact List.mem_reverse.mp ((List.dropWhile_sublist _).subset kept)

theorem plain_writePointed {d : Digits} (plain : Plain d.digits) : Plain (writePointed d) := by
  unfold writePointed
  split
  · rename_i c single
    have zero : isStandIn '0' = false := by decide
    rw [single, plain_cons] at plain
    exact plain_writeExponential _ (by simp [plain, zero])
  · exact plain_writeExponential _ plain

theorem hasLoneSurrogate_writeFifteen (x : Float) : hasLoneSurrogate (writeFifteen x) = false := by
  have dash : isStandIn '-' = false := by decide
  unfold writeFifteen
  dsimp only
  split
  · split <;> decide
  · split
    · decide
    · have digits := plain_fifteenDigits (Extended.ofFloat x)
      apply hasLoneSurrogate_ofList
      split
      · split
        · exact plain_cons.mpr ⟨dash, plain_writePositional digits⟩
        · exact plain_cons.mpr ⟨dash, plain_writePointed digits⟩
      · split
        · exact plain_writePositional digits
        · exact plain_writePointed digits

end Decimal

theorem Date.hasLoneSurrogate_iso (d : Date) : hasLoneSurrogate d.iso = false := by
  have dash : hasLoneSurrogate "-" = false := by decide
  simp [Date.iso, hasLoneSurrogate_append, toString, dash]

namespace DateTime

theorem hasLoneSurrogate_offsetText (offset : Int) :
    hasLoneSurrogate (offsetText offset) = false := by
  have colon : hasLoneSurrogate ":" = false := by decide
  have empty : hasLoneSurrogate "" = false := by decide
  have sign : hasLoneSurrogate (if offset < 0 then "-" else "+") = false := by split <;> decide
  have seconds : hasLoneSurrogate (if offset.natAbs % 60 = 0 then ""
      else ":" ++ Decimal.writePadded 2 (offset.natAbs % 60)) = false := by
    split
    · exact empty
    · simp [hasLoneSurrogate_append, colon]
  unfold offsetText
  simp only [hasLoneSurrogate_append, toString, sign, seconds, colon,
    Decimal.hasLoneSurrogate_writePadded, Bool.or_self]

theorem hasLoneSurrogate_isoWith {separator : String} (plain : hasLoneSurrogate separator = false)
    (t : DateTime) : hasLoneSurrogate (t.isoWith separator) = false := by
  have colon : hasLoneSurrogate ":" = false := by decide
  have point : hasLoneSurrogate "." = false := by decide
  have zone : hasLoneSurrogate ((t.offset.map offsetText).getD "") = false := by
    cases t.offset with
    | none => decide
    | some offset => exact hasLoneSurrogate_offsetText offset
  unfold isoWith
  dsimp only
  split <;>
    simp [hasLoneSurrogate_append, toString, Date.hasLoneSurrogate_iso, plain, colon, point, zone]

end DateTime

end Outreach
