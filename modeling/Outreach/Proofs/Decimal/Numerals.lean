import Mathlib.Data.List.Basic
import Outreach.Decimal.Rounded

/-!
# What numbers are written with

Digits, a point, two signs and the letter of an exponent are all that a number is written
with. So a class of characters that takes these in takes in every written number,
whatever the class is asked for.
-/

namespace Outreach.Decimal

/-- A class that takes in everything that numbers are written with. -/
structure TakesNumerals (allowed : Char → Prop) : Prop where
  digit : ∀ n, allowed (Nat.digitChar n)
  point : allowed '.'
  minus : allowed '-'
  plus : allowed '+'
  power : allowed 'e'

/-- There are 36 digits, and a star for what is none. -/
theorem forall_digitChar {allowed : Char → Prop} (digits : ∀ n < 36, allowed (Nat.digitChar n))
    (star : allowed '*') (n : Nat) : allowed (Nat.digitChar n) := by
  by_cases small : n < 36
  · exact digits n small
  · have isStar : Nat.digitChar n = '*' := by
      simp only [Nat.digitChar]
      repeat rw [if_neg (by omega)]
    rwa [isStar]

namespace TakesNumerals

variable {allowed : Char → Prop} (takes : TakesNumerals allowed)
include takes

theorem zero : allowed '0' := takes.digit 0

theorem zeros (count : Nat) : ∀ c ∈ List.replicate count '0', allowed c := by
  intro c member
  rw [List.eq_of_mem_replicate member]
  exact takes.zero

theorem toDigits {base : Nat} (large : 1 < base) (n : Nat) :
    ∀ c ∈ Nat.toDigits base n, allowed c := by
  induction n using Nat.strongRecOn with
  | ind n ih =>
      rw [Nat.toDigits_eq_if large]
      split
      · exact List.forall_mem_singleton.mpr (takes.digit n)
      · rename_i several
        have smaller : n / base < n := Nat.div_lt_self (by omega) large
        exact List.forall_mem_append.mpr ⟨ih (n / base) smaller,
          List.forall_mem_singleton.mpr (takes.digit _)⟩

theorem padZeros (width : Nat) {digits : List Char} (each : ∀ c ∈ digits, allowed c) :
    ∀ c ∈ padZeros width digits, allowed c :=
  List.forall_mem_append.mpr ⟨takes.zeros _, each⟩

theorem writeHex (width n : Nat) : ∀ c ∈ writeHex width n, allowed c :=
  takes.padZeros width (takes.toDigits (by decide) n)

theorem writeInt (i : Int) : ∀ c ∈ (writeInt i).toList, allowed c := by
  have ten : 1 < 10 := by decide
  have digits := takes.toDigits ten i.natAbs
  unfold Decimal.writeInt
  split
  · rw [String.toList_append]
    refine List.forall_mem_append.mpr ⟨List.forall_mem_singleton.mpr takes.minus, ?_⟩
    rwa [String.toList_ofList]
  · rwa [String.toList_ofList]

section Digits

variable {d : Digits} (each : ∀ c ∈ d.digits, allowed c)
include each

theorem writePositional : ∀ c ∈ writePositional d, allowed c := by
  have right (whole : Nat) : ∀ c ∈ d.digits.drop whole, allowed c := fun c member =>
    each c (List.drop_subset _ _ member)
  unfold Decimal.writePositional
  split
  · exact List.forall_mem_append.mpr ⟨List.forall_mem_cons.mpr ⟨takes.zero,
      List.forall_mem_cons.mpr ⟨takes.point, takes.zeros _⟩⟩, each⟩
  · have left (whole : Nat) :
      ∀ c ∈ d.digits.take whole ++ List.replicate (whole - d.digits.length) '0', allowed c :=
      List.forall_mem_append.mpr ⟨fun c member => each c (List.take_subset _ _ member),
        takes.zeros _⟩
    refine List.forall_mem_append.mpr ⟨left _, List.forall_mem_cons.mpr ⟨takes.point, ?_⟩⟩
    split
    · exact List.forall_mem_singleton.mpr takes.zero
    · exact right _

theorem writeExponential (style : NumberStyle) : ∀ c ∈ writeExponential style d, allowed c := by
  have left : ∀ c ∈ d.digits.take 1, allowed c :=
    fun c member => each c (List.take_subset _ _ member)
  have right : ∀ c ∈ d.digits.drop 1, allowed c :=
    fun c member => each c (List.drop_subset _ _ member)
  have sign : allowed (if d.exponent < 0 then '-' else '+') := by
    split
    · exact takes.minus
    · exact takes.plus
  unfold Decimal.writeExponential
  refine List.forall_mem_append.mpr
    ⟨?_, List.forall_mem_cons.mpr ⟨takes.power, List.forall_mem_cons.mpr
    ⟨sign, takes.padZeros _ (takes.toDigits (by decide) _)⟩⟩⟩
  split
  · exact left
  · exact List.forall_mem_append.mpr ⟨left, List.forall_mem_cons.mpr ⟨takes.point, right⟩⟩

end Digits

theorem shortestDigits (m : Nat) (e : Int) : ∀ c ∈ (shortestDigits m e).digits, allowed c := by
  intro c member
  unfold Decimal.shortestDigits Digits.ofGridPoint at member
  have kept := List.mem_reverse.mp ((List.dropWhile_sublist _).subset (List.mem_reverse.mp member))
  exact takes.toDigits (by decide) _ c kept

theorem writeMagnitude (style : NumberStyle) (m : Nat) (e : Int) :
    ∀ c ∈ writeMagnitude style m e, allowed c := by
  unfold Decimal.writeMagnitude
  split
  · exact List.forall_mem_cons.mpr ⟨takes.zero, List.forall_mem_cons.mpr ⟨takes.point,
      List.forall_mem_singleton.mpr takes.zero⟩⟩
  · dsimp only
    split
    · exact takes.writePositional (takes.shortestDigits m e)
    · exact takes.writeExponential (takes.shortestDigits m e) style

/-- A double is written with numerals, or else with one of the words of the style. -/
theorem write {style : NumberStyle} (undefined : ∀ c ∈ style.undefined.toList, allowed c)
    (infinity : ∀ c ∈ style.infinity.toList, allowed c)
    (negativeInfinity : ∀ c ∈ style.negativeInfinity.toList, allowed c) (x : Float) :
    ∀ c ∈ (style.write x).toList, allowed c := by
  unfold NumberStyle.write
  dsimp only
  split
  · split
    · split
      · exact negativeInfinity
      · exact infinity
    · exact undefined
  · rw [String.toList_ofList]
    split
    · exact List.forall_mem_cons.mpr ⟨takes.minus, takes.writeMagnitude style _ _⟩
    · exact takes.writeMagnitude style _ _

end TakesNumerals

end Outreach.Decimal
