import Outreach.Office.Basic
import Outreach.Proofs.Text.Encoding

/-!
# Identifiers

Numbers that are drawn one after the other give different identifiers, because the number can be
read off the identifier again.
-/

namespace Outreach

namespace Decimal

/-- The number of hexadecimal digits. -/
def readHex (digits : List Char) : Nat :=
  digits.foldl (fun number digit => 16 * number + (Text.hexDigit? digit).getD 0) 0

theorem readHex_concat (digits : List Char) (digit : Char) :
    readHex (digits ++ [digit]) = 16 * readHex digits + (Text.hexDigit? digit).getD 0 := by
  simp [readHex]

theorem hexDigit?_digitChar {n : Nat} (small : n < 16) :
    Text.hexDigit? (Nat.digitChar n) = some n := by
  revert small
  revert n
  decide

@[simp]
theorem readHex_toDigits (n : Nat) : readHex (Nat.toDigits 16 n) = n := by
  induction n using Nat.strongRecOn with
  | ind n ih =>
      rw [Nat.toDigits_eq_if (by decide)]
      split
      · rename_i small
        simp [readHex, hexDigit?_digitChar small]
      · rename_i large
        rw [readHex_concat, ih (n / 16) (by omega), hexDigit?_digitChar (by omega),
          Option.getD_some]
        omega

theorem readHex_padZeros (width : Nat) (digits : List Char) :
    readHex (padZeros width digits) = readHex digits := by
  unfold padZeros
  generalize width - digits.length = zeros
  induction zeros with
  | zero => rfl
  | succ zeros ih =>
      rw [List.replicate_succ, List.cons_append]
      exact ih

theorem readHex_writeHex (width n : Nat) : readHex (writeHex width n) = n := by
  rw [writeHex, readHex_padZeros, readHex_toDigits]

end Decimal

namespace Office

theorem identifier_injective : Function.Injective identifier := by
  intro m n same
  have digits : Decimal.writeHex 32 m = Decimal.writeHex 32 n := String.ofList_injective same
  rw [← Decimal.readHex_writeHex 32 m, digits, Decimal.readHex_writeHex]

theorem hasLoneSurrogate_identifier (n : Nat) : Text.hasLoneSurrogate (identifier n) = false :=
  Text.hasLoneSurrogate_ofList (Decimal.plain_writeHex 32 n)

end Office

end Outreach
