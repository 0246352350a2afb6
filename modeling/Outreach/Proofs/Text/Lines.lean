import Outreach.Proofs.Decimal.Numerals
import Outreach.Value.Literal

/-!
# Lines of a text

A text has one line more than line ends. Texts that are joined by line ends come back as lines,
unless a line end stands inside of one. Literals of numbers and texts have none.
-/

namespace Outreach.Text

/-- What stands between the line ends of a text. -/
def linesOf (s : String) : List (List Char) := s.toList.splitOn '\n'

/-- The number of line ends in a text. -/
def breaks (s : String) : Nat := s.toList.count '\n'

/-- The number of line ends in several texts. -/
def breaksIn (texts : List String) : Nat := (texts.flatMap String.toList).count '\n'

theorem breaks_append (s t : String) : breaks (s ++ t) = breaks s + breaks t := by
  rw [breaks, String.toList_append, List.count_append]
  rfl

theorem breaksIn_cons (s : String) (texts : List String) :
    breaksIn (s :: texts) = breaks s + breaksIn texts := by
  rw [breaksIn, List.flatMap_cons, List.count_append]
  rfl

theorem breaks_eq_zero_iff {s : String} : breaks s = 0 ↔ '\n' ∉ s.toList := List.count_eq_zero

theorem breaksIn_eq_zero_iff {texts : List String} :
    breaksIn texts = 0 ↔ ∀ s ∈ texts, '\n' ∉ s.toList := by
  rw [breaksIn, List.count_eq_zero, List.mem_flatMap]
  simp

theorem breaks_eq_zero_of_ne {s : String} (each : ∀ c ∈ s.toList, c ≠ '\n') : breaks s = 0 :=
  breaks_eq_zero_iff.mpr fun inside => each '\n' inside rfl

/-! ## Splitting and joining -/

theorem length_splitOn (c : Char) (cs : List Char) : (cs.splitOn c).length = cs.count c + 1 := by
  induction cs with
  | nil => rfl
  | cons first rest ih =>
      rw [List.splitOn_cons_eq_if_modifyHead, List.count_cons]
      split
      · rw [List.length_cons, ih]
      · rw [List.length_modifyHead, ih]

theorem length_linesOf (s : String) : (linesOf s).length = breaks s + 1 :=
  length_splitOn '\n' s.toList

/-- One line end joins two texts. -/
theorem breaks_join {texts : List String} (some : texts ≠ []) :
    breaks ("\n".intercalate texts) + 1 = texts.length + breaksIn texts := by
  induction texts with
  | nil => exact absurd rfl some
  | cons first rest ih =>
      cases rest with
      | nil =>
          rw [String.intercalate_singleton, breaksIn_cons, List.length_singleton, Nat.add_comm]
          rfl
      | cons second others =>
          have later := ih (List.cons_ne_nil _ _)
          have lineEnd : breaks "\n" = 1 := rfl
          rw [String.intercalate_cons_cons, breaks_append, breaks_append, lineEnd, List.length_cons,
            breaksIn_cons]
          omega

theorem length_linesOf_join {texts : List String} (some : texts ≠ []) :
    (linesOf ("\n".intercalate texts)).length = texts.length + breaksIn texts := by
  rw [length_linesOf, breaks_join some]

/-- Texts come back as lines exactly if none has a line end in it. -/
theorem linesOf_join_iff {texts : List String} (some : texts ≠ []) :
    linesOf ("\n".intercalate texts) = texts.map String.toList ↔ breaksIn texts = 0 := by
  constructor
  · intro same
    have lengths := congrArg List.length same
    rw [length_linesOf_join some, List.length_map] at lengths
    omega
  · intro none
    rw [linesOf, String.toList_intercalate]
    apply List.splitOn_intercalate
    · intro cs member
      obtain ⟨s, sMem, rfl⟩ := List.mem_map.mp member
      exact breaksIn_eq_zero_iff.mp none s sMem
    · simpa using some

theorem join_ne_empty {first : String} (some : first ≠ "") (rest : List String) :
    "\n".intercalate (first :: rest) ≠ "" := by
  cases rest with
  | nil => simpa using some
  | cons second others =>
      rw [String.intercalate_cons_cons]
      simp [some]

theorem toList_join (first : String) (rest : List String) :
    ("\n".intercalate (first :: rest)).toList = first.toList ++ rest.flatMap fun s =>
    '\n' :: s.toList := by
  induction rest generalizing first with
  | nil => simp
  | cons second others ih =>
      rw [String.intercalate_cons_cons, String.toList_append, String.toList_append, ih,
        List.flatMap_cons]
      simp

/-- Texts that are joined already may be joined at once. -/
theorem join_joined {α : Type} {first : String} {items : List α} {texts : α → List String}
    (each : ∀ item ∈ items, texts item ≠ []) :
    "\n".intercalate (first :: items.map fun item => "\n".intercalate (texts item)) =
      "\n".intercalate (first :: items.flatMap texts) := by
  rw [← String.toList_inj, toList_join, toList_join, List.flatMap_map, List.flatMap_assoc]
  congr 1
  apply List.flatMap_congr
  intro item itemMem
  cases found : texts item with
  | nil => exact absurd found (each item itemMem)
  | cons head tail => rw [toList_join, List.flatMap_cons, List.cons_append]

/-! ## Literals -/

open Decimal (TakesNumerals)

/-- Numbers are written without line ends. -/
theorem takesNumerals_noBreak : TakesNumerals (· ≠ '\n') where
  digit := @Decimal.forall_digitChar (· ≠ '\n') (by decide) (by decide)
  point := by decide
  minus := by decide
  plus := by decide
  power := by decide

theorem breaks_writeInt (i : Int) : breaks (Decimal.writeInt i) = 0 :=
  breaks_eq_zero_of_ne (TakesNumerals.writeInt takesNumerals_noBreak i)

theorem breaks_write (x : Float) : breaks (Decimal.plain.write x) = 0 :=
  breaks_eq_zero_of_ne (TakesNumerals.write takesNumerals_noBreak (by simp [Decimal.plain])
    (by simp [Decimal.plain]) (by simp [Decimal.plain]) x)

theorem unitEscape_noBreak (unit : Nat) : ∀ c ∈ unitEscape unit, c ≠ '\n' :=
  List.forall_mem_cons.mpr ⟨by decide, List.forall_mem_cons.mpr
    ⟨by decide, TakesNumerals.writeHex takesNumerals_noBreak 4 unit⟩⟩

/-- The escape of a line end has none in it. -/
theorem escapeChar_noBreak {mark : Char} (noBreak : mark ≠ '\n') (c : Char) :
    ∀ escaped ∈ escapeChar mark c, escaped ≠ '\n' := by
  unfold escapeChar
  split
  · rename_i marked
    have notBreak : c ≠ '\n' := by
      rcases marked with rfl | rfl
      · exact noBreak
      · decide
    simp [notBreak]
  · split
    · simp
    · rename_i notBreak
      split
      · simp
      · split
        · simp
        · split
          · simp [notBreak]
          · split
            · exact List.forall_mem_cons.mpr ⟨by decide, List.forall_mem_cons.mpr
                ⟨by decide, TakesNumerals.writeHex takesNumerals_noBreak 2 _⟩⟩
            · split
              · exact unitEscape_noBreak _
              · split
                · exact unitEscape_noBreak _
                · exact List.forall_mem_cons.mpr ⟨by decide, List.forall_mem_cons.mpr
                    ⟨by decide, TakesNumerals.writeHex takesNumerals_noBreak 8 _⟩⟩

theorem breaks_quote (s : String) : breaks (quote s) = 0 := by
  have mark : quoteMark s.toList ≠ '\n' := by
    unfold quoteMark
    split <;> decide
  apply breaks_eq_zero_of_ne
  rw [quote, String.toList_ofList]
  refine List.forall_mem_append.mpr ⟨List.forall_mem_cons.mpr ⟨mark, ?_⟩,
    List.forall_mem_singleton.mpr mark⟩
  intro escaped member
  obtain ⟨c, -, inside⟩ := List.mem_flatMap.mp member
  exact escapeChar_noBreak mark c escaped inside

end Outreach.Text
