import Outreach.Proofs.Json.Reading

/-!
# How deep a text may be nested

Each level of lists and objects that reading enters opens with a bracket or a brace. So a text is
refused for its depth only if more of them open in it than there are levels. Brackets alone, more
than there are levels, are refused so.
-/

namespace Outreach.Json

/-- The text was refused because it is nested too deeply. -/
def Failure.tooDeep (failure : Failure) : Bool :=
  match failure.kind with
  | .nesting _ => true
  | _ => false

/-- How many lists and objects open in a text, the brackets of its strings included. -/
def openings (cs : List Char) : Nat := cs.countP fun c => c = '[' || c = '\x7b'

/-! ## What no depth is involved in -/

section Flat

variable {cs : List Char} {failure : Failure}

theorem readUnicodeEscape_not_tooDeep {letter : List Char}
    (refused : readUnicodeEscape letter cs = .error failure) : failure.tooDeep = false := by
  unfold readUnicodeEscape at refused
  repeat' split at refused
  all_goals cases refused
  all_goals rfl

theorem readString_not_tooDeep {opening : List Char} {fuel : Nat} {done : List Char}
    (refused : readString opening fuel done cs = .error failure) : failure.tooDeep = false := by
  induction fuel generalizing done cs with
  | zero =>
      cases refused
      rfl
  | succ fuel ih =>
      cases cs with
      | nil =>
          cases refused
          rfl
      | cons c rest =>
          unfold readString at refused
          split at refused
          · cases refused
          split at refused
          · cases refused
            rfl
          split at refused
          · split at refused
            · cases refused
              rfl
            · rcases bind_eq_error_iff.mp refused with escape | ⟨_, _, later⟩
              · exact readUnicodeEscape_not_tooDeep escape
              · exact ih later
            · split at refused
              · exact ih refused
              · cases refused
                rfl
          · exact ih refused

theorem readNumber_not_tooDeep (refused : readNumber cs = .error failure) :
    failure.tooDeep = false := by
  simp only [readNumber] at refused
  repeat' split at refused
  all_goals cases refused
  all_goals rfl

theorem readScalar_not_tooDeep (refused : readScalar cs = .error failure) :
    failure.tooDeep = false := by
  rw [readScalar_eq] at refused
  split at refused
  · cases refused
  · exact readNumber_not_tooDeep refused

end Flat

/-! ## What opens -/

theorem openings_append (first later : List Char) :
    openings (first ++ later) = openings first + openings later := List.countP_append

theorem openings_skipBlanks_le (cs : List Char) : openings (skipBlanks cs) ≤ openings cs := by
  obtain ⟨blanks, -, csEq⟩ := exists_skipBlanks cs
  have counted := congrArg openings csEq
  rw [openings_append] at counted
  omega

theorem openings_cons_le (c : Char) (cs : List Char) : openings cs ≤ openings (c :: cs) :=
  (List.sublist_cons_self c cs).countP_le

theorem openings_open {c : Char} (opens : c = '[' ∨ c = '\x7b') (cs : List Char) :
    openings (c :: cs) = openings cs + 1 :=
  List.countP_cons_of_pos (by simpa using opens)

/-- When reading fails so for its depth, more opens than there are levels. -/
def NeedsOpenings {α : Type} (read : Except Failure α) (levels : Nat) (cs : List Char) : Prop :=
  ∀ failure, read = .error failure → failure.tooDeep = true → levels < openings cs

namespace NeedsOpenings

variable {α β : Type} {levels : Nat} {cs cs' : List Char} {read : Except Failure α}

theorem of_ok (a : α) : NeedsOpenings (.ok a) levels cs := by
  intro failure refused
  cases refused

theorem of_failAt {kind : ErrorKind} (flat : ∀ inList, kind ≠ .nesting inList) (place : List Char) :
    NeedsOpenings (failAt kind place : Except Failure α) levels cs := by
  intro failure refused tooDeep
  cases refused
  cases kind with
  | nesting inList => exact absurd rfl (flat inList)
  | _ => cases tooDeep

theorem mono (needs : NeedsOpenings read levels cs) (fewer : openings cs ≤ openings cs') :
    NeedsOpenings read levels cs' :=
  fun failure refused tooDeep => Nat.lt_of_lt_of_le (needs failure refused tooDeep) fewer

/-- Of two readings one after the other, both need the openings. -/
theorem bind {next : α → Except Failure β} (first : NeedsOpenings read levels cs)
    (later : ∀ a, read = .ok a → NeedsOpenings (next a) levels cs) :
    NeedsOpenings (read >>= next) levels cs := by
  intro failure refused tooDeep
  rcases bind_eq_error_iff.mp refused with atFirst | ⟨a, done, atLater⟩
  · exact first failure atFirst tooDeep
  · exact later a done failure atLater tooDeep

end NeedsOpenings

section Steps

variable {fuel levels : Nat}

theorem needsOpenings_readValue
    (items : ∀ levels cs, NeedsOpenings (readItems fuel levels cs) levels cs)
    (entries : ∀ levels done cs, NeedsOpenings (readEntries fuel levels done cs) levels cs)
    (cs : List Char) : NeedsOpenings (readValue (fuel + 1) levels cs) levels cs := by
  unfold readValue
  split
  · exact .of_failAt (by simp) _
  · refine .bind (fun failure refused tooDeep => ?_) fun _ _ => .of_ok _
    rw [readString_not_tooDeep refused] at tooDeep
    cases tooDeep
  · intro failure _ _
    rw [openings_open (.inl rfl)]
    omega
  · rename_i fuel' levels rest noFuel
    cases noFuel
    split
    · exact .of_ok _
    · refine .bind (fun failure refused tooDeep => ?_) fun _ _ => .of_ok _
      have inside := items levels _ failure refused tooDeep
      have skipped := openings_skipBlanks_le rest
      rw [openings_open (.inl rfl)]
      omega
  · intro failure _ _
    rw [openings_open (.inr rfl)]
    omega
  · rename_i fuel' levels rest noFuel
    cases noFuel
    split
    · exact .of_ok _
    · refine .bind (fun failure refused tooDeep => ?_) fun _ _ => .of_ok _
      have inside := entries levels _ _ failure refused tooDeep
      have skipped := openings_skipBlanks_le rest
      rw [openings_open (.inr rfl)]
      omega
  · intro failure refused tooDeep
    rw [readScalar_not_tooDeep refused] at tooDeep
    cases tooDeep

/-- What is left when a value was read has no more openings. -/
theorem openings_le_of_readValue {cs rest : List Char} {v : Value}
    (read : readValue fuel levels cs = .ok (v, rest)) : openings rest ≤ openings cs := by
  obtain ⟨used, rfl, -⟩ := (reads_local fuel).1 read
  rw [openings_append]
  omega

theorem needsOpenings_readItems
    (values : ∀ levels cs, NeedsOpenings (readValue fuel levels cs) levels cs)
    (items : ∀ levels cs, NeedsOpenings (readItems fuel levels cs) levels cs)
    (cs : List Char) : NeedsOpenings (readItems (fuel + 1) levels cs) levels cs := by
  unfold readItems
  refine .bind (values levels cs) fun result read => ?_
  obtain ⟨v, found⟩ := result
  have left := openings_le_of_readValue read
  have skipped := openings_skipBlanks_le found
  simp only
  split
  · exact .of_ok _
  · rename_i after comma
    rw [comma] at skipped
    have behind := openings_cons_le ',' after
    have skippedLater := openings_skipBlanks_le after
    exact .bind ((items levels _).mono (by omega)) fun _ _ => .of_ok _
  · exact .of_failAt (by simp) _

theorem needsOpenings_readEntries
    (values : ∀ levels cs, NeedsOpenings (readValue fuel levels cs) levels cs)
    (entries : ∀ levels done cs, NeedsOpenings (readEntries fuel levels done cs) levels cs)
    (done : Fields) (cs : List Char) :
    NeedsOpenings (readEntries (fuel + 1) levels done cs) levels cs := by
  unfold readEntries
  split
  · exact .of_failAt (by simp) _
  · rename_i fuel' inside noFuel
    cases noFuel
    refine .bind (fun failure refused tooDeep => ?_) fun result nameRead => ?_
    · rw [readString_not_tooDeep refused] at tooDeep
      cases tooDeep
    obtain ⟨name, behindName⟩ := result
    obtain ⟨body, rfl, -⟩ := exists_quoted nameRead
    have name := openings_append ('"' :: body) ('"' :: behindName)
    have quote := openings_cons_le '"' behindName
    have skippedName := openings_skipBlanks_le behindName
    simp only
    split
    · rename_i behindColon colon
      rw [colon] at skippedName
      have behind := openings_cons_le ':' behindColon
      have skippedColon := openings_skipBlanks_le behindColon
      refine .bind ((values _ _).mono (by simp only [List.cons_append] at name; omega))
        fun result read => ?_
      obtain ⟨v, found⟩ := result
      have left := openings_le_of_readValue read
      have skippedValue := openings_skipBlanks_le found
      simp only
      split
      · exact .of_ok _
      · rename_i after comma
        rw [comma] at skippedValue
        have behindComma := openings_cons_le ',' after
        have skippedLater := openings_skipBlanks_le after
        exact (entries _ _ _).mono (by simp only [List.cons_append] at name; omega)
      · exact .of_failAt (by simp) _
    · exact .of_failAt (by simp) _
  · exact .of_failAt (by simp) _

/-- Only openings are refused for their depth, with any fuel. -/
theorem needsOpenings (fuel : Nat) :
    (∀ levels cs, NeedsOpenings (readValue fuel levels cs) levels cs) ∧
      (∀ levels cs, NeedsOpenings (readItems fuel levels cs) levels cs) ∧
      ∀ levels done cs, NeedsOpenings (readEntries fuel levels done cs) levels cs := by
  induction fuel with
  | zero =>
      refine ⟨fun levels cs => ?_, fun levels cs => ?_, fun levels done cs => ?_⟩
      · rw [readValue]
        exact .of_failAt (by simp) _
      · rw [readItems]
        exact .of_failAt (by simp) _
      · rw [readEntries]
        exact .of_failAt (by simp) _
  | succ fuel ih =>
      obtain ⟨values, items, entries⟩ := ih
      exact ⟨fun _ => needsOpenings_readValue items entries, fun _ =>
        needsOpenings_readItems values items,
        fun _ => needsOpenings_readEntries values entries⟩

end Steps

/-- A text that is refused for its depth has more openings than there may be levels. -/
theorem levels_lt_openings {levels : Nat} {cs : List Char} {failure : Failure}
    (refused : readMarked levels cs = .error failure) (tooDeep : failure.tooDeep = true) :
    levels < openings cs := by
  have skipped := openings_skipBlanks_le cs
  have needs : NeedsOpenings (readNested levels cs) levels cs := by
    refine .bind (((needsOpenings _).1 levels _).mono skipped) fun (v, rest) _ => ?_
    simp only
    split
    · exact .of_ok _
    · exact .of_failAt (by simp) _
  unfold readMarked at refused
  split at refused
  · cases refused
    cases tooDeep
  · exact needs failure refused tooDeep

/-- More opening brackets than levels are refused for their depth. -/
theorem readValue_brackets {fuel levels : Nat} (rest : List Char) (enough : 2 * levels < fuel) :
    readValue fuel levels (List.replicate (levels + 1) '[' ++ rest) =
      failAt (.nesting true) ('[' :: rest) := by
  induction levels generalizing fuel with
  | zero =>
      obtain ⟨fuel, rfl⟩ := Nat.exists_eq_add_one.mpr enough
      rfl
  | succ levels ih =>
      obtain ⟨fuel, rfl⟩ := Nat.exists_eq_add_of_le' (show 2 ≤ fuel by omega)
      have deeper : readValue fuel levels ('[' :: (List.replicate levels '[' ++ rest)) =
          failAt (.nesting true) ('[' :: rest) := ih (by omega)
      have solid : skipBlanks ('[' :: (List.replicate levels '[' ++ rest)) =
          '[' :: (List.replicate levels '[' ++ rest) := rfl
      have goesOn : ∀ after, skipBlanks ('[' :: (List.replicate levels '[' ++ rest)) ≠
          ']' :: after := by
        intro after same
        exact absurd (List.cons.inj same).1 (by decide)
      rw [List.replicate_succ, List.replicate_succ]
      simp only [List.cons_append]
      rw [readValue_items goesOn, solid, readItems, deeper]
      rfl

end Outreach.Json
