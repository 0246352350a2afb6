import Outreach.Proofs.Json.Scalars

/-!
# How far a value reaches

Reading a value takes some characters from the front of a text and leaves the rest. What it takes is
read the same way whatever can come after a value; so a value may be cut out of one text and put
into another, with any blanks around it. Reading is refused for its depth only if there are more
opening brackets than levels.
-/

namespace Outreach.Json

/-! ## Values -/

theorem blank_plain {c : Char} (blank : isJsonBlank c = true) : c ≠ graveAccent := by
  rintro rfl
  cases blank

/-- Blanks in front are skipped. -/
theorem exists_skipBlanks (cs : List Char) :
    ∃ blanks, (∀ c ∈ blanks, isJsonBlank c = true) ∧ cs = blanks ++ skipBlanks cs :=
  ⟨cs.takeWhile isJsonBlank, fun _ cMem => List.mem_takeWhile_imp cMem,
    List.takeWhile_append_dropWhile.symm⟩

theorem skipBlanks_append {blanks : List Char} (blank : ∀ c ∈ blanks, isJsonBlank c = true)
    {c : Char} (solid : isJsonBlank c = false) (rest : List Char) :
    skipBlanks (blanks ++ c :: rest) = c :: rest := by
  rw [skipBlanks, List.dropWhile_append_of_pos blank, List.dropWhile_cons_of_neg (by simp [solid])]

/-- Blanks and what ends an item can follow a value. -/
theorem ends_append {blanks : List Char} (blank : ∀ c ∈ blanks, isJsonBlank c = true) {c : Char}
    (ends : isEnd c = true) (rest : List Char) : Ends (blanks ++ c :: rest) := by
  cases blanks with
  | nil => simpa [Ends] using ends
  | cons b tail => simp [Ends, isEnd, blank b List.mem_cons_self]

section Reads

variable (levels : Nat) (used : List Char)

/-- Reading takes these characters for a value, whatever follows that can follow a value. -/
structure TakesValue (v : Value) : Prop where
  spelled : Spelled used
  reads : ∀ fuel rest, 2 * used.length ≤ fuel → Ends rest →
    readValue fuel levels (used ++ rest) = .ok (v, rest)
  closed : ∀ items, v = .list items → ∃ inner, used = '[' :: (inner ++ [']'])

/-- Reading takes these characters for the items of a list up to its end. -/
structure TakesItems (items : List Value) : Prop where
  spelled : Spelled used
  reads : ∀ fuel rest, 2 * used.length ≤ fuel →
    readItems fuel levels (used ++ rest) = .ok (items, rest)
  closed : ∃ inner, used = inner ++ [']']

/-- Reading takes these characters for the entries of an object up to its end. -/
structure TakesEntries (done fields : Fields) : Prop where
  woven : Woven used
  starts : ∃ tail, used = '"' :: tail
  reads : ∀ fuel rest, 2 * used.length ≤ fuel →
    readEntries fuel levels done (used ++ rest) = .ok (fields, rest)

end Reads

/-- What is read as a value with some fuel is taken for it. -/
def ValuesLocal (fuel : Nat) : Prop := ∀ {levels : Nat} {cs rest : List Char} {v : Value},
  readValue fuel levels cs = .ok (v, rest) → ∃ used, cs = used ++ rest ∧ TakesValue levels used v

/-- What is read as items with some fuel is taken for them. -/
def ItemsLocal (fuel : Nat) : Prop := ∀ {levels : Nat} {cs rest : List Char} {items : List Value},
  readItems fuel levels cs = .ok (items, rest) → ∃ used, cs = used ++ rest ∧
  TakesItems levels used items

/-- What is read as entries with some fuel is taken for them. -/
def EntriesLocal (fuel : Nat) : Prop :=
  ∀ {levels : Nat} {done fields : Fields} {cs rest : List Char},
  readEntries fuel levels done cs = .ok (fields, rest) →
    ∃ used, cs = used ++ rest ∧ TakesEntries levels used done fields

section Equations

attribute [local simp] readValue readItems readEntries

variable {fuel levels : Nat} {rest after : List Char}

theorem readValue_quote : readValue (fuel + 1) levels ('"' :: rest) =
    (readString ('"' :: rest) (rest.length + 1) [] rest >>= fun (s, rest) =>
      .ok (.text s, rest)) := by
  cases levels <;> rfl

theorem readValue_emptyList (closes : skipBlanks rest = ']' :: after) :
    readValue (fuel + 1) (levels + 1) ('[' :: rest) = .ok (.list [], after) := by
  simp [closes]

theorem readValue_items (goesOn : ∀ after, skipBlanks rest ≠ ']' :: after) :
    readValue (fuel + 1) (levels + 1) ('[' :: rest) =
      (readItems fuel levels (skipBlanks rest) >>= fun (items, rest) =>
        .ok (.list items, rest)) := by
  rw [readValue]
  split
  · exact absurd ‹_› (goesOn _)
  · rfl

theorem readValue_emptyObject (closes : skipBlanks rest = '\x7d' :: after) :
    readValue (fuel + 1) (levels + 1) ('\x7b' :: rest) = .ok (.map [], after) := by
  simp [closes]

theorem readValue_entries (goesOn : ∀ after, skipBlanks rest ≠ '\x7d' :: after) :
    readValue (fuel + 1) (levels + 1) ('\x7b' :: rest) =
      (readEntries fuel levels [] (skipBlanks rest) >>= fun (fields, rest) =>
        .ok (.map fields, rest)) := by
  rw [readValue]
  split
  · exact absurd ‹_› (goesOn _)
  · rfl

section Items

variable {cs : List Char} {v : Value} (item : readValue fuel levels cs = .ok (v, rest))
include item

theorem readItems_last (closes : skipBlanks rest = ']' :: after) :
    readItems (fuel + 1) levels cs = .ok ([v], after) := by
  simp [item, bind, Except.bind, closes]

theorem readItems_more (goesOn : skipBlanks rest = ',' :: after) :
    readItems (fuel + 1) levels cs =
      (readItems fuel levels (skipBlanks after) >>= fun (items, rest) =>
        .ok (v :: items, rest)) := by
  simp [item, bind, Except.bind, goesOn]

end Items

section Entries

variable {done : Fields} {name : String} {cs behindName behindColon : List Char} {v : Value}
  (nameRead : readString ('"' :: cs) (cs.length + 1) [] cs = .ok (name, behindName))
  (colon : skipBlanks behindName = ':' :: behindColon)
  (value : readValue fuel levels (skipBlanks behindColon) = .ok (v, rest))
include nameRead colon value

theorem readEntries_last (closes : skipBlanks rest = '\x7d' :: after) :
    readEntries (fuel + 1) levels done ('"' :: cs) = .ok (Keyed.put name v done, after) := by
  simp [nameRead, bind, Except.bind, colon, value, closes]

theorem readEntries_more (goesOn : skipBlanks rest = ',' :: after) :
    readEntries (fuel + 1) levels done ('"' :: cs) =
      readEntries fuel levels (Keyed.put name v done) (skipBlanks after) := by
  simp [nameRead, bind, Except.bind, colon, value, goesOn]

end Entries

theorem readValue_scalar {c : Char} (notQuote : c ≠ '"') (notList : c ≠ '[')
    (notObject : c ≠ '\x7b') :
    readValue (fuel + 1) levels (c :: rest) = readScalar (c :: rest) := by
  unfold readValue
  split
  · rename_i noFuel
    cases noFuel
  · rename_i same
    exact absurd (List.cons.inj same).1 notQuote
  · rename_i same
    exact absurd (List.cons.inj same).1 notList
  · rename_i same
    exact absurd (List.cons.inj same).1 notList
  · rename_i same
    exact absurd (List.cons.inj same).1 notObject
  · rename_i same
    exact absurd (List.cons.inj same).1 notObject
  · rfl

end Equations

/-- Without a line break, and read as a string when a quote follows. -/
structure Quoted (body : List Char) (s : String) : Prop where
  noBreak : '\n' ∉ body
  reads : ∀ opening fuel rest, body.length < fuel →
    readString opening fuel [] (body ++ '"' :: rest) = .ok (s, rest)

theorem exists_quoted {opening cs rest : List Char} {fuel : Nat} {s : String}
    (read : readString opening fuel [] cs = .ok (s, rest)) :
    ∃ body, cs = body ++ '"' :: rest ∧ Quoted body s := by
  obtain ⟨body, csEq, noBreak, reads⟩ := readString_eq_ok read
  exact ⟨body, csEq, noBreak, reads⟩

/-- A string takes its characters and both quotes. -/
theorem Quoted.takesValue {levels : Nat} {body : List Char} {s : String} (quoted : Quoted body s) :
    TakesValue levels ('"' :: (body ++ ['"'])) (.text s) where
  spelled := ⟨⟨'"', _, rfl, by decide, by decide⟩, .string quoted.noBreak .nil⟩
  reads := by
    intro fuel rest enough _
    obtain ⟨fuel, rfl⟩ := Nat.exists_eq_add_one.mpr (Nat.lt_of_lt_of_le (by simp) enough)
    have again :=
      quoted.reads ('"' :: (body ++ '"' :: rest)) ((body ++ '"' :: rest).length + 1) rest
      (by simp only [List.length_append]; omega)
    simp only [List.cons_append, List.append_assoc, List.nil_append, readValue_quote, again]
    rfl
  closed := by simp

theorem woven_blanks {blanks : List Char} (blank : ∀ c ∈ blanks, isJsonBlank c = true) :
    Woven blanks :=
  woven_of_plain fun accent => blank_plain (blank _ accent) rfl

/-- A list without items takes its brackets and the blanks between them. -/
theorem takesValue_emptyList {levels : Nat} {blanks : List Char}
    (blank : ∀ c ∈ blanks, isJsonBlank c = true) :
    TakesValue (levels + 1) ('[' :: (blanks ++ [']'])) (.list []) where
  spelled := ⟨⟨'[', _, rfl, by decide, by decide⟩,
    .outside (by decide) ((woven_blanks blank).append (woven_of_plain (by decide)))⟩
  reads := by
    intro fuel rest enough _
    obtain ⟨fuel, rfl⟩ := Nat.exists_eq_add_one.mpr (Nat.lt_of_lt_of_le (by simp) enough)
    simp only [List.cons_append, List.append_assoc]
    exact readValue_emptyList (skipBlanks_append blank (by decide) rest)
  closed := fun _ _ => ⟨blanks, rfl⟩

/-- A list takes its opening bracket, blanks, and what its items take. -/
theorem TakesItems.list {levels : Nat} {used blanks : List Char} {items : List Value}
    (blank : ∀ c ∈ blanks, isJsonBlank c = true) (takes : TakesItems levels used items) :
    TakesValue (levels + 1) ('[' :: (blanks ++ used)) (.list items) where
  spelled := ⟨⟨'[', _, rfl, by decide, by decide⟩,
    .outside (by decide) ((woven_blanks blank).append takes.spelled.woven)⟩
  reads := by
    intro fuel rest enough _
    simp only [List.length_cons, List.length_append] at enough
    obtain ⟨fuel, rfl⟩ := Nat.exists_eq_add_one.mpr (Nat.lt_of_lt_of_le (by simp) enough)
    obtain ⟨c, tail, usedEq, solid, notEnd⟩ := takes.spelled.starts
    have skipped : skipBlanks (blanks ++ (used ++ rest)) = used ++ rest := by
      rw [usedEq]
      exact skipBlanks_append blank solid _
    have goesOn : ∀ after, skipBlanks (blanks ++ (used ++ rest)) ≠ ']' :: after := by
      intro after same
      rw [skipped, usedEq] at same
      exact notEnd (List.cons.inj same).1
    simp only [List.cons_append, List.append_assoc]
    rw [readValue_items goesOn, skipped, takes.reads fuel rest (by omega)]
    rfl
  closed := by
    obtain ⟨inner, rfl⟩ := takes.closed
    exact fun _ _ => ⟨blanks ++ inner, by simp⟩

/-- An object without entries takes its braces and the blanks between them. -/
theorem takesValue_emptyObject {levels : Nat} {blanks : List Char}
    (blank : ∀ c ∈ blanks, isJsonBlank c = true) :
    TakesValue (levels + 1) ('\x7b' :: (blanks ++ ['\x7d'])) (.map []) where
  spelled := ⟨⟨'\x7b', _, rfl, by decide, by decide⟩,
    .outside (by decide) ((woven_blanks blank).append (woven_of_plain (by decide)))⟩
  reads := by
    intro fuel rest enough _
    obtain ⟨fuel, rfl⟩ := Nat.exists_eq_add_one.mpr (Nat.lt_of_lt_of_le (by simp) enough)
    simp only [List.cons_append, List.append_assoc]
    exact readValue_emptyObject (skipBlanks_append blank (by decide) rest)
  closed := by simp

/-- An object takes its opening brace, blanks, and what its entries take. -/
theorem TakesEntries.object {levels : Nat} {used blanks : List Char} {fields : Fields}
    (blank : ∀ c ∈ blanks, isJsonBlank c = true) (takes : TakesEntries levels used [] fields) :
    TakesValue (levels + 1) ('\x7b' :: (blanks ++ used)) (.map fields) where
  spelled := ⟨⟨'\x7b', _, rfl, by decide, by decide⟩,
    .outside (by decide) ((woven_blanks blank).append takes.woven)⟩
  reads := by
    intro fuel rest enough _
    simp only [List.length_cons, List.length_append] at enough
    obtain ⟨fuel, rfl⟩ := Nat.exists_eq_add_one.mpr (Nat.lt_of_lt_of_le (by simp) enough)
    obtain ⟨tail, usedEq⟩ := takes.starts
    have skipped : skipBlanks (blanks ++ (used ++ rest)) = used ++ rest := by
      rw [usedEq]
      exact skipBlanks_append blank (by decide) _
    have goesOn : ∀ after, skipBlanks (blanks ++ (used ++ rest)) ≠ '\x7d' :: after := by
      intro after same
      rw [skipped, usedEq] at same
      exact absurd (List.cons.inj same).1 (by decide)
    simp only [List.cons_append, List.append_assoc]
    rw [readValue_entries goesOn, skipped, takes.reads fuel rest (by omega)]
    rfl
  closed := by simp

theorem readValue_step {fuel : Nat} (items : ItemsLocal fuel) (entries : EntriesLocal fuel) :
    ValuesLocal (fuel + 1) := by
  intro levels cs rest v read
  unfold readValue at read
  split at read
  · cases read
  · rename_i fuel' cs' noFuel
    cases noFuel
    obtain ⟨⟨s, found⟩, string, result⟩ := bind_eq_ok_iff.mp read
    cases result
    obtain ⟨body, rfl, quoted⟩ := exists_quoted string
    exact ⟨_, by simp, quoted.takesValue⟩
  · cases read
  · rename_i fuel' levels inside noFuel
    cases noFuel
    obtain ⟨blanks, blank, insideEq⟩ := exists_skipBlanks inside
    rw [insideEq]
    split at read
    · rename_i after closes
      cases read
      exact ⟨_, by simp [closes], takesValue_emptyList blank⟩
    · obtain ⟨⟨values, found⟩, readItems, result⟩ := bind_eq_ok_iff.mp read
      cases result
      obtain ⟨used, split, takes⟩ := items readItems
      exact ⟨_, by simp [split], takes.list blank⟩
  · cases read
  · rename_i fuel' levels inside noFuel
    cases noFuel
    obtain ⟨blanks, blank, insideEq⟩ := exists_skipBlanks inside
    rw [insideEq]
    split at read
    · rename_i after closes
      cases read
      exact ⟨_, by simp [closes], takesValue_emptyObject blank⟩
    · obtain ⟨⟨fields, found⟩, readEntries, result⟩ := bind_eq_ok_iff.mp read
      cases result
      obtain ⟨used, split, takes⟩ := entries readEntries
      exact ⟨_, by simp [split], takes.object blank⟩
  · rename_i levels _ _ _ _ _ _ noQuote noListEnd noList noObjectEnd noObject
    obtain ⟨used, rfl, spelled, notList, reads⟩ := readScalar_local read
    refine ⟨used, rfl, spelled, ?_, fun items same => absurd same (notList items)⟩
    obtain ⟨c, tail, rfl, -, -⟩ := spelled.starts
    intro fuel' rest' enough ends
    obtain ⟨fuel', rfl⟩ := Nat.exists_eq_add_one.mpr (Nat.lt_of_lt_of_le (by simp) enough)
    have notQuote : c ≠ '"' := fun same => noQuote _ (congrArg (· :: (tail ++ rest)) same)
    have notList : c ≠ '[' := by
      intro same
      cases levels with
      | zero => exact noListEnd _ rfl (congrArg (· :: (tail ++ rest)) same)
      | succ levels => exact noList _ _ rfl (congrArg (· :: (tail ++ rest)) same)
    have notObject : c ≠ '\x7b' := by
      intro same
      cases levels with
      | zero => exact noObjectEnd _ rfl (congrArg (· :: (tail ++ rest)) same)
      | succ levels => exact noObject _ _ rfl (congrArg (· :: (tail ++ rest)) same)
    exact (readValue_scalar notQuote notList notObject).trans (reads rest' ends)

section Items

variable {levels : Nat} {used blanks : List Char} {v : Value}
  (takes : TakesValue levels used v) (blank : ∀ c ∈ blanks, isJsonBlank c = true)
include takes blank

omit blank in
/-- What comes after the value of an item leaves its first character in front. -/
theorem TakesValue.starts (later : List Char) : ∃ c tail, used ++ (blanks ++ later) = c :: tail ∧
    isJsonBlank c = false ∧ c ≠ ']' := by
  obtain ⟨c, tail, rfl, solid, notEnd⟩ := takes.spelled.starts
  exact ⟨c, _, rfl, solid, notEnd⟩

/-- The last item takes its value, blanks, and the closing bracket. -/
theorem TakesValue.lastItem : TakesItems levels (used ++ (blanks ++ [']'])) [v] where
  spelled := ⟨takes.starts _,
    takes.spelled.woven.append ((woven_blanks blank).append (woven_of_plain (by decide)))⟩
  reads := by
    intro fuel rest enough
    simp only [List.length_append, List.length_singleton] at enough
    obtain ⟨fuel, rfl⟩ := Nat.exists_eq_add_one.mpr (Nat.lt_of_lt_of_le (by omega) enough)
    have value :=
      takes.reads fuel (blanks ++ ']' :: rest) (by omega) (ends_append blank (by decide) rest)
    simp only [List.append_assoc, List.cons_append, List.nil_append]
    exact readItems_last value (skipBlanks_append blank (by decide) rest)
  closed := ⟨used ++ blanks, by simp⟩

/-- Any other item takes its value, blanks around a comma, and what the later items take. -/
theorem TakesValue.moreItems {blanksLater usedLater : List Char} {items : List Value}
    (blankLater : ∀ c ∈ blanksLater, isJsonBlank c = true)
    (later : TakesItems levels usedLater items) :
    TakesItems levels (used ++ (blanks ++ ',' :: (blanksLater ++ usedLater))) (v :: items) where
  spelled := ⟨takes.starts _, takes.spelled.woven.append ((woven_blanks blank).append
    (.outside (by decide) ((woven_blanks blankLater).append later.spelled.woven)))⟩
  reads := by
    intro fuel rest enough
    simp only [List.length_append, List.length_cons] at enough
    obtain ⟨fuel, rfl⟩ := Nat.exists_eq_add_one.mpr (Nat.lt_of_lt_of_le (by omega) enough)
    have value :=
      takes.reads fuel (blanks ++ ',' :: (blanksLater ++ (usedLater ++ rest))) (by omega)
      (ends_append blank (by decide) _)
    have skipped : skipBlanks (blanksLater ++ (usedLater ++ rest)) = usedLater ++ rest := by
      obtain ⟨c, tail, rfl, solid, -⟩ := later.spelled.starts
      exact skipBlanks_append blankLater solid _
    simp only [List.append_assoc, List.cons_append]
    rw [readItems_more value (skipBlanks_append blank (by decide) _), skipped,
      later.reads fuel rest (by omega)]
    rfl
  closed := by
    obtain ⟨inner, rfl⟩ := later.closed
    exact ⟨used ++ (blanks ++ ',' :: (blanksLater ++ inner)), by simp⟩

end Items

theorem readItems_step {fuel : Nat} (values : ValuesLocal fuel) (items : ItemsLocal fuel) :
    ItemsLocal (fuel + 1) := by
  intro levels cs rest result read
  unfold readItems at read
  obtain ⟨⟨v, found⟩, value, goesOn⟩ := bind_eq_ok_iff.mp read
  obtain ⟨used, rfl, takes⟩ := values value
  obtain ⟨blanks, blank, foundEq⟩ := exists_skipBlanks found
  simp only at goesOn
  split at goesOn
  · rename_i after closes
    cases goesOn
    rw [closes] at foundEq
    exact ⟨_, by simp [foundEq], takes.lastItem blank⟩
  · rename_i after comma
    obtain ⟨⟨values, last⟩, more, same⟩ := bind_eq_ok_iff.mp goesOn
    cases same
    obtain ⟨usedLater, afterEq, takesLater⟩ := items more
    obtain ⟨blanksLater, blankLater, afterBlanks⟩ := exists_skipBlanks after
    rw [comma, afterBlanks, afterEq] at foundEq
    exact ⟨_, by simp [foundEq], takes.moreItems blank blankLater takesLater⟩
  · cases goesOn

section Entries

variable {levels : Nat} {body blanksName blanksColon used blanks : List Char}
    {name : String} {v : Value}
  (quoted : Quoted body name) (blankName : ∀ c ∈ blanksName, isJsonBlank c = true)
  (blankColon : ∀ c ∈ blanksColon, isJsonBlank c = true)

/-- An entry up to the end of its value, and what comes later. -/
def entryChars (body blanksName blanksColon used later : List Char) : List Char :=
  '"' :: (body ++ '"' :: (blanksName ++ ':' :: (blanksColon ++ (used ++ later))))

theorem entryChars_append (later rest : List Char) :
    entryChars body blanksName blanksColon used later ++ rest =
    entryChars body blanksName blanksColon used (later ++ rest) := by
  simp [entryChars]

theorem length_entryChars (later : List Char) :
    (entryChars body blanksName blanksColon used later).length =
      body.length + blanksName.length + blanksColon.length + used.length + later.length + 3 := by
  simp only [entryChars, List.length_cons, List.length_append]
  omega

include quoted blankName blankColon

theorem woven_entryChars {later : List Char} (takes : TakesValue levels used v)
    (woven : Woven later) :
    Woven (entryChars body blanksName blanksColon used later) :=
  .string quoted.noBreak ((woven_blanks blankName).append
    (.outside (by decide) ((woven_blanks blankColon).append (takes.spelled.woven.append woven))))

variable (takes : TakesValue levels used v) (blank : ∀ c ∈ blanks, isJsonBlank c = true)
include takes blank

/-- The last entry takes its name, a colon, its value, and the closing brace. -/
theorem Quoted.lastEntry (done : Fields) :
    TakesEntries levels (entryChars body blanksName blanksColon used (blanks ++ ['\x7d'])) done
      (Keyed.put name v done) where
  woven := woven_entryChars quoted blankName blankColon takes
    ((woven_blanks blank).append (woven_of_plain (by decide)))
  starts := ⟨_, rfl⟩
  reads := by
    intro fuel rest enough
    rw [length_entryChars] at enough
    obtain ⟨fuel, rfl⟩ := Nat.exists_eq_add_one.mpr (Nat.lt_of_lt_of_le (by omega) enough)
    have value :=
      takes.reads fuel (blanks ++ '\x7d' :: rest) (by omega) (ends_append blank (by decide) rest)
    obtain ⟨c, tail, usedEq, solid, -⟩ := takes.spelled.starts
    have skipped : skipBlanks (blanksColon ++ (used ++ (blanks ++ '\x7d' :: rest))) =
        used ++ (blanks ++ '\x7d' :: rest) := by
      rw [usedEq]
      exact skipBlanks_append blankColon solid _
    rw [entryChars_append, List.append_assoc, List.cons_append, List.nil_append]
    exact readEntries_last (quoted.reads _ _ _ (by simp only [List.length_append]; omega))
      (skipBlanks_append blankName (by decide) _) (by rw [skipped]; exact value)
      (skipBlanks_append blank (by decide) rest)

/-- Any other entry takes its name, a colon, its value, blanks around a comma, and what the later
entries take. -/
theorem Quoted.moreEntries {blanksLater usedLater : List Char} {done fields : Fields}
    (blankLater : ∀ c ∈ blanksLater, isJsonBlank c = true)
    (later : TakesEntries levels usedLater (Keyed.put name v done) fields) :
    TakesEntries levels
      (entryChars body blanksName blanksColon used
        (blanks ++ ',' :: (blanksLater ++ usedLater))) done
      fields where
  woven := woven_entryChars quoted blankName blankColon takes ((woven_blanks blank).append
    (.outside (by decide) ((woven_blanks blankLater).append later.woven)))
  starts := ⟨_, rfl⟩
  reads := by
    intro fuel rest enough
    simp only [length_entryChars, List.length_append, List.length_cons] at enough
    obtain ⟨fuel, rfl⟩ := Nat.exists_eq_add_one.mpr (Nat.lt_of_lt_of_le (by omega) enough)
    have value :=
      takes.reads fuel (blanks ++ ',' :: (blanksLater ++ (usedLater ++ rest))) (by omega)
      (ends_append blank (by decide) _)
    obtain ⟨c, tail, usedEq, solid, -⟩ := takes.spelled.starts
    have skipped : skipBlanks
        (blanksColon ++ (used ++ (blanks ++ ',' :: (blanksLater ++ (usedLater ++ rest)))))
        = used ++ (blanks ++ ',' :: (blanksLater ++ (usedLater ++ rest))) := by
      rw [usedEq]
      exact skipBlanks_append blankColon solid _
    have skippedLater : skipBlanks (blanksLater ++ (usedLater ++ rest)) = usedLater ++ rest := by
      obtain ⟨tail, rfl⟩ := later.starts
      exact skipBlanks_append blankLater (by decide) _
    simp only [entryChars_append, List.append_assoc, List.cons_append]
    rw [entryChars, readEntries_more (quoted.reads _ _ _ (by simp only [List.length_append]; omega))
      (skipBlanks_append blankName (by decide) _) (by rw [skipped]; exact value)
      (skipBlanks_append blank (by decide) _), skippedLater]
    exact later.reads fuel rest (by omega)

end Entries

theorem readEntries_step {fuel : Nat} (values : ValuesLocal fuel) (entries : EntriesLocal fuel) :
    EntriesLocal (fuel + 1) := by
  intro levels done fields cs rest read
  unfold readEntries at read
  split at read
  · cases read
  · rename_i fuel' inside noFuel
    cases noFuel
    obtain ⟨⟨name, behindName⟩, nameRead, goesOn⟩ := bind_eq_ok_iff.mp read
    obtain ⟨body, rfl, quoted⟩ := exists_quoted nameRead
    obtain ⟨blanksName, blankName, nameEq⟩ := exists_skipBlanks behindName
    simp only at goesOn
    split at goesOn
    · rename_i behindColon colon
      obtain ⟨⟨v, found⟩, value, goesOn⟩ := bind_eq_ok_iff.mp goesOn
      obtain ⟨used, usedEq, takes⟩ := values value
      obtain ⟨blanksColon, blankColon, colonEq⟩ := exists_skipBlanks behindColon
      obtain ⟨blanks, blank, foundEq⟩ := exists_skipBlanks found
      rw [colon, colonEq, usedEq] at nameEq
      simp only at goesOn
      split at goesOn
      · rename_i after closes
        cases goesOn
        rw [closes] at foundEq
        refine ⟨_, ?_, quoted.lastEntry blankName blankColon takes blank _⟩
        simp [entryChars, nameEq, foundEq]
      · rename_i after comma
        obtain ⟨usedLater, afterEq, later⟩ := entries goesOn
        obtain ⟨blanksLater, blankLater, afterBlanks⟩ := exists_skipBlanks after
        rw [comma, afterBlanks, afterEq] at foundEq
        refine ⟨_, ?_, quoted.moreEntries blankName blankColon takes blank blankLater later⟩
        simp [entryChars, nameEq, foundEq]
      · cases goesOn
    · cases goesOn
  · cases read

/-- What is read with any fuel is taken for it. -/
theorem reads_local (fuel : Nat) : ValuesLocal fuel ∧ ItemsLocal fuel ∧ EntriesLocal fuel := by
  induction fuel with
  | zero =>
      refine ⟨fun read => ?_, fun read => ?_, fun read => ?_⟩
      · rw [readValue] at read
        cases read
      · rw [readItems] at read
        cases read
      · rw [readEntries] at read
        cases read
  | succ fuel ih =>
      obtain ⟨values, items, entries⟩ := ih
      exact ⟨readValue_step items entries, readItems_step values items,
        readEntries_step values entries⟩

/-! ## Texts of lists -/

/-- A text in brackets that is read as a list with any blanks around it. -/
structure ListText (levels : Nat) (core : List Char) (items : List Value) : Prop where
  bracketed : ∃ inner, core = '[' :: (inner ++ [']'])
  woven : Woven core
  reads : ∀ before after, (∀ c ∈ before, isJsonBlank c = true) →
    (∀ c ∈ after, isJsonBlank c = true) →
    readMarked levels (before ++ (core ++ after)) = .ok (.list items)

theorem skipBlanks_eq_nil {cs : List Char} :
    skipBlanks cs = [] ↔ ∀ c ∈ cs, isJsonBlank c = true := by
  rw [skipBlanks, List.dropWhile_eq_nil_iff]

theorem ends_of_blank {cs : List Char} (blank : ∀ c ∈ cs, isJsonBlank c = true) : Ends cs := by
  intro c cMem
  simp [isEnd, blank c (List.mem_of_mem_head? cMem)]

/-- Only a byte order mark makes a difference. -/
theorem readMarked_eq_readNested {levels : Nat} {cs : List Char}
    (unmarked : ∀ c ∈ cs.head?, c ≠ '\ufeff') :
    readMarked levels cs = readNested levels cs := by
  unfold readMarked
  split
  · exact absurd rfl (unmarked _ rfl)
  · rfl

/-- What takes a list is the text of a list. -/
theorem TakesValue.listText {levels : Nat} {core : List Char} {items : List Value}
    (takes : TakesValue levels core (.list items)) : ListText levels core items where
  bracketed := takes.closed items rfl
  woven := takes.spelled.woven
  reads := by
    intro before after blankBefore blankAfter
    obtain ⟨c, tail, coreEq, solid, -⟩ := takes.spelled.starts
    have unmarked : ∀ c ∈ (before ++ (core ++ after)).head?, c ≠ '\ufeff' := by
      obtain ⟨inner, rfl⟩ := takes.closed items rfl
      refine forall_mem_head?_append (fun c cMem => ?_) (fun c cMem => ?_)
      · rintro rfl
        cases blankBefore _ (List.mem_of_mem_head? cMem)
      · cases cMem
        decide
    have skipped : skipBlanks (before ++ (core ++ after)) = core ++ after := by
      rw [coreEq]
      exact skipBlanks_append blankBefore solid _
    rw [readMarked_eq_readNested unmarked, readNested, skipped, takes.reads _ after
      (by simp only [List.length_append]; omega) (ends_of_blank blankAfter)]
    simp [bind, Except.bind, skipBlanks_eq_nil.mpr blankAfter]

/-- What is read as a list is the text of a list between blanks. -/
theorem exists_listText {levels : Nat} {cs : List Char} {items : List Value}
    (read : readMarked levels cs = .ok (.list items)) :
    ∃ before core after, cs = before ++ (core ++ after) ∧ (∀ c ∈ before, isJsonBlank c = true) ∧
      (∀ c ∈ after, isJsonBlank c = true) ∧ ListText levels core items := by
  obtain ⟨before, blankBefore, csEq⟩ := exists_skipBlanks cs
  unfold readMarked at read
  split at read
  · cases read
  · unfold readNested at read
    obtain ⟨⟨v, after⟩, value, goesOn⟩ := bind_eq_ok_iff.mp read
    simp only at goesOn
    split at goesOn
    · rename_i atEnd
      cases goesOn
      obtain ⟨core, startEq, takes⟩ := (reads_local _).1 value
      rw [startEq] at csEq
      exact ⟨before, core, after, csEq, blankBefore, skipBlanks_eq_nil.mp atEnd, takes.listText⟩
    · cases goesOn

end Outreach.Json
