import Mathlib.Data.List.TakeDrop
import Mathlib.Data.List.TakeWhile
import Outreach.Json.Reader
import Outreach.Proofs.Outcome

/-!
# Strings, numbers and words

Reading a string, a number or a word takes some characters from the front of a text and leaves the
rest. What it takes is read the same way whatever comes after it, as long as a number is not run
into what follows. The characters it takes are also written in a certain way: a string contains no
line break, and outside of strings there is no grave accent.
-/

namespace Outreach.Json

/-! ## Strings -/

/-- Four hexadecimal digits that are read as a number when something follows them. -/
structure IsHex (digits : List Char) (unit : Nat) : Prop where
  length : digits.length = 4
  hex : ∀ c ∈ digits, (Text.hexDigit? c).isSome = true
  reads : ∀ after, after ≠ [] → takeHex? (digits ++ after) = some (unit, after)

theorem takeHex?_eq_some {cs rest : List Char} {unit : Nat}
    (taken : takeHex? cs = some (unit, rest)) :
    ∃ digits, cs = digits ++ rest ∧ rest ≠ [] ∧ IsHex digits unit := by
  match cs, taken with
  | a :: b :: c :: d :: next :: after, taken =>
    simp only [takeHex?, Option.bind_eq_bind, Option.bind_eq_some_iff] at taken
    obtain ⟨w, first, x, second, y, third, z, fourth, result⟩ := taken
    cases result
    refine ⟨[a, b, c, d], rfl, by simp, rfl, by simp [first, second, third, fourth], ?_⟩
    intro other others
    obtain ⟨head, tail, rfl⟩ := List.exists_cons_of_ne_nil others
    simp [takeHex?, first, second, third, fourth]

theorem IsHex.ne_break {digits : List Char} {unit : Nat} (isHex : IsHex digits unit) :
    '\n' ∉ digits := by
  intro breakMem
  cases isHex.hex '\n' breakMem

/-- The texts that differ behind a quote start with the same escape. -/
theorem exists_of_append_quote_eq {body rest more : List Char}
    (same : body ++ '"' :: rest = '\\' :: 'u' :: more) :
    ∃ tail, body = '\\' :: 'u' :: tail ∧ more = tail ++ '"' :: rest := by
  match body, same with
  | [], same => simp at same
  | [_], same => simp at same
  | a :: b :: tail, same =>
    simp only [List.cons_append, List.cons.injEq] at same
    obtain ⟨rfl, rfl, rfl⟩ := same
    exact ⟨tail, rfl, rfl⟩

/-- Hexadecimal digits in front of a quote are all before it. -/
theorem IsHex.exists_of_append_eq {digits after body rest : List Char} {unit : Nat}
    (isHex : IsHex digits unit) (same : digits ++ after = body ++ '"' :: rest) :
    ∃ tail, body = digits ++ tail := by
  rcases List.append_eq_append_iff.mp same with ⟨tail, bodyEq, _⟩ | ⟨tail, digitsEq, quote⟩
  · exact ⟨tail, bodyEq⟩
  · cases tail with
    | nil => exact ⟨[], by simpa using digitsEq.symm⟩
    | cons c tail =>
        have isQuote : c = '"' := (List.cons.inj quote).1.symm
        have hex := isHex.hex c (by simp [digitsEq])
        rw [isQuote] at hex
        cases hex

section UnicodeEscape

variable {letter cs more out : List Char} {unit low : Nat} {c : Char}

/-- The second half of a pair follows a unit. -/
def FollowedByLow (unit : Nat) (out : List Char) : Prop :=
  isHighSurrogate unit = true ∧ ∃ more, out = '\\' :: 'u' :: more ∧
    ∀ low after, takeHex? more = some (low, after) → isLowSurrogate low = true

/-- The character that the two halves of a pair make. -/
def pairChar (unit low : Nat) : Char :=
  Char.ofNat (0x10000 + (unit - 0xd800) * 0x400 + (low - 0xdc00))

theorem readUnicodeEscape_alone (taken : takeHex? cs = some (unit, out))
    (alone : ¬ FollowedByLow unit out) :
    readUnicodeEscape letter cs = .ok (unitChar unit, out) := by
  simp only [readUnicodeEscape, taken]
  split
  · rename_i more high
    split
    · rfl
    · split
      · rename_i broken
        exact absurd ⟨high, more, rfl, by simp [broken]⟩ alone
      · rename_i low after second
        have notLow : isLowSurrogate low ≠ true := fun isLow =>
          alone ⟨high, more, rfl, by simpa [second] using isLow⟩
        rw [if_neg notLow]
  · rfl

theorem readUnicodeEscape_pair (taken : takeHex? cs = some (unit, '\\' :: 'u' :: more))
    (high : isHighSurrogate unit = true) (second : takeHex? more = some (low, out))
    (isLow : isLowSurrogate low = true) :
    readUnicodeEscape letter cs = .ok (pairChar unit low, out) := by
  obtain ⟨digits, rfl, others, isHex⟩ := takeHex?_eq_some second
  have long : ¬ (digits ++ out).length < 5 := by
    have length := isHex.length
    have nonempty := List.length_pos_iff.mpr others
    rw [List.length_append]
    omega
  simp only [readUnicodeEscape, taken, high, if_neg long, second, isLow, if_true, pairChar]

/-- An escape by code unit is a unit alone or a pair. -/
theorem readUnicodeEscape_cases (read : readUnicodeEscape letter cs = .ok (c, out)) :
    (∃ unit, takeHex? cs = some (unit, out) ∧ c = unitChar unit ∧
        (FollowedByLow unit out → ∃ more, out = '\\' :: 'u' :: more ∧ takeHex? more = none)) ∨
      ∃ unit low more, takeHex? cs = some (unit, '\\' :: 'u' :: more) ∧
      isHighSurrogate unit = true ∧
        takeHex? more = some (low, out) ∧ isLowSurrogate low = true ∧ c = pairChar unit low := by
  unfold readUnicodeEscape at read
  split at read
  · cases read
  rename_i unit found taken
  split at read
  · rename_i more high
    split at read
    · rename_i short
      cases read
      refine .inl ⟨unit, taken, rfl, fun _ => ⟨more, rfl, ?_⟩⟩
      match more, short with
      | [], _ | [_], _ | [_, _], _ | [_, _, _], _ | [_, _, _, _], _ => rfl
    · split at read
      · cases read
      · rename_i low after second
        split at read
        · rename_i isLow
          obtain ⟨joined, rfl⟩ := Prod.mk.inj (Except.ok.inj read)
          exact .inr ⟨unit, low, more, taken, high, second, isLow, joined.symm⟩
        · rename_i notLow
          cases read
          refine .inl ⟨unit, taken, rfl, ?_⟩
          rintro ⟨_, _, same, isLow⟩
          cases same
          exact absurd (isLow low after second) notLow
  · rename_i single
    cases read
    refine .inl ⟨unit, taken, rfl, ?_⟩
    rintro ⟨high, more, same, _⟩
    exact absurd same (single more high)

end UnicodeEscape

/-- What follows a unit in a string decides before the closing quote whether the unit is alone. -/
theorem FollowedByLow.of_quote {body rest rest' : List Char} {unit : Nat}
    (whole : ∀ more, body ++ '"' :: rest = '\\' :: 'u' :: more → takeHex? more ≠ none)
    (followed : FollowedByLow unit (body ++ '"' :: rest')) :
    FollowedByLow unit (body ++ '"' :: rest) := by
  obtain ⟨high, more, same, isLow⟩ := followed
  obtain ⟨tail, rfl, rfl⟩ := exists_of_append_quote_eq same
  refine ⟨high, tail ++ '"' :: rest, rfl, ?_⟩
  intro low after second
  obtain ⟨digits, digitsEq, -, isHex⟩ := takeHex?_eq_some second
  obtain ⟨behind, rfl⟩ := isHex.exists_of_append_eq digitsEq.symm
  apply isLow low (behind ++ '"' :: rest')
  rw [List.append_assoc]
  exact isHex.reads _ (by simp)

/-- An escape by code unit is read the same way if the string goes on the same way up to its closing
quote. What follows is itself read on, so it is no broken escape. -/
theorem readUnicodeEscape_local {letter after body rest : List Char} {c : Char}
    (read : readUnicodeEscape letter after = .ok (c, body ++ '"' :: rest))
    (whole : ∀ more, body ++ '"' :: rest = '\\' :: 'u' :: more → takeHex? more ≠ none) :
    ∃ escape, after = escape ++ (body ++ '"' :: rest) ∧ '\n' ∉ escape ∧ ∀ letter' rest',
      readUnicodeEscape letter' (escape ++ (body ++ '"' :: rest')) =
      .ok (c, body ++ '"' :: rest') := by
  rcases readUnicodeEscape_cases read with
    ⟨unit, taken, rfl, alone⟩ | ⟨unit, low, more, taken, high, second, isLow, joined⟩
  · obtain ⟨digits, rfl, -, isHex⟩ := takeHex?_eq_some taken
    refine ⟨digits, rfl, isHex.ne_break, fun letter' rest' => ?_⟩
    apply readUnicodeEscape_alone (isHex.reads _ (by simp))
    intro followed
    obtain ⟨more, same, broken⟩ := alone (followed.of_quote whole)
    exact whole more same broken
  · obtain ⟨digits, rfl, -, isHex⟩ := takeHex?_eq_some taken
    obtain ⟨lowDigits, rfl, -, lowHex⟩ := takeHex?_eq_some second
    refine ⟨digits ++ '\\' :: 'u' :: lowDigits, by simp, ?_, fun letter' rest' => ?_⟩
    · simp [isHex.ne_break, lowHex.ne_break]
    · have secondHalf := lowHex.reads (body ++ '"' :: rest') (by simp)
      have firstHalf := isHex.reads ('\\' :: 'u' :: (lowDigits ++ (body ++ '"' :: rest'))) (by simp)
      rw [joined, List.append_assoc]
      exact readUnicodeEscape_pair firstHalf high secondHalf isLow

/-- In a string that is read to its end no escape is broken. -/
theorem takeHex?_ne_none_of_readString {opening more rest : List Char} {fuel : Nat}
    {done : List Char}
    {s : String} (read : readString opening fuel done ('\\' :: 'u' :: more) = .ok (s, rest)) :
    takeHex? more ≠ none := by
  intro broken
  cases fuel with
  | zero => cases read
  | succ fuel =>
      simp only [readString, readUnicodeEscape, broken] at read
      simp [failAt, bind, Except.bind] at read

section Characters

variable {opening : List Char} {fuel : Nat} {done after : List Char}

theorem readString_unit {found : List Char} {read : Char}
    (escape : readUnicodeEscape ('u' :: after) after = .ok (read, found)) :
    readString opening (fuel + 1) done ('\\' :: 'u' :: after) =
      readString opening fuel (read :: done) found := by
  simp only [readString, escape]
  rfl

theorem readString_short {letter read : Char} (escape : shortEscape? letter = some read) :
    readString opening (fuel + 1) done ('\\' :: letter :: after) =
      readString opening fuel (read :: done) after := by
  have notUnit : letter ≠ 'u' := by
    rintro rfl
    cases escape
  simp [readString, escape]

theorem readString_plain {c : Char} (notQuote : c ≠ '"') (printable : ¬ c.toNat < 0x20)
    (notEscape : c ≠ '\\') :
    readString opening (fuel + 1) done (c :: after) =
      readString opening fuel (c :: done) after := by
  simp [readString, notQuote, printable, notEscape]

end Characters

/-- A string reaches up to its closing quote, has no line break, and is read the same way whatever
comes after it. -/
theorem readString_eq_ok {opening : List Char} {fuel : Nat} {done cs rest : List Char} {s : String}
    (read : readString opening fuel done cs = .ok (s, rest)) :
    ∃ body, cs = body ++ '"' :: rest ∧ '\n' ∉ body ∧ ∀ opening' fuel' rest', body.length < fuel' →
      readString opening' fuel' done (body ++ '"' :: rest') = .ok (s, rest') := by
  induction fuel generalizing done cs with
  | zero => cases read
  | succ fuel ih =>
      cases cs with
      | nil => cases read
      | cons c tail =>
          unfold readString at read
          split at read
          · rename_i isQuote
            cases read
            refine ⟨[], by simp [isQuote], by simp, fun opening' fuel' rest' enough => ?_⟩
            obtain ⟨fuel', rfl⟩ := Nat.exists_eq_add_one.mpr (Nat.zero_lt_of_lt enough)
            simp [readString]
          rename_i notQuote
          split at read
          · cases read
          rename_i printable
          have noBreakHere : '\n' ≠ c := by
            rintro rfl
            exact printable (by decide)
          split at read
          · rename_i isEscape
            subst isEscape
            split at read
            · cases read
            · -- An escape by code unit.
              obtain ⟨⟨escaped, found⟩, unescaped, later⟩ := bind_eq_ok_iff.mp read
              obtain ⟨body, rfl, noBreak, reads⟩ := ih later
              obtain ⟨escape, rfl, noBreakBefore, escapes⟩ := readUnicodeEscape_local unescaped
                fun more same => takeHex?_ne_none_of_readString (same ▸ later)
              refine ⟨'\\' :: 'u' :: (escape ++ body), by simp,
                by simp [noBreakBefore, noBreak], ?_⟩
              intro opening' fuel' rest' enough
              simp only [List.length_cons, List.length_append] at enough
              obtain ⟨fuel', rfl⟩ := Nat.exists_eq_add_one.mpr (Nat.zero_lt_of_lt enough)
              simp only [List.cons_append, List.append_assoc]
              rw [readString_unit (escapes _ rest')]
              exact reads opening' fuel' rest' (by omega)
            · rename_i letter after notUnit
              split at read
              · rename_i escaped short
                obtain ⟨body, rfl, noBreak, reads⟩ := ih read
                have noBreakThere : '\n' ≠ letter := by
                  rintro rfl
                  cases short
                refine ⟨'\\' :: letter :: body, rfl, by simp [noBreakThere, noBreak], ?_⟩
                intro opening' fuel' rest' enough
                simp only [List.length_cons] at enough
                obtain ⟨fuel', rfl⟩ := Nat.exists_eq_add_one.mpr (Nat.zero_lt_of_lt enough)
                exact (readString_short short).trans (reads opening' fuel' rest' (by omega))
              · cases read
          · -- A character that stands for itself.
            rename_i notEscape
            obtain ⟨body, rfl, noBreak, reads⟩ := ih read
            refine ⟨c :: body, rfl, by simp [noBreakHere, noBreak],
              fun opening' fuel' rest' enough => ?_⟩
            simp only [List.length_cons] at enough
            obtain ⟨fuel', rfl⟩ := Nat.exists_eq_add_one.mpr (Nat.zero_lt_of_lt enough)
            exact (readString_plain notQuote printable notEscape).trans
              (reads opening' fuel' rest' (by omega))

/-! ## Numbers and words -/

/-- An ordinary digit. -/
def isDigit (c : Char) : Bool := (Text.asciiDigit? c).isSome

/-- What can follow a value: nothing, a blank, or a character that ends an item, a
list or an object. -/
def isEnd (c : Char) : Bool := isJsonBlank c || c = ',' || c = ']' || c = '\x7d'

/-- The text does not go on with a digit, a point or the letter of an exponent. -/
structure EndsNumber (cs : List Char) : Prop where
  noDigit : ∀ c ∈ cs.head?, isDigit c = false
  noPoint : ∀ c ∈ cs.head?, c ≠ '.'
  noExponent : ∀ c ∈ cs.head?, c ≠ 'e' ∧ c ≠ 'E'

/-- Nothing follows, or something that can follow a value. -/
def Ends (cs : List Char) : Prop := ∀ c ∈ cs.head?, isEnd c = true

theorem isEnd_cases {c : Char} (ends : isEnd c = true) :
    c ∈ [' ', '\t', '\n', '\r', ',', ']', '\x7d'] := by
  simpa [isEnd, isJsonBlank, or_assoc] using ends

theorem Ends.endsNumber {cs : List Char} (ends : Ends cs) : EndsNumber cs := by
  have each : [' ', '\t', '\n', '\r', ',', ']', '\x7d'].all
      (fun c => isDigit c = false ∧ c ≠ '.' ∧ c ≠ 'e' ∧ c ≠ 'E') = true := by
    decide
  simp only [List.all_eq_true, decide_eq_true_eq] at each
  exact ⟨fun c cMem => (each c (isEnd_cases (ends c cMem))).1,
    fun c cMem => (each c (isEnd_cases (ends c cMem))).2.1,
    fun c cMem => (each c (isEnd_cases (ends c cMem))).2.2⟩

theorem forall_mem_head?_append {P : Char → Prop} {first later : List Char}
    (atFirst : ∀ c ∈ first.head?, P c)
    (atLater : ∀ c ∈ later.head?, P c) : ∀ c ∈ (first ++ later).head?, P c := by
  cases first with
  | nil => exact atLater
  | cons c tail => exact atFirst

theorem takeDigitRun_eq (cs : List Char) :
    takeDigitRun cs = (cs.takeWhile isDigit, cs.dropWhile isDigit) :=
  List.span_eq_takeWhile_dropWhile ..

/-- A run of digits is the same before whatever is no digit. -/
theorem takeDigitRun_local {cs digits rest : List Char} (taken : takeDigitRun cs = (digits, rest)) :
    cs = digits ++ rest ∧ (∀ c ∈ digits, isDigit c = true) ∧
      ∀ rest', (∀ c ∈ rest'.head?, isDigit c = false) → takeDigitRun (digits ++ rest') =
      (digits, rest') := by
  rw [takeDigitRun_eq] at taken
  obtain ⟨rfl, rfl⟩ := Prod.mk.inj taken
  have digits : ∀ c ∈ cs.takeWhile isDigit, isDigit c = true :=
    fun c cMem => List.mem_takeWhile_imp cMem
  refine ⟨List.takeWhile_append_dropWhile.symm, digits, fun rest' stops => ?_⟩
  rw [takeDigitRun_eq, List.takeWhile_append_of_pos digits, List.dropWhile_append_of_pos digits]
  cases rest' with
  | nil => simp
  | cons c tail => simp [stops c rfl]

/-- A digit, or one of the signs and letters of a number. -/
def isNumeric (c : Char) : Bool := isDigit c || c ∈ ['-', '+', '.', 'e', 'E']

theorem isNumeric_of_isDigit {c : Char} (digit : isDigit c = true) : isNumeric c = true := by
  simp [isNumeric, digit]

/-- The digits before point and exponent are the same before whatever is no digit. -/
theorem takeWhole?_local {cs whole rest : List Char} (taken : takeWhole? cs = some (whole, rest)) :
    cs = whole ++ rest ∧ whole ≠ [] ∧ (∀ c ∈ whole, isDigit c = true) ∧
      ∀ rest', (∀ c ∈ rest'.head?, isDigit c = false) →
      takeWhole? (whole ++ rest') = some (whole, rest') := by
  unfold takeWhole? at taken
  split at taken
  · cases taken
    exact ⟨rfl, by simp, by simp [isDigit, Text.asciiDigit?], fun rest' _ => rfl⟩
  · rename_i notZero
    split at taken
    · cases taken
    · rename_i digits after notEmpty run
      cases taken
      obtain ⟨rfl, digits, reads⟩ := takeDigitRun_local run
      have nonempty : whole ≠ [] := fun empty => notEmpty empty
      refine ⟨rfl, nonempty, digits, fun rest' stops => ?_⟩
      obtain ⟨c, tail, rfl⟩ := List.exists_cons_of_ne_nil nonempty
      have notZeroHere : c ≠ '0' := by
        rintro rfl
        exact notZero _ rfl
      have run' := reads rest' stops
      simp only [List.cons_append] at run' ⊢
      unfold takeWhole?
      split
      · rename_i zero
        exact absurd (List.cons.inj zero).1 notZeroHere
      · simp [run']

theorem takeFraction_local {cs fraction rest : List Char}
    (taken : takeFraction cs = (fraction, rest)) :
    cs = fraction ++ rest ∧ (∀ c ∈ fraction.head?, c = '.') ∧ (∀ c ∈ fraction, isNumeric c = true) ∧
      ∀ rest', (∀ c ∈ rest'.head?, isDigit c = false ∧ c ≠ '.') →
        takeFraction (fraction ++ rest') = (fraction, rest') := by
  have absent (rest' : List Char) (stops : ∀ c ∈ rest'.head?, isDigit c = false ∧ c ≠ '.') :
      takeFraction rest' = ([], rest') := by
    unfold takeFraction
    split
    · exact absurd rfl (stops '.' rfl).2
    · rfl
  unfold takeFraction at taken
  split at taken
  · rename_i after
    split at taken
    · cases taken
      exact ⟨rfl, by simp, by simp, absent⟩
    · rename_i digits behind notEmpty run
      cases taken
      obtain ⟨rfl, digits, reads⟩ := takeDigitRun_local run
      refine ⟨rfl, by simp, ?_, fun rest' stops => ?_⟩
      · intro c cMem
        rcases List.mem_cons.mp cMem with rfl | digit
        · decide
        · exact isNumeric_of_isDigit (digits c digit)
      · have run' := reads rest' fun c cMem => (stops c cMem).1
        simp only [List.cons_append, takeFraction, run']
  · cases taken
    exact ⟨rfl, by simp, by simp, absent⟩

/-- The sign of an exponent and what follows it. -/
def takeSign : List Char → List Char × List Char
  | '+' :: more => (['+'], more)
  | '-' :: more => (['-'], more)
  | more => ([], more)

theorem takeExponent_cons (c : Char) (rest : List Char) : takeExponent (c :: rest) =
    if c = 'e' ∨ c = 'E' then
      match takeDigitRun (takeSign rest).2 with
      | ([], _) => ([], c :: rest)
      | (run, after) => (c :: (takeSign rest).1 ++ run, after)
    else ([], c :: rest) := by
  simp only [takeExponent]
  rfl

/-- A sign is followed by what follows it, as long as digits do. -/
theorem takeSign_local (cs : List Char) : cs = (takeSign cs).1 ++ (takeSign cs).2 ∧
    (∀ c ∈ (takeSign cs).1, isNumeric c = true) ∧
      ∀ run, run ≠ [] → (∀ c ∈ run, isDigit c = true) → ∀ rest',
        takeSign ((takeSign cs).1 ++ (run ++ rest')) = ((takeSign cs).1, run ++ rest') := by
  have unsigned (run : List Char) (nonempty : run ≠ []) (digits : ∀ c ∈ run, isDigit c = true)
      (rest' : List Char) : takeSign (run ++ rest') = ([], run ++ rest') := by
    obtain ⟨c, tail, rfl⟩ := List.exists_cons_of_ne_nil nonempty
    have digit := digits c List.mem_cons_self
    unfold takeSign
    split
    · rename_i same
      cases (List.cons.inj same).1
      cases digit
    · rename_i same
      cases (List.cons.inj same).1
      cases digit
    · rfl
  fun_cases takeSign cs with
  | case1 more => exact ⟨rfl, List.forall_mem_singleton.mpr (by decide), fun _ _ _ _ => rfl⟩
  | case2 more => exact ⟨rfl, List.forall_mem_singleton.mpr (by decide), fun _ _ _ _ => rfl⟩
  | case3 => exact ⟨rfl, by simp, unsigned⟩

theorem takeExponent_local {cs exponent rest : List Char}
    (taken : takeExponent cs = (exponent, rest)) :
    cs = exponent ++ rest ∧ (∀ c ∈ exponent.head?, c = 'e' ∨ c = 'E') ∧
      (∀ c ∈ exponent, isNumeric c = true) ∧
      ∀ rest', EndsNumber rest' → takeExponent (exponent ++ rest') = (exponent, rest') := by
  have absent (rest' : List Char) (ends : EndsNumber rest') : takeExponent rest' = ([], rest') := by
    cases rest' with
    | nil => rfl
    | cons c tail => simp [takeExponent, ends.noExponent c rfl]
  cases cs with
  | nil =>
      cases taken
      exact ⟨rfl, by simp, by simp, absent⟩
  | cons c tail =>
      rw [takeExponent_cons] at taken
      split at taken
      · rename_i letter
        split at taken
        · cases taken
          exact ⟨rfl, by simp, by simp, absent⟩
        · rename_i run behind notEmpty taken'
          cases taken
          obtain ⟨tailEq, signs, signed⟩ := takeSign_local tail
          obtain ⟨digitsEq, digits, reads⟩ := takeDigitRun_local taken'
          have nonempty : run ≠ [] := fun empty => notEmpty empty
          have numericLetter : isNumeric c = true := by
            rcases letter with rfl | rfl <;> decide
          refine ⟨?_, by simp [letter], ?_, fun rest' ends => ?_⟩
          · simp [← digitsEq, ← tailEq]
          · simp only [List.cons_append, List.mem_cons, List.mem_append]
            rintro d (rfl | sign | digit)
            · exact numericLetter
            · exact signs d sign
            · exact isNumeric_of_isDigit (digits d digit)
          · simp only [List.cons_append, List.append_assoc, takeExponent_cons, if_pos letter,
              signed run nonempty digits, reads rest' ends.noDigit]
      · cases taken
        exact ⟨rfl, by simp, by simp, absent⟩

/-- The minus sign of a number and what follows it. -/
def takeMinus : List Char → List Char × List Char
  | '-' :: rest => (['-'], rest)
  | cs => ([], cs)

theorem takeMinus_local (cs : List Char) : cs = (takeMinus cs).1 ++ (takeMinus cs).2 ∧
    ((takeMinus cs).1 = [] ∨ (takeMinus cs).1 = ['-']) ∧
      ∀ whole, whole ≠ [] → (∀ c ∈ whole, isDigit c = true) → ∀ rest',
        takeMinus ((takeMinus cs).1 ++ (whole ++ rest')) = ((takeMinus cs).1, whole ++ rest') := by
  fun_cases takeMinus cs with
  | case1 more => exact ⟨rfl, .inr rfl, fun _ _ _ _ => rfl⟩
  | case2 =>
      refine ⟨rfl, .inl rfl, fun whole nonempty digits rest' => ?_⟩
      obtain ⟨c, tail, rfl⟩ := List.exists_cons_of_ne_nil nonempty
      have digit := digits c List.mem_cons_self
      unfold takeMinus
      split
      · rename_i same
        cases (List.cons.inj same).1
        cases digit
      · rfl

/-- What a number means that has been taken apart. -/
def numberOf (cs sign whole fraction exponent rest : List Char) :
    Except Failure (Value × List Char) :=
  if fraction.isEmpty && exponent.isEmpty then
    if whole.length > digitLimit then failAt (.digitLimit whole.length) cs
    else
      let size : Int := digitsValue whole
      .ok (.int (if sign.isEmpty then size else -size), rest)
  else match Decimal.Literal.read? (sign ++ whole ++ fraction ++ exponent) with
    | some read => .ok (.float read.toFloat, rest)
    | none => failAt .value cs

theorem readNumber_eq (cs : List Char) : readNumber cs =
    match takeWhole? (takeMinus cs).2 with
    | none => failAt .value cs
    | some (whole, rest) => numberOf cs (takeMinus cs).1 whole (takeFraction rest).1
        (takeExponent (takeFraction rest).2).1 (takeExponent (takeFraction rest).2).2 := by
  simp only [readNumber]
  rfl

theorem numberOf_eq_ok {cs sign whole fraction exponent after rest : List Char} {v : Value}
    (read : numberOf cs sign whole fraction exponent after = .ok (v, rest)) :
    rest = after ∧ (∀ items, v ≠ .list items) ∧
      ∀ cs' rest', numberOf cs' sign whole fraction exponent rest' = .ok (v, rest') := by
  unfold numberOf at read ⊢
  split at read
  · split at read
    · cases read
    · rename_i isWhole notLong
      cases read
      exact ⟨rfl, by simp, fun _ _ => by rw [if_pos isWhole, if_neg notLong]⟩
  · rename_i notWhole
    split at read
    · rename_i number
      cases read
      exact ⟨rfl, by simp, fun _ _ => by rw [if_neg notWhole]⟩
    · cases read

/-- A text that starts like a number. -/
def OpensNumber (cs : List Char) : Prop :=
  ∃ digit tail, isDigit digit = true ∧ (cs = digit :: tail ∨ cs = '-' :: digit :: tail)

/-- A number is read the same way before whatever can follow a value. -/
theorem readNumber_local {cs rest : List Char} {v : Value} (read : readNumber cs = .ok (v, rest)) :
    ∃ used, cs = used ++ rest ∧ OpensNumber used ∧ (∀ c ∈ used, isNumeric c = true) ∧
      (∀ items, v ≠ .list items) ∧ ∀ rest', Ends rest' →
      readNumber (used ++ rest') = .ok (v, rest') := by
  rw [readNumber_eq] at read
  obtain ⟨csEq, minus, signs⟩ := takeMinus_local cs
  generalize (takeMinus cs).1 = sign at read csEq minus signs
  generalize (takeMinus cs).2 = unsigned at read csEq
  split at read
  · cases read
  rename_i whole afterWhole takenWhole
  rcases takenFraction : takeFraction afterWhole with ⟨fraction, afterFraction⟩
  rcases takenExponent : takeExponent afterFraction with ⟨exponent, after⟩
  simp only [takenFraction, takenExponent] at read
  obtain ⟨rfl, notList, reads⟩ := numberOf_eq_ok read
  obtain ⟨rfl, nonempty, digits, wholes⟩ := takeWhole?_local takenWhole
  obtain ⟨rfl, point, numericFraction, fractions⟩ := takeFraction_local takenFraction
  obtain ⟨rfl, letter, numericExponent, exponents⟩ := takeExponent_local takenExponent
  have opens : OpensNumber (sign ++ (whole ++ (fraction ++ exponent))) := by
    obtain ⟨digit, tail, rfl⟩ := List.exists_cons_of_ne_nil nonempty
    refine ⟨digit, tail ++ (fraction ++ exponent), digits digit List.mem_cons_self, ?_⟩
    rcases minus with rfl | rfl
    · exact .inl rfl
    · exact .inr rfl
  refine ⟨sign ++ (whole ++ (fraction ++ exponent)), by simp [csEq], opens, ?_, notList, ?_⟩
  · intro c cMem
    simp only [List.mem_append] at cMem
    rcases cMem with inSign | digit | point | letter
    · rcases minus with rfl | rfl
      · cases inSign
      · rw [List.mem_singleton.mp inSign]
        decide
    · exact isNumeric_of_isDigit (digits c digit)
    · exact numericFraction c point
    · exact numericExponent c letter
  · intro rest' ends
    have stops := ends.endsNumber
    have afterDigits : ∀ c ∈ (exponent ++ rest').head?, isDigit c = false ∧ c ≠ '.' := by
      refine forall_mem_head?_append (fun c cMem => ?_)
        fun c cMem => ⟨stops.noDigit c cMem, stops.noPoint c cMem⟩
      rcases letter c cMem with rfl | rfl <;> decide
    have afterWhole : ∀ c ∈ (fraction ++ (exponent ++ rest')).head?, isDigit c = false := by
      refine forall_mem_head?_append (fun c cMem => ?_) fun c cMem => (afterDigits c cMem).1
      rw [point c cMem]
      decide
    rw [readNumber_eq]
    simp only [List.append_assoc]
    rw [signs whole nonempty digits]
    simp only [wholes _ afterWhole, fractions _ afterDigits, exponents _ stops]
    exact reads _ _

theorem afterWord?_eq_some_iff {word cs rest : List Char} :
    afterWord? word cs = some rest ↔ cs = word ++ rest := by
  induction word generalizing cs with
  | nil => simp [afterWord?]
  | cons w word ih =>
      cases cs with
      | nil => simp [afterWord?]
      | cons c tail =>
          by_cases same : w = c
          · simp [afterWord?, same, ih]
          · simp [afterWord?, same, Ne.symm same]

/-- The words that are values. -/
def wordValues : List (String × Value) :=
  [("null", .null), ("true", .bool true), ("false", .bool false), ("NaN", .float (0.0 / 0.0)),
    ("Infinity", .float (1.0 / 0.0)), ("-Infinity", .float (-1.0 / 0.0))]

/-- The value of a word that the text starts with. -/
def findWord? (cs : List Char) : Option (Value × List Char) :=
  wordValues.findSome? fun (word, value) => (afterWord? word.toList cs).map (value, ·)

theorem readScalar_eq (cs : List Char) : readScalar cs =
    match findWord? cs with
    | some found => .ok found
    | none => readNumber cs := rfl

/-- The words differ at their start, so each is found before anything. -/
theorem findWord?_append {word : String} {value : Value} (wordMem : (word, value) ∈ wordValues)
    (rest : List Char) : findWord? (word.toList ++ rest) = some (value, rest) := by
  simp only [wordValues, List.mem_cons, Prod.mk.injEq, List.not_mem_nil, or_false] at wordMem
  rcases wordMem with ⟨rfl, rfl⟩ | ⟨rfl, rfl⟩ | ⟨rfl, rfl⟩ | ⟨rfl, rfl⟩ | ⟨rfl, rfl⟩ |
    ⟨rfl, rfl⟩ <;> rfl

theorem findWord?_eq_some {cs rest : List Char} {v : Value}
    (found : findWord? cs = some (v, rest)) :
    ∃ word, (word, v) ∈ wordValues ∧ cs = word.toList ++ rest := by
  obtain ⟨⟨word, value⟩, wordMem, taken⟩ := List.exists_of_findSome?_eq_some found
  simp only [Option.map_eq_some_iff, Prod.mk.injEq] at taken
  obtain ⟨_, after, rfl, rfl⟩ := taken
  exact ⟨word, wordMem, afterWord?_eq_some_iff.mp after⟩

theorem OpensNumber.append {cs : List Char} (opens : OpensNumber cs) (rest : List Char) :
    OpensNumber (cs ++ rest) := by
  obtain ⟨digit, tail, isDigit, rfl | rfl⟩ := opens
  · exact ⟨digit, tail ++ rest, isDigit, .inl rfl⟩
  · exact ⟨digit, tail ++ rest, isDigit, .inr rfl⟩

/-- What starts like a number starts like no word. -/
theorem OpensNumber.findWord?_eq_none {cs : List Char} (opens : OpensNumber cs) :
    findWord? cs = none := by
  obtain ⟨digit, tail, digits, shape⟩ := opens
  cases found : findWord? cs with
  | none => rfl
  | some result =>
      obtain ⟨word, wordMem, same⟩ := findWord?_eq_some found
      have notLetter : ∀ c ∈ "ntfNI".toList, digit ≠ c := by
        rintro c cMem rfl
        have noDigits : "ntfNI".toList.any isDigit = false := by decide
        exact List.any_eq_false.mp noDigits digit cMem digits
      have notMinus : digit ≠ '-' := by
        rintro rfl
        cases digits
      simp only [wordValues, List.mem_cons, Prod.mk.injEq, List.not_mem_nil, or_false] at wordMem
      rcases shape with rfl | rfl <;>
        rcases wordMem with ⟨rfl, -⟩ | ⟨rfl, -⟩ | ⟨rfl, -⟩ | ⟨rfl, -⟩ | ⟨rfl, -⟩ | ⟨rfl, -⟩ <;>
        simp_all

/-! ## The shape of JSON -/

/-- The grave accent. -/
def graveAccent : Char := Char.ofNat 0x60

/-- Grave accents stand only in strings, and no string has a line break. -/
inductive Woven : List Char → Prop
  | nil : Woven []
  | outside {c : Char} {rest : List Char} (plain : c ≠ graveAccent) (later : Woven rest) :
      Woven (c :: rest)
  | string {body rest : List Char} (noBreak : '\n' ∉ body) (later : Woven rest) :
      Woven ('"' :: (body ++ '"' :: rest))

theorem woven_of_plain {cs : List Char} (plain : graveAccent ∉ cs) : Woven cs := by
  induction cs with
  | nil => exact .nil
  | cons c rest ih =>
      exact .outside (List.ne_of_not_mem_cons plain).symm (ih (List.not_mem_of_not_mem_cons plain))

theorem Woven.append {first later : List Char} (firstWoven : Woven first)
    (laterWoven : Woven later) :
    Woven (first ++ later) := by
  induction firstWoven with
  | nil => exact laterWoven
  | outside plain _ ih => exact .outside plain ih
  | string noBreak _ ih =>
      simp only [List.cons_append, List.append_assoc]
      exact .string noBreak ih

/-- What a value takes: it starts with neither a blank nor the end of a list, and is woven. -/
structure Spelled (used : List Char) : Prop where
  starts : ∃ c tail, used = c :: tail ∧ isJsonBlank c = false ∧ c ≠ ']'
  woven : Woven used

theorem isNumeric_plain {c : Char} (numeric : isNumeric c = true) : c ≠ graveAccent := by
  rintro rfl
  cases numeric

theorem OpensNumber.spelled {used : List Char} (opens : OpensNumber used)
    (numeric : ∀ c ∈ used, isNumeric c = true) : Spelled used := by
  refine ⟨?_, woven_of_plain fun accent => isNumeric_plain (numeric _ accent) rfl⟩
  obtain ⟨digit, tail, isDigit, rfl | rfl⟩ := opens
  · have notEnd : isEnd digit = false := by
      by_contra ends
      have endsHere : Ends [digit] := by simpa [Ends] using ends
      have noDigit := endsHere.endsNumber.noDigit digit rfl
      rw [isDigit] at noDigit
      cases noDigit
    simp only [isEnd, Bool.or_eq_false_iff, decide_eq_false_iff_not] at notEnd
    exact ⟨digit, tail, rfl, notEnd.1.1.1, notEnd.1.2⟩
  · exact ⟨'-', digit :: tail, rfl, by decide, by decide⟩

theorem spelled_word {word : String} {value : Value} (wordMem : (word, value) ∈ wordValues) :
    Spelled word.toList ∧ ∀ items, value ≠ .list items := by
  simp only [wordValues, List.mem_cons, Prod.mk.injEq, List.not_mem_nil, or_false] at wordMem
  rcases wordMem with ⟨rfl, rfl⟩ | ⟨rfl, rfl⟩ | ⟨rfl, rfl⟩ | ⟨rfl, rfl⟩ | ⟨rfl, rfl⟩ |
    ⟨rfl, rfl⟩ <;>
    exact ⟨⟨⟨_, _, rfl, by decide, by decide⟩, woven_of_plain (by decide)⟩, by simp⟩

/-- A word or a number is read the same way before whatever can follow a value. -/
theorem readScalar_local {cs rest : List Char} {v : Value} (read : readScalar cs = .ok (v, rest)) :
    ∃ used, cs = used ++ rest ∧ Spelled used ∧ (∀ items, v ≠ .list items) ∧
      ∀ rest', Ends rest' → readScalar (used ++ rest') = .ok (v, rest') := by
  rw [readScalar_eq] at read
  cases found : findWord? cs with
  | some result =>
      rw [found] at read
      cases read
      obtain ⟨word, wordMem, rfl⟩ := findWord?_eq_some found
      obtain ⟨spelled, notList⟩ := spelled_word wordMem
      refine ⟨word.toList, rfl, spelled, notList, fun rest' _ => ?_⟩
      rw [readScalar_eq, findWord?_append wordMem]
  | none =>
      rw [found] at read
      obtain ⟨used, rfl, opens, numeric, notList, reads⟩ := readNumber_local read
      refine ⟨used, rfl, opens.spelled numeric, notList, fun rest' ends => ?_⟩
      rw [readScalar_eq, (opens.append rest').findWord?_eq_none]
      exact reads rest' ends

end Outreach.Json
