import Outreach.Proofs.Json.Depth
import Outreach.Suggestion.Variant

/-!
# Answers and what they are wrapped in

A language model may answer with a bare JSON array, or put it between fences with other text around
them. Either way the array is read, whatever its strings contain: outside of strings it has no grave
accent, and inside of them no line break, so neither an opening nor a closing fence can begin in it.
What cannot be read is refused as no list of suggestions, unless it is nested too deeply.
-/

namespace Outreach.Suggestion

open Json (graveAccent Woven ListText isJsonBlank)

/-! ## Trimming -/

/-- Blanks of JSON are blanks. -/
theorem isBlank_of_isJsonBlank {c : Char} (blank : isJsonBlank c = true) :
    Text.isBlank c = true := by
  simp only [isJsonBlank, Bool.or_eq_true, decide_eq_true_eq] at blank
  rcases blank with ((rfl | rfl) | rfl) | rfl <;> decide

theorem dropWhile_append_solid {drop : Char → Bool} {c : Char} (solid : drop c = false)
    (before tail : List Char) :
    (before ++ c :: tail).dropWhile drop = before.dropWhile drop ++ c :: tail := by
  induction before with
  | nil => simp [solid]
  | cons b before ih =>
      by_cases dropped : drop b = true
      · simpa [dropped] using ih
      · simp [dropped]

/-- Trimming reaches no further than to what it does not drop. -/
theorem trimBy_append {drop : Char → Bool} {c d : Char} (solidFirst : drop c = false)
    (solidLast : drop d = false) {core head tail : List Char} (startsWith : core = c :: tail)
    (endsWith : core = head ++ [d]) (before after : List Char) :
    Text.trimBy drop (before ++ (core ++ after)) =
      before.dropWhile drop ++ (core ++ (after.reverse.dropWhile drop).reverse) := by
  have left : (before ++ (core ++ after)).dropWhile drop = before.dropWhile drop ++
      (core ++ after) := by
    rw [startsWith]
    exact dropWhile_append_solid solidFirst before (tail ++ after)
  have turned : (before.dropWhile drop ++ (core ++ after)).reverse =
      after.reverse ++ d :: (head.reverse ++ (before.dropWhile drop).reverse) := by
    simp [endsWith]
  rw [Text.trimBy, left, turned, dropWhile_append_solid solidLast]
  simp [endsWith]

theorem dropWhile_blanks {blanks : List Char} (blank : ∀ c ∈ blanks, isJsonBlank c = true) :
    blanks.dropWhile Text.isBlank = [] :=
  List.dropWhile_eq_nil_iff.mpr fun c cMem => isBlank_of_isJsonBlank (blank c cMem)

/-! ## No fence begins in JSON -/

theorem afterStart?_eq_some {start cs rest : List Char} (taken : afterStart? start cs = some rest) :
    cs = start ++ rest := by
  unfold afterStart? at taken
  split at taken
  · rename_i isPrefix
    cases taken
    exact (List.prefix_iff_eq_append.mp (List.isPrefixOf_iff_prefix.mp isPrefix)).symm
  · cases taken

theorem afterStart?_append (start rest : List Char) :
    afterStart? start (start ++ rest) = some rest := by
  simp [afterStart?]

/-- A start without quotes ends before a quote. -/
theorem afterStart?_quote {start found rest x : List Char} (noQuote : '"' ∉ start)
    (taken : afterStart? start (x ++ '"' :: rest) = some found) :
    ∃ y, x = start ++ y ∧ found = y ++ '"' :: rest := by
  rcases List.append_eq_append_iff.mp (afterStart?_eq_some taken) with ⟨y, startEq, quote⟩ |
    ⟨y, xEq, foundEq⟩
  · cases y with
    | nil => exact ⟨[], by simpa using startEq.symm, by simpa using quote.symm⟩
    | cons c y =>
        have isQuote : '"' = c := (List.cons.inj quote).1
        exact absurd (by rw [startEq, isQuote]; simp) noQuote
  · exact ⟨y, xEq, foundEq⟩

/-- Without a line break before a quote no opening ends there. -/
theorem afterOpening?_quote {x : List Char} (noBreak : '\n' ∉ x) (rest : List Char) :
    afterOpening? (x ++ '"' :: rest) = none := by
  induction x with
  | nil => rfl
  | cons c x ih =>
      have later := ih fun inside => noBreak (List.mem_cons_of_mem c inside)
      have notBreak : c ≠ '\n' := fun same => noBreak (same ▸ List.mem_cons_self)
      simp [afterOpening?, later, notBreak]

/-- Behind a fence the word `json` is skipped. -/
theorem fencedHere?_fence (rest : List Char) :
    fencedHere? (fence ++ rest) = afterOpening? ((afterStart? "json".toList rest).getD rest) := by
  simp only [fencedHere?, afterStart?_append, Option.bind_eq_bind, Option.bind_some]
  cases afterStart? "json".toList rest <;> rfl

theorem fencedHere?_quote {x : List Char} (noBreak : '\n' ∉ x) (rest : List Char) :
    fencedHere? (x ++ '"' :: rest) = none := by
  cases opens : afterStart? fence (x ++ '"' :: rest) with
  | none => simp [fencedHere?, opens]
  | some found =>
      obtain ⟨y, rfl, rfl⟩ := afterStart?_quote (by decide) opens
      have noBreakLater : '\n' ∉ y := fun inside => noBreak (List.mem_append_right _ inside)
      rw [List.append_assoc, fencedHere?_fence]
      cases named : afterStart? "json".toList (y ++ '"' :: rest) with
      | none => exact afterOpening?_quote noBreakLater rest
      | some found =>
          obtain ⟨z, rfl, rfl⟩ := afterStart?_quote (by decide) named
          exact afterOpening?_quote
            (fun inside => noBreakLater (List.mem_append_right _ inside)) rest

theorem fencedHere?_of_ne {c : Char} (plain : c ≠ graveAccent) (rest : List Char) :
    fencedHere? (c :: rest) = none := by
  have notFence : afterStart? fence (c :: rest) = none := by
    rw [Option.eq_none_iff_forall_ne_some]
    intro found taken
    exact plain (List.cons.inj (afterStart?_eq_some taken)).1
  simp [fencedHere?, notFence]

/-- Text without grave accents is skipped. -/
theorem fenced?_append {before : List Char} (plain : graveAccent ∉ before) (rest : List Char) :
    fenced? (before ++ rest) = fenced? rest := by
  induction before with
  | nil => rfl
  | cons c before ih =>
      have notGrave : c ≠ graveAccent := fun same => plain (same ▸ List.mem_cons_self)
      rw [List.cons_append, fenced?, fencedHere?_of_ne notGrave,
        ih fun inside => plain (List.mem_cons_of_mem c inside)]
      rfl

/-- A string without line breaks is skipped. -/
theorem fenced?_string {body : List Char} (noBreak : '\n' ∉ body) (rest : List Char) :
    fenced? (body ++ '"' :: rest) = fenced? rest := by
  induction body with
  | nil =>
      rw [List.nil_append, fenced?, fencedHere?_of_ne (by decide)]
      rfl
  | cons c body ih =>
      rw [List.cons_append, fenced?, ← List.cons_append, fencedHere?_quote noBreak,
        ih fun inside => noBreak (List.mem_cons_of_mem c inside)]
      rfl

/-- No fenced text begins in JSON. -/
theorem fenced?_eq_none_of_woven {cs : List Char} (woven : Woven cs) : fenced? cs = none := by
  induction woven with
  | nil => rfl
  | outside plain _ ih =>
      rw [fenced?, fencedHere?_of_ne plain, ih]
      rfl
  | string noBreak _ ih =>
      rw [fenced?, fencedHere?_of_ne (by decide), fenced?_string noBreak, ih]
      rfl

/-! ## The first closing fence behind JSON -/

theorem beforeClosing?_closing (after : List Char) :
    beforeClosing? (closing ++ after) = some [] := by
  rw [closing, List.cons_append, beforeClosing?, if_pos]
  simp [closing]

/-- A closing fence begins only where a line break comes before a grave accent. -/
theorem beforeClosing?_cons {c : Char} {rest : List Char}
    (goesOn : c = '\n' → rest.head? ≠ some graveAccent) :
    beforeClosing? (c :: rest) = (beforeClosing? rest).map (c :: ·) := by
  rw [beforeClosing?, if_neg]
  intro closes
  obtain ⟨tail, same⟩ := List.isPrefixOf_iff_prefix.mp closes
  obtain ⟨isBreak, rfl⟩ := List.cons.inj same
  exact goesOn isBreak.symm rfl

theorem beforeClosing?_append {line : List Char} (noBreak : '\n' ∉ line) (rest : List Char) :
    beforeClosing? (line ++ rest) = (beforeClosing? rest).map (line ++ ·) := by
  induction line with
  | nil => simp
  | cons c line ih =>
      have notBreak : c ≠ '\n' := fun same => noBreak (same ▸ List.mem_cons_self)
      rw [List.cons_append, beforeClosing?_cons fun isBreak => absurd isBreak notBreak,
        ih fun inside => noBreak (List.mem_cons_of_mem c inside), Option.map_map]
      rfl

theorem head?_woven {cs : List Char} (woven : Woven cs) (after : List Char) :
    (cs ++ (closing ++ after)).head? ≠ some graveAccent := by
  cases woven with
  | nil => exact of_decide_eq_false rfl
  | outside plain _ => simpa using plain
  | string _ _ => exact of_decide_eq_false rfl

/-- The text before the first closing fence is the JSON before it. -/
theorem beforeClosing?_woven {cs : List Char} (woven : Woven cs) (after : List Char) :
    beforeClosing? (cs ++ (closing ++ after)) = some cs := by
  induction woven with
  | nil => exact beforeClosing?_closing after
  | outside plain later ih =>
      rw [List.cons_append, beforeClosing?_cons fun _ => head?_woven later after, ih]
      rfl
  | @string body rest noBreak later ih =>
      have line : '\n' ∉ '"' :: (body ++ ['"']) := by simp [noBreak]
      have split : '"' :: (body ++ '"' :: rest) ++ (closing ++ after) =
          '"' :: (body ++ ['"']) ++ (rest ++ (closing ++ after)) := by simp
      rw [split, beforeClosing?_append line, ih]
      simp

/-! ## Fenced JSON -/

section Fenced

variable {before core : List Char} {c : Char} {tail : List Char}
  (blank : ∀ b ∈ before, isJsonBlank b = true) (woven : Woven core) (after : List Char)

theorem afterOpening?_cons {b : Char} (isBlank : isJsonBlank b = true) (rest : List Char) :
    afterOpening? (b :: rest) = (afterOpening? rest <|>
      if b = '\n' then beforeClosing? rest else none) := by
  rw [afterOpening?, if_pos (isBlank_of_isJsonBlank isBlank)]

include blank woven

theorem beforeClosing?_blanks :
    beforeClosing? (before ++ (core ++ (closing ++ after))) = some (before ++ core) := by
  rw [← List.append_assoc]
  exact beforeClosing?_woven ((Json.woven_blanks blank).append woven) after

/-- Of the blanks before JSON, those behind the last line break are left in front of it. -/
theorem afterOpening?_blanks (startsWith : core = c :: tail) (solid : Text.isBlank c = false) :
    afterOpening? (before ++ (core ++ (closing ++ after))) = none ∨
      ∃ left, (∀ b ∈ left, isJsonBlank b = true) ∧
        afterOpening? (before ++ (core ++ (closing ++ after))) = some (left ++ core) := by
  induction before with
  | nil =>
      left
      rw [List.nil_append, startsWith, List.cons_append, afterOpening?, if_neg (by simp [solid])]
  | cons b before ih =>
      have blankLater : ∀ b ∈ before, isJsonBlank b = true :=
        fun d dMem => blank d (List.mem_cons_of_mem b dMem)
      rw [List.cons_append, afterOpening?_cons (blank b List.mem_cons_self)]
      rcases ih blankLater with none | ⟨left, leftBlank, found⟩
      · rw [none]
        split
        · exact .inr ⟨before, blankLater, beforeClosing?_blanks blankLater woven after⟩
        · exact .inl rfl
      · rw [found]
        exact .inr ⟨left, leftBlank, rfl⟩

/-- A line break ends an opening, so JSON behind it is found with some of the blanks before it. -/
theorem afterOpening?_break (startsWith : core = c :: tail) (solid : Text.isBlank c = false) :
    ∃ left, (∀ b ∈ left, isJsonBlank b = true) ∧
      afterOpening? ('\n' :: (before ++ (core ++ (closing ++ after)))) = some (left ++ core) := by
  rw [afterOpening?_cons (by decide), if_pos rfl]
  rcases afterOpening?_blanks blank woven after startsWith solid with none |
    ⟨left, leftBlank, found⟩
  · rw [none]
    exact ⟨before, blank, beforeClosing?_blanks blank woven after⟩
  · rw [found]
    exact ⟨left, leftBlank, rfl⟩

end Fenced

/-- The two ways to open fenced JSON. -/
def openingFences : List (List Char) := [fence, fence ++ "json".toList]

/-- A text between fences, with other text before and after. -/
def wrap (before opening text after : List Char) : String :=
  String.ofList (before ++ (opening ++ '\n' :: (text ++ (closing ++ after))))

theorem fencedHere?_opening {opening : List Char} (opens : opening ∈ openingFences)
    (rest : List Char) :
    fencedHere? (opening ++ '\n' :: rest) = afterOpening? ('\n' :: rest) := by
  simp only [openingFences, List.mem_cons, List.not_mem_nil, or_false] at opens
  rcases opens with rfl | rfl
  · have unnamed : afterStart? "json".toList ('\n' :: rest) = none := rfl
    rw [fencedHere?_fence, unnamed]
    rfl
  · rw [List.append_assoc, fencedHere?_fence, afterStart?_append]
    rfl

theorem fenced?_of_fencedHere? {cs text : List Char} (found : fencedHere? cs = some text) :
    fenced? cs = some text := by
  cases cs with
  | nil => cases found
  | cons c rest =>
      rw [fenced?, found]
      rfl

/-- An opening starts with a grave accent. -/
theorem opening_starts {opening : List Char} (opens : opening ∈ openingFences) :
    ∃ tail, opening = graveAccent :: tail := by
  simp only [openingFences, List.mem_cons, List.not_mem_nil, or_false] at opens
  rcases opens with rfl | rfl
  · exact ⟨_, rfl⟩
  · exact ⟨_, rfl⟩

/-! ## Payloads -/

section Payload

variable {levels : Nat} {text : String} {before core after : List Char} {items : List Value}
  (textEq : text.toList = before ++ (core ++ after))
  (blankBefore : ∀ c ∈ before, isJsonBlank c = true) (listText : ListText levels core items)
include textEq blankBefore listText

/-- The payload of a bare list is the list without the blanks around it. -/
theorem payload_bare (blankAfter : ∀ c ∈ after, isJsonBlank c = true) : payload text = core := by
  obtain ⟨inner, bracketed⟩ := listText.bracketed
  have turned : ∀ c ∈ after.reverse, isJsonBlank c = true := fun c cMem =>
    blankAfter c (List.mem_reverse.mp cMem)
  have trimmed : Text.trimBy Text.isBlank text.toList = core := by
    rw [textEq, trimBy_append (c := '[') (d := ']') (by decide) (by decide) bracketed
      (bracketed.trans (List.cons_append ..).symm), dropWhile_blanks blankBefore,
      dropWhile_blanks turned]
    simp
  rw [payload, trimmed, fenced?_eq_none_of_woven listText.woven]
  rfl

/-- The payload of a wrapped list is the list with some of the blanks before it
and those after it. -/
theorem payload_wrap (blankAfter : ∀ c ∈ after, isJsonBlank c = true) {opening : List Char}
    (opens : opening ∈ openingFences) {ahead : List Char} (plain : graveAccent ∉ ahead)
    (behind : List Char) :
    ∃ left, (∀ c ∈ left, isJsonBlank c = true) ∧
      payload (wrap ahead opening text.toList behind) = left ++ (core ++ after) := by
  obtain ⟨inner, bracketed⟩ := listText.bracketed
  obtain ⟨tail, starts⟩ := opening_starts opens
  let fencedText := opening ++ '\n' :: (text.toList ++ closing)
  have fencedStarts : fencedText = graveAccent :: (tail ++ '\n' :: (text.toList ++ closing)) := by
    simp only [fencedText, starts, List.cons_append]
  have fencedEnds : fencedText =
      (opening ++ '\n' :: (text.toList ++ '\n' :: List.replicate 2 graveAccent)) ++
      [graveAccent] := by
    simp [fencedText, closing, fence, graveAccent, List.replicate]
  have grave : Text.isBlank graveAccent = false := by decide
  have trimmed := trimBy_append grave grave fencedStarts fencedEnds ahead behind
  have plainLater : graveAccent ∉ ahead.dropWhile Text.isBlank := fun inside =>
    plain ((List.dropWhile_sublist _).mem inside)
  have woven : Woven (core ++ after) := listText.woven.append (Json.woven_blanks blankAfter)
  obtain ⟨left, blankLeft, found⟩ := afterOpening?_break blankBefore woven
    (behind.reverse.dropWhile Text.isBlank).reverse (by rw [bracketed]; rfl) (c := '[') (by decide)
  refine ⟨left, blankLeft, ?_⟩
  have whole : (wrap ahead opening text.toList behind).toList =
      ahead ++ (fencedText ++ behind) := by
    simp [wrap, fencedText]
  have foundHere : fenced? (fencedText ++ (behind.reverse.dropWhile Text.isBlank).reverse) =
      some (left ++ (core ++ after)) := by
    apply fenced?_of_fencedHere?
    have split : fencedText ++ (behind.reverse.dropWhile Text.isBlank).reverse = opening ++ '\n' ::
        (before ++ ((core ++ after) ++
          (closing ++ (behind.reverse.dropWhile Text.isBlank).reverse))) := by
      simp [fencedText, textEq]
    rw [split, fencedHere?_opening opens]
    exact found
  rw [payload, whole, trimmed, fenced?_append plainLater, foundHere]
  rfl

end Payload

/-! ## Parsing -/

/-- The fault is an error in the value of the answer. -/
def AnswerFault.isValueError : AnswerFault → Bool
  | .nesting _ => false
  | _ => true

theorem isValueError_faultOf (text : List Char) (failure : Json.Failure) :
    (faultOf text failure).isValueError = !failure.tooDeep := by
  obtain ⟨kind, remaining⟩ := failure
  cases kind <;> rfl

section Parse

variable {levels : Nat} {answer : String}

theorem parse_of_error {failure : Json.Failure}
    (read : Json.readMarked levels (payload answer) = .error failure) :
    parseWithin levels answer = .error (faultOf (payload answer) failure) := by
  simp only [parseWithin, read]

theorem parse_of_list {first : Value} {rest : List Value}
    (read : Json.readMarked levels (payload answer) = .ok (.list (first :: rest))) :
    parseWithin levels answer = .ok (first :: rest) := by
  simp only [parseWithin, read]

theorem parse_of_other {v : Value} (read : Json.readMarked levels (payload answer) = .ok v)
    (other : ∀ first rest, v ≠ .list (first :: rest)) :
    parseWithin levels answer = .error .noList := by
  simp only [parseWithin, read]

/-- An answer is good if its payload is a list that is not empty. -/
theorem parse_eq_ok_iff {values : List Value} : parseWithin levels answer = .ok values ↔
    values ≠ [] ∧ Json.readMarked levels (payload answer) = .ok (.list values) := by
  constructor
  · intro good
    simp only [parseWithin] at good
    split at good
    · cases good
    · rename_i first rest read
      cases good
      exact ⟨List.cons_ne_nil _ _, read⟩
    · cases good
  · rintro ⟨nonempty, read⟩
    obtain ⟨first, rest, rfl⟩ := List.exists_cons_of_ne_nil nonempty
    exact parse_of_list read

/-- A fault is an error in the value of the answer unless its payload is nested too deeply. -/
theorem isValueError_iff {fault : AnswerFault} (bad : parseWithin levels answer = .error fault) :
    fault.isValueError = false ↔
      ∃ failure, Json.readMarked levels (payload answer) = .error failure ∧
      failure.tooDeep = true := by
  cases read : Json.readMarked levels (payload answer) with
  | error failure =>
      rw [parse_of_error read] at bad
      cases bad
      simp [isValueError_faultOf]
  | ok v =>
      have noFailure : ¬ ∃ failure, (.ok v : Except Json.Failure Value) = .error failure ∧
          failure.tooDeep = true := by simp
      have usual : fault = .noList := by
        by_cases other : ∀ first rest, v ≠ .list (first :: rest)
        · rw [parse_of_other read other] at bad
          exact (Except.error.inj bad).symm
        · push Not at other
          obtain ⟨first, rest, rfl⟩ := other
          rw [parse_of_list read] at bad
          cases bad
      subst usual
      exact iff_of_false (by decide) noFailure

end Parse

/-- What is read as a list is found in every wrapping. -/
theorem parse_wrapped {levels : Nat} {text : String} {first : Value} {rest : List Value}
    (read : Json.read levels text = .ok (.list (first :: rest))) :
    parseWithin levels text = .ok (first :: rest) ∧
    ∀ {ahead opening : List Char} (behind : List Char),
      graveAccent ∉ ahead → opening ∈ openingFences →
        parseWithin levels (wrap ahead opening text.toList behind) = .ok (first :: rest) := by
  obtain ⟨before, core, after, textEq, blankBefore, blankAfter, listText⟩ :=
    Json.exists_listText read
  constructor
  · apply parse_of_list
    rw [payload_bare textEq blankBefore listText blankAfter]
    simpa using listText.reads [] [] (by simp) (by simp)
  · intro ahead opening behind plain opens
    obtain ⟨left, blankLeft, found⟩ :=
      payload_wrap textEq blankBefore listText blankAfter opens plain behind
    apply parse_of_list
    rw [found]
    exact listText.reads left after blankLeft blankAfter

/-- More opening brackets than levels are refused for their depth. -/
theorem parse_brackets {levels n : Nat} (tooMany : levels < n) :
    ∃ message, parseWithin levels (String.ofList (List.replicate n '[')) =
    .error (.nesting message) := by
  obtain ⟨k, rfl⟩ := Nat.exists_eq_add_of_lt tooMany
  let brackets := List.replicate (levels + 1) '[' ++ List.replicate k '['
  have whole : List.replicate (levels + k + 1) '[' = brackets := by
    change _ = List.replicate (levels + 1) '[' ++ List.replicate k '['
    rw [List.replicate_append_replicate]
    congr 1
    omega
  have plain : ∀ c ∈ brackets, c = '[' := by
    intro c cMem
    rw [← whole] at cMem
    exact List.eq_of_mem_replicate cMem
  have startsWith : brackets = '[' :: List.replicate (levels + k) '[' := by
    rw [← whole, List.replicate_succ]
  have endsWith : brackets = List.replicate (levels + k) '[' ++ ['['] := by
    rw [← whole, List.replicate_succ']
  have trimmed : Text.trimBy Text.isBlank brackets = brackets := by
    simpa using trimBy_append (c := '[') (d := '[') (by decide) (by decide) startsWith
      endsWith [] []
  have unfenced : fenced? brackets = none :=
    fenced?_eq_none_of_woven (Json.woven_of_plain fun accent => absurd (plain _ accent) (by decide))
  have bare : payload (String.ofList (List.replicate (levels + k + 1) '[')) = brackets := by
    rw [payload, String.toList_ofList, whole, trimmed, unfenced]
    rfl
  have tooDeep : Json.readMarked levels brackets =
      .error ⟨.nesting true, ('[' :: List.replicate k '[').length⟩ := by
    have solid : Json.skipBlanks brackets = brackets := by
      rw [startsWith]
      rfl
    rw [Json.readMarked_eq_readNested
      fun c cMem => by rw [plain c (List.mem_of_mem_head? cMem)]; decide, Json.readNested, solid,
        Json.readValue_brackets _ (by simp [brackets]; omega)]
    rfl
  exact ⟨_, parse_of_error (by rw [bare]; exact tooDeep)⟩

/-- A list of suggestions is read bare and in every wrapping. Nothing but the list that is the
payload is read, and a payload that is none is an error in the value, unless more lists and objects
open in it than there may be levels. -/
theorem parse_unwraps (levels : Nat) (answer : String) :
    (∀ (first : Value) (rest : List Value), Json.read levels answer = .ok (.list (first :: rest)) →
      parseWithin levels answer = .ok (first :: rest) ∧
        ∀ ahead opening behind : List Char, graveAccent ∉ ahead → opening ∈ openingFences →
          parseWithin levels (wrap ahead opening answer.toList behind) = .ok (first :: rest)) ∧
      (∀ values, parseWithin levels answer = .ok values ↔
        values ≠ [] ∧ Json.readMarked levels (payload answer) = .ok (.list values)) ∧
      ∀ fault, parseWithin levels answer = .error fault →
        (fault.isValueError = false ↔
          ∃ failure, Json.readMarked levels (payload answer) = .error failure ∧
          failure.tooDeep = true) ∧
        (fault.isValueError = false → levels < Json.openings (payload answer)) := by
  refine ⟨fun first rest read => ?_, fun values => parse_eq_ok_iff, fun fault bad => ?_⟩
  · obtain ⟨bare, wrapped⟩ := parse_wrapped read
    exact ⟨bare, fun ahead opening behind plain opens => wrapped behind plain opens⟩
  · refine ⟨isValueError_iff bad, fun unusual => ?_⟩
    obtain ⟨failure, refused, tooDeep⟩ := (isValueError_iff bad).mp unusual
    exact Json.levels_lt_openings refused tooDeep

/-- A list of one string in which an opening fence comes before a line break. -/
def fencedWord : List Char := '[' :: '"' :: (fence ++ ['j', 's', 'o', 'n', '\\', 'n', '"', ']'])

/-- The string of that list. -/
def fencedWordValue : Value := .text (String.ofList (fence ++ ['j', 's', 'o', 'n', '\n']))

theorem read_fencedWord : Json.read Json.nestingLimit (String.ofList fencedWord) = .ok
    (.list [fencedWordValue]) := by
  rw [Json.read, String.toList_ofList]
  rfl

theorem fencedWord_unwrapped :
    Json.read Json.nestingLimit (String.ofList fencedWord) = .ok (.list [fencedWordValue]) ∧
      graveAccent ∉ ['H', 'i', ':'] ∧ fence ∈ openingFences ∧
      parse (wrap ['H', 'i', ':'] fence (String.ofList fencedWord).toList fence) =
      .ok [fencedWordValue] :=
  ⟨read_fencedWord, by decide, by decide,
    ((parse_unwraps _ _).1 fencedWordValue [] read_fencedWord).2 _ _ _ (by decide) (by decide)⟩

/-- An answer of nothing but opening brackets is no list, yet its fault is no error in the value. -/
theorem brackets_no_valueError :
    ∃ fault, parse (String.ofList (List.replicate 2000 '[')) = .error fault ∧
    fault.isValueError = false := by
  obtain ⟨message, bad⟩ := parse_brackets (show Json.nestingLimit < 2000 by decide)
  exact ⟨_, bad, rfl⟩

end Outreach.Suggestion
