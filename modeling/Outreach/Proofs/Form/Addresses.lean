import Outreach.Form.Requests
import Outreach.Proofs.Form.Checks
import Outreach.Proofs.Text.Encoding
import Outreach.Proofs.Text.Patterns

/-!
# Addresses of customers

The pattern of an address can be read in several ways, since a point is also a character of the
domain. Which texts have such a reading can be said without any: one sign `@` with something in
front, nothing blank, and a point inside of what follows. A text is seen as its code points here, so
that halves of surrogate pairs count too.
-/

namespace Outreach.Form

open Text (CodePoint isWhiteSpace)
open Text.Pattern

/-! ## The language of the pattern -/

/-- A text that looks like an address: no white space, one sign `@` that is not the first character,
and behind it a point that is neither first nor last. -/
structure LooksLikeAddress (points : List CodePoint) : Prop where
  noBlank : ∀ c, .char c ∈ points → isWhiteSpace c = false
  oneSign : points.count (.char '@') = 1
  parts : ∃ name domain, points = name ++ .char '@' :: domain ∧ name ≠ [] ∧
    ∃ i, 0 < i ∧ i + 1 < domain.length ∧ domain[i]? = some (.char '.')

section Language

variable {points domain : List CodePoint}

theorem isAddressPoint_iff {p : CodePoint} :
    isAddressPoint p = true ↔ p ≠ .char '@' ∧ ∀ c, p = .char c → isWhiteSpace c = false := by
  cases p <;> simp [isAddressPoint]

/-- A way to read an address. -/
theorem addressPattern_iff : addressPattern.occursIn points = true ↔ ∃ name before after,
    points = name ++ .char '@' :: (before ++ .char '.' :: after) ∧
      name ≠ [] ∧ before ≠ [] ∧ after ≠ [] ∧
      ∀ p ∈ name ++ before ++ after, isAddressPoint p = true := by
  rw [addressPattern, occursIn_start]
  simp only [readsAt_run, readsAt_one, readsAt_finish, readsAt_nil, decide_eq_true_eq, and_true]
  constructor
  · rintro ⟨name, _, rfl, nameSome, nameAllowed, _, _, rfl, rfl, before, _, rfl, beforeSome,
      beforeAllowed, _, _, rfl, rfl, after, _, rfl, afterSome, afterAllowed, rfl⟩
    refine ⟨name, before, after, by simp, nameSome, beforeSome, afterSome, ?_⟩
    simp only [List.forall_mem_append]
    exact ⟨⟨nameAllowed, beforeAllowed⟩, afterAllowed⟩
  · rintro ⟨name, before, after, rfl, nameSome, beforeSome, afterSome, allowed⟩
    simp only [List.forall_mem_append] at allowed
    obtain ⟨⟨nameAllowed, beforeAllowed⟩, afterAllowed⟩ := allowed
    exact ⟨name, _, rfl, nameSome, nameAllowed, .char '@', _, rfl, rfl, before, _, rfl, beforeSome,
      beforeAllowed, .char '.', _, rfl, rfl, after, [], by simp, afterSome, afterAllowed, rfl⟩

/-- A point inside of a text is what stands between two pieces of it. -/
theorem exists_inner_point_iff :
    (∃ i, 0 < i ∧ i + 1 < domain.length ∧ domain[i]? = some (.char '.')) ↔
      ∃ before after, domain = before ++ .char '.' :: after ∧ before ≠ [] ∧ after ≠ [] := by
  constructor
  · rintro ⟨i, notFirst, notLast, point⟩
    obtain ⟨inside, pointEq⟩ := List.getElem?_eq_some_iff.mp point
    refine ⟨domain.take i, domain.drop (i + 1), ?_, ?_, ?_⟩
    · rw [← pointEq, ← List.drop_eq_getElem_cons inside, List.take_append_drop]
    · exact List.ne_nil_of_length_pos (by rw [List.length_take]; omega)
    · exact List.ne_nil_of_length_pos (by rw [List.length_drop]; omega)
  · rintro ⟨before, after, rfl, beforeSome, afterSome⟩
    have first := List.length_pos_iff.mpr beforeSome
    have last := List.length_pos_iff.mpr afterSome
    exact ⟨before.length, first, by simp; omega, by simp⟩

/-- The pattern reads what looks like an address, and nothing else. -/
theorem addressPattern_occursIn_iff :
    addressPattern.occursIn points = true ↔ LooksLikeAddress points := by
  rw [addressPattern_iff]
  constructor
  · rintro ⟨name, before, after, rfl, nameSome, beforeSome, afterSome, allowed⟩
    have inner := exists_inner_point_iff.mpr ⟨before, after, rfl, beforeSome, afterSome⟩
    simp only [isAddressPoint_iff] at allowed
    refine ⟨fun c cMem => ?_, ?_, name, _, rfl, nameSome, inner⟩
    · simp only [List.mem_append, List.mem_cons] at cMem
      rcases cMem with inName | isSign | inBefore | isPoint | inAfter
      · exact (allowed (.char c) (by simp [inName])).2 c rfl
      · cases isSign
        decide
      · exact (allowed (.char c) (by simp [inBefore])).2 c rfl
      · cases isPoint
        decide
      · exact (allowed (.char c) (by simp [inAfter])).2 c rfl
    · have noSign : (name ++ before ++ after).count (.char '@') = 0 :=
        List.count_eq_zero.mpr fun sign => (allowed _ sign).1 rfl
      simp only [List.count_append, List.count_cons] at noSign ⊢
      simp
      omega
  · rintro ⟨noBlank, oneSign, name, domain, rfl, nameSome, inner⟩
    obtain ⟨before, after, rfl, beforeSome, afterSome⟩ := exists_inner_point_iff.mp inner
    refine ⟨name, before, after, rfl, nameSome, beforeSome, afterSome, fun p pMem => ?_⟩
    rw [isAddressPoint_iff]
    constructor
    · rintro rfl
      have some : 0 < (name ++ before ++ after).count (.char '@') := List.count_pos_iff.mpr pMem
      simp only [List.count_append, List.count_cons] at some oneSign
      simp at oneSign
      omega
    · rintro c rfl
      apply noBlank
      simp only [List.mem_append, List.mem_cons] at pMem ⊢
      tauto

end Language

/-- An address is accepted if it looks like one, is short and has an encoding. -/
structure Acceptable (points : List CodePoint) : Prop where
  looks : LooksLikeAddress points
  short : points.length ≤ 255
  encodes : ∀ p ∈ points, p.isHalf = false

/-- Nothing keeps a text from being an address exactly if it is acceptable as one. -/
theorem addressProblem?_eq_none_iff {points : List CodePoint} :
    addressProblem? points = none ↔ Acceptable points := by
  have encodes_iff : points.any CodePoint.isHalf = false ↔ ∀ p ∈ points, p.isHalf = false := by simp
  constructor
  · intro fine
    unfold addressProblem? at fine
    split at fine
    · cases fine
    · rename_i noHalf
      split at fine
      · cases fine
      · split at fine
        · rename_i short reads
          exact ⟨addressPattern_occursIn_iff.mp reads, by omega,
            encodes_iff.mp (by simpa using noHalf)⟩
        · cases fine
  · rintro ⟨looks, short, encodes⟩
    simp [addressProblem?, encodes_iff.mpr encodes, addressPattern_occursIn_iff.mpr looks,
      Nat.not_lt.mpr short]

/-! ## Where problems are -/

namespace Checked

variable {α β : Type}

theorem problems_seq (f : Checked (α → β)) (x : Checked α) :
    (f <*> x).problems = f.problems ++ x.problems := by
  change (Checked.seq f fun _ => x).problems = _
  cases f <;> cases x <;> simp [Checked.seq, problems]

theorem problems_map (g : α → β) (x : Checked α) : (g <$> x).problems = x.problems := by
  change (Checked.map g x).problems = _
  cases x <;> rfl

end Checked

/-- A check finds problems at its own place only. -/
def StaysInPlace {α : Type} (check : Check α) : Prop :=
  ∀ place value, ∀ problem ∈ (check place value).problems, problem.path = place.path

theorem staysInPlace_textBetween (least : Nat) (most : Option Nat) :
    StaysInPlace (textBetween least most) := by
  intro place value problem problemMem
  unfold textBetween at problemMem
  split at problemMem
  · split at problemMem
    · rw [List.mem_singleton.mp problemMem]
    · split at problemMem
      · rw [List.mem_singleton.mp problemMem]
      · split at problemMem
        · rw [List.mem_singleton.mp problemMem]
        · cases problemMem
  · rw [List.mem_singleton.mp problemMem]

namespace StaysInPlace

variable {α : Type} {check : Check α} (stays : StaysInPlace check)
include stays

theorem orNull : StaysInPlace (orNull check) := by
  intro place value problem problemMem
  unfold Form.orNull at problemMem
  split at problemMem
  · cases problemMem
  · rw [Checked.problems_map] at problemMem
    exact stays place _ problem problemMem

theorem required (entries : Entries) (name : String) :
    ∀ problem ∈ (entries.required name check).problems,
      problem.path = entries.place.path ++ [name] := by
  intro problem problemMem
  unfold Entries.required at problemMem
  split at problemMem
  · exact stays _ _ problem problemMem
  · rw [List.mem_singleton.mp problemMem]
    rfl

theorem optional (entries : Entries) (name : String) :
    ∀ problem ∈ (entries.optional name check).problems,
      problem.path = entries.place.path ++ [name] := by
  intro problem problemMem
  unfold Entries.optional Entries.withDefault at problemMem
  split at problemMem
  · exact stays.orNull _ _ problem problemMem
  · cases problemMem

end StaysInPlace

section Entries

variable {α : Type} {entryName : String} {check : Check α}

theorem required_eq_valid_iff (entries : Entries) {result : α} :
    entries.required entryName check = .valid result ↔
    ∃ value, Keyed.get? entryName entries.fields = some value ∧
      check (entries.place.step entryName) value = .valid result := by
  unfold Entries.required
  cases Keyed.get? entryName entries.fields <;> simp [refuse]

theorem optional_eq_valid_iff (entries : Entries) {result : Option α} :
    entries.optional entryName check = .valid result ↔
    (Keyed.get? entryName entries.fields = none ∧ result = none) ∨
      ∃ value, Keyed.get? entryName entries.fields = some value ∧
        orNull check (entries.place.step entryName) value = .valid result := by
  unfold Entries.optional Entries.withDefault
  cases Keyed.get? entryName entries.fields <;> simp [eq_comm]

end Entries

/-! ## Addresses that are accepted -/

variable {place : Place} {fields : Fields} {e : String}

/-- A text is taken for an address as it is, or refused at its place. -/
theorem address_cases (place : Place) (e : String) :
    (Acceptable (Text.codePoints e) ∧ address place (.text e) = .valid e) ∨
      (¬Acceptable (Text.codePoints e) ∧
        ∃ kind, addressProblem? (Text.codePoints e) = some kind ∧
          address place (.text e) = refuse kind place (.text e)) := by
  simp only [← addressProblem?_eq_none_iff, address]
  cases addressProblem? (Text.codePoints e) <;> simp

theorem address_eq_valid_iff (place : Place) {s : String} :
    address place (.text e) = .valid s ↔ Acceptable (Text.codePoints e) ∧ s = e := by
  rcases address_cases place e with ⟨acceptable, valid⟩ | ⟨unacceptable, kind, -, refused⟩
  · simp [valid, acceptable, eq_comm]
  · simp [refused, unacceptable, refuse]

theorem exists_problem_address_iff (place : Place) :
    (∃ problem ∈ (address place (.text e)).problems, problem.path = place.path) ↔
      ¬Acceptable (Text.codePoints e) := by
  rcases address_cases place e with ⟨acceptable, valid⟩ | ⟨unacceptable, kind, -, refused⟩
  · simp [valid, acceptable, Checked.problems]
  · simp [refused, unacceptable, refuse, Checked.problems]

section Customer

variable (place : Place) (fields : Fields) (e : String)

/-- What is sent for a customer with an address, and with whatever else. -/
abbrev withAddress : Value := .map (Keyed.put "email" (.text e) fields)

/-- The entries of what is sent. -/
abbrev addressed : Entries := ⟨place, withAddress fields e, Keyed.put "email" (.text e) fields⟩

theorem required_email : (addressed place fields e).required "email" address =
    address (place.step "email") (.text e) := by
  rw [Entries.required, Keyed.get?_put_self]

theorem problems_newCustomer : (NewCustomer.check place (withAddress fields e)).problems =
    ((addressed place fields e).required "name" name).problems ++
      (address (place.step "email") (.text e)).problems ++
      ((addressed place fields e).optional "phone" (textBetween 0 (some 50))).problems := by
  rw [← required_email, ← Checked.problems_map NewCustomer.mk, ← Checked.problems_seq,
    ← Checked.problems_seq]
  rfl

/-- Nothing is wrong with an address exactly if it is acceptable. -/
theorem no_problem_at_email_iff :
    (∀ problem ∈ (NewCustomer.check place (withAddress fields e)).problems,
      problem.path ≠ place.path ++ ["email"]) ↔ Acceptable (Text.codePoints e) := by
  rw [problems_newCustomer, ← not_iff_not, ← exists_problem_address_iff (place.step "email")]
  simp only [not_forall, not_not, List.mem_append, exists_prop]
  constructor
  · rintro ⟨problem, (ofName | ofEmail) | ofPhone, path⟩
    · have named := (staysInPlace_textBetween 1 (some 255)).required _ _ problem ofName
      simp [named] at path
    · exact ⟨problem, ofEmail, path⟩
    · have phoned := (staysInPlace_textBetween 0 (some 50)).optional _ _ problem ofPhone
      simp [phoned] at path
  · rintro ⟨problem, ofEmail, path⟩
    exact ⟨problem, .inl (.inr ofEmail), path⟩

theorem newCustomer_eq_valid_iff {c : NewCustomer} :
    NewCustomer.check place (withAddress fields e) = .valid c ↔
      (∃ value, Keyed.get? "name" fields = some value ∧
        name (place.step "name") value = .valid c.name) ∧
      (Acceptable (Text.codePoints e) ∧ c.email = e) ∧
      ((Keyed.get? "phone" fields = none ∧ c.phone = none) ∨
        ∃ value, Keyed.get? "phone" fields = some value ∧
        orNull (textBetween 0 (some 50)) (place.step "phone") value = .valid c.phone) := by
  have nameEq : Keyed.get? "name" (Keyed.put "email" (.text e) fields) = Keyed.get? "name" fields :=
    Keyed.get?_put_of_ne (by decide) _ _
  have phoneEq : Keyed.get? "phone" (Keyed.put "email" (.text e) fields) =
      Keyed.get? "phone" fields :=
    Keyed.get?_put_of_ne (by decide) _ _
  rw [← address_eq_valid_iff (place.step "email"), ← required_email, ← nameEq, ← phoneEq,
    ← required_eq_valid_iff (addressed place fields e),
    ← optional_eq_valid_iff (addressed place fields e)]
  constructor
  · intro valid
    obtain ⟨_, phone, before, phoneValid, rfl⟩ := Checked.seq_eq_valid valid
    obtain ⟨_, email, first, emailValid, rfl⟩ := Checked.seq_eq_valid before
    obtain ⟨name, nameValid, rfl⟩ := Checked.map_eq_valid first
    exact ⟨nameValid, emailValid, phoneValid⟩
  · rintro ⟨nameValid, emailValid, phoneValid⟩
    change _ <$> (addressed place fields e).required "name" name <*> _ <*> _ = _
    rw [nameValid, emailValid, phoneValid]
    rfl

/-- An address is good for a customer exactly if it is acceptable. This holds of every row of code
points as an address, and in what is sent for a customer of every address without the characters
that serve as stand-ins: nothing is wrong at its place, and it is kept as it is, so that what is
good with another address is good with this one. -/
theorem newCustomer_accepts_address_iff (points : List CodePoint) :
    (addressProblem? points = none ↔ Acceptable points) ∧
    ((∀ c, .char c ∈ points → Text.isStandIn c = false) →
      ((∀ problem ∈ (NewCustomer.check place
          (withAddress fields (Text.ofCodePoints points))).problems,
        problem.path ≠ place.path ++ ["email"]) ↔ Acceptable points) ∧
      ∀ other c, NewCustomer.check place (withAddress fields other) = .valid c →
        (NewCustomer.check place (withAddress fields (Text.ofCodePoints points)) =
          .valid { c with email := Text.ofCodePoints points } ↔ Acceptable points)) := by
  refine ⟨addressProblem?_eq_none_iff, fun genuine => ?_⟩
  have same := Text.codePoints_ofCodePoints genuine
  refine ⟨?_, fun other c good => ?_⟩
  · rw [no_problem_at_email_iff, same]
  · obtain ⟨nameGood, -, phoneGood⟩ := (newCustomer_eq_valid_iff place fields other).mp good
    rw [newCustomer_eq_valid_iff, same]
    exact ⟨fun ⟨_, ⟨acceptable, _⟩, _⟩ => acceptable,
      fun acceptable => ⟨nameGood, ⟨acceptable, rfl⟩, phoneGood⟩⟩

end Customer

/-- The code points of a text that is written in characters only. -/
def spelled (s : String) : List CodePoint := s.toList.map .char

@[simp]
theorem ofCodePoints_spelled (s : String) : Text.ofCodePoints (spelled s) = s := by
  simp [Text.ofCodePoints, spelled, Function.comp_def, CodePoint.toChar]

theorem isStandIn_of_mem_spelled {s : String} (plain : Text.hasLoneSurrogate s = false) (c : Char)
    (cMem : .char c ∈ spelled s) : Text.isStandIn c = false :=
  Text.hasLoneSurrogate_eq_false_iff.mp plain c (by simpa [spelled] using cMem)

/-- An address whose domain begins with a point is taken in place of another, and one with a line
feed behind it is not. -/
theorem ann_changes_address :
    (∀ c, .char c ∈ spelled "a@.b.c" → Text.isStandIn c = false) ∧
    (∀ c, .char c ∈ spelled "a@b.c\n" → Text.isStandIn c = false) ∧
    NewCustomer.check .top (withAddress [("name", .text "Ann")] "ann@b.c") =
      .valid ⟨"Ann", "ann@b.c", none⟩ ∧
    NewCustomer.check .top (withAddress [("name", .text "Ann")] "a@.b.c") =
      .valid ⟨"Ann", "a@.b.c", none⟩ ∧
    NewCustomer.check .top (withAddress [("name", .text "Ann")] "a@b.c\n") ≠
      .valid ⟨"Ann", "a@b.c\n", none⟩ := by
  have pointedGenuine := isStandIn_of_mem_spelled (s := "a@.b.c") (by decide +kernel)
  have brokenGenuine := isStandIn_of_mem_spelled (s := "a@b.c\n") (by decide +kernel)
  have plain : Acceptable (Text.codePoints "ann@b.c") :=
    addressProblem?_eq_none_iff.mp (by decide +kernel)
  have pointed : Acceptable (spelled "a@.b.c") := addressProblem?_eq_none_iff.mp (by decide +kernel)
  have broken : ¬Acceptable (spelled "a@b.c\n") := fun acceptable =>
    absurd (acceptable.looks.noBlank '\n' (by decide +kernel)) (by decide +kernel)
  have named : name (Place.top.step "name") (.text "Ann") = .valid "Ann" := by
    have encodes : Text.hasLoneSurrogate "Ann" = false := by decide
    have length : "Ann".length = 3 := by decide
    simp [name, textBetween, encodes, length]
  have good : NewCustomer.check .top (withAddress [("name", .text "Ann")] "ann@b.c") =
      .valid ⟨"Ann", "ann@b.c", none⟩ :=
    (newCustomer_eq_valid_iff _ _ _).mpr ⟨⟨_, rfl, named⟩, ⟨plain, rfl⟩, .inl ⟨rfl, rfl⟩⟩
  have taken := ((newCustomer_accepts_address_iff .top [("name", .text "Ann")]
    (spelled "a@.b.c")).2 pointedGenuine).2 _ _ good
  have refused := ((newCustomer_accepts_address_iff .top [("name", .text "Ann")]
    (spelled "a@b.c\n")).2 brokenGenuine).2 _ _ good
  rw [ofCodePoints_spelled] at taken refused
  exact ⟨pointedGenuine, brokenGenuine, good, taken.mpr pointed, mt refused.mp broken⟩

/-- A text with half of a surrogate pair may look like an address. It is refused
because it has no encoding. -/
theorem address_with_half_refused :
    let points := spelled "a@b.c" ++ [.half 0]
    LooksLikeAddress points ∧ points.length ≤ 255 ∧ addressProblem? points = some .stringUnicode ∧
      ∃ e, Text.codePoints e = points ∧
        ∃ problem ∈ (NewCustomer.check .top (withAddress [("name", .text "Ann")] e)).problems,
          problem.path = ["email"] ∧ problem.kind = .stringUnicode := by
  intro points
  have same : Text.codePoints (Text.ofCodePoints points) = points := by decide +kernel
  have lone : addressProblem? points = some .stringUnicode := by decide +kernel
  refine ⟨addressPattern_occursIn_iff.mp (by decide +kernel), by decide +kernel, lone, _, same, ?_⟩
  have refused : address (Place.top.step "email") (.text (Text.ofCodePoints points)) =
      refuse .stringUnicode (Place.top.step "email") (.text (Text.ofCodePoints points)) := by
    simp [address, same, lone]
  rw [problems_newCustomer, refused]
  exact ⟨_, List.mem_append_left _ (List.mem_append_right _ (List.mem_singleton.mpr rfl)), rfl, rfl⟩

end Outreach.Form
