import Outreach.Proofs.Writes.Patches

/-!
# Patches in either order

A patch treats each field on its own, so two patches can be exchanged if they can be exchanged at
each field: where only one of them names it, and where both add whole numbers to it.
-/

namespace Outreach.Writes

namespace Patch

/-- Each field is set at most once and incremented at most once. -/
structure NamesOnce (p : Patch) : Prop where
  set : (p.set.map Prod.fst).Nodup
  inc : (p.inc.map Prod.fst).Nodup

/-- The fields that a patch sets or increments. -/
def names (p : Patch) : List String := Keyed.names p.set ++ Keyed.names p.inc

/-! ## Field by field -/

theorem fieldAfter_of_not_mem {p : Patch} {name : String} (unnamed : name ∉ p.names)
    (old : Option Value) :
    p.fieldAfter name old = .ok old := by
  obtain ⟨unset, unadded⟩ := not_or.mp (mt List.mem_append.mpr unnamed)
  rw [fieldAfter_of_none (Keyed.get?_eq_none_iff.mpr unadded), Keyed.get?_eq_none_iff.mpr unset,
    Option.none_or]

section Applied

variable {p : Patch} (once : p.NamesOnce) {document : Option Fields}
include once

theorem get?_applyTo {after : Fields} (applied : p.applyTo document = .ok after) (name : String) :
    p.fieldAfter name (Keyed.get? name (document.getD [])) = .ok (Keyed.get? name after) := by
  have added := get?_applyIncrements once.inc applied name
  rw [Keyed.get?_putAll once.set] at added
  exact added

/-- A patch can be applied to a document exactly when it can be at each field. -/
theorem exists_applyTo_iff : (∃ after, p.applyTo document = .ok after) ↔
    ∀ name, ∃ value, p.fieldAfter name (Keyed.get? name (document.getD [])) = .ok value := by
  constructor
  · rintro ⟨after, applied⟩ name
    exact ⟨_, get?_applyTo once applied name⟩
  · intro each
    apply exists_applyTo once.set once.inc
    rintro ⟨name, delta⟩ entryMem
    obtain ⟨value, valueEq⟩ := each name
    have effectEq := effect_of_fieldAfter valueEq
    rw [effect, Keyed.get?_of_mem once.inc entryMem] at effectEq
    exact ⟨_, effectEq⟩

end Applied

/-! ## One after the other -/

/-- Applies a patch and then another. -/
def inTurn (p q : Patch) (document : Option Fields) : Except AddFault Fields := do
  q.applyTo (some (← p.applyTo document))

variable {p q : Patch} {document : Option Fields}

theorem inTurn_eq_ok_iff {after : Fields} : inTurn p q document = .ok after ↔
    ∃ middle, p.applyTo document = .ok middle ∧ q.applyTo (some middle) = .ok after :=
    bind_eq_ok_iff

section InTurn

variable (pOnce : p.NamesOnce) (qOnce : q.NamesOnce)
include pOnce qOnce

theorem get?_inTurn {after : Fields} (applied : inTurn p q document = .ok after) (name : String) :
    (p.fieldAfter name (Keyed.get? name (document.getD [])) >>= q.fieldAfter name) =
      .ok (Keyed.get? name after) := by
  obtain ⟨middle, first, second⟩ := inTurn_eq_ok_iff.mp applied
  exact bind_eq_ok_iff.mpr ⟨_, get?_applyTo pOnce first name, get?_applyTo qOnce second name⟩

theorem exists_inTurn_iff : (∃ after, inTurn p q document = .ok after) ↔ ∀ name, ∃ value,
    (p.fieldAfter name (Keyed.get? name (document.getD [])) >>= q.fieldAfter name) = .ok value := by
  constructor
  · rintro ⟨after, applied⟩ name
    exact ⟨_, get?_inTurn pOnce qOnce applied name⟩
  · intro each
    have firstEach (name : String) :
        ∃ value, p.fieldAfter name (Keyed.get? name (document.getD [])) = .ok value := by
      obtain ⟨value, valueEq⟩ := each name
      obtain ⟨between, betweenEq, -⟩ := bind_eq_ok_iff.mp valueEq
      exact ⟨between, betweenEq⟩
    obtain ⟨middle, first⟩ := (exists_applyTo_iff pOnce).mpr firstEach
    have secondEach (name : String) :
        ∃ value, q.fieldAfter name (Keyed.get? name ((some middle).getD [])) = .ok value := by
      obtain ⟨value, valueEq⟩ := each name
      rw [get?_applyTo pOnce first name] at valueEq
      exact ⟨value, valueEq⟩
    obtain ⟨after, second⟩ := (exists_applyTo_iff qOnce).mpr secondEach
    exact ⟨after, inTurn_eq_ok_iff.mpr ⟨middle, first, second⟩⟩

end InTurn

/-- Two patches can be exchanged at a document: both orders succeed together, and they
give the same fields. -/
structure Exchange (p q : Patch) (document : Option Fields) : Prop where
  together : (∃ after, inTurn p q document = .ok after) ↔ ∃ after, inTurn q p document = .ok after
  same : ∀ after other, inTurn p q document = .ok after → inTurn q p document = .ok other →
    ∀ name, Keyed.get? name after = Keyed.get? name other

/-- Patches that can be exchanged at each field can be exchanged. -/
theorem exchange_of_fields (pOnce : p.NamesOnce) (qOnce : q.NamesOnce)
    (fields : ∀ name, (p.fieldAfter name (Keyed.get? name (document.getD [])) >>=
      q.fieldAfter name) =
      (q.fieldAfter name (Keyed.get? name (document.getD [])) >>= p.fieldAfter name)) :
    Exchange p q document where
  together := by
    rw [exists_inTurn_iff pOnce qOnce, exists_inTurn_iff qOnce pOnce]
    simp only [fields]
  same after other applied otherApplied name := by
    have here := get?_inTurn pOnce qOnce applied name
    rw [fields, get?_inTurn qOnce pOnce otherApplied name] at here
    exact (Except.ok.inj here).symm

/-- Where only one of two patches names a field, their order makes no difference to it. -/
theorem fields_exchange_of_not_mem {name : String} (apart : name ∉ p.names ∨ name ∉ q.names)
    (old : Option Value) :
    (p.fieldAfter name old >>= q.fieldAfter name) =
    (q.fieldAfter name old >>= p.fieldAfter name) := by
  rcases apart with unnamed | unnamed
  · rw [fieldAfter_of_not_mem unnamed old]
    change q.fieldAfter name old = _
    cases q.fieldAfter name old with
    | error fault => rfl
    | ok value => exact (fieldAfter_of_not_mem unnamed value).symm
  · rw [fieldAfter_of_not_mem unnamed old]
    change _ = p.fieldAfter name old
    cases p.fieldAfter name old with
    | error fault => rfl
    | ok value => exact fieldAfter_of_not_mem unnamed value

/-! ## Whole increments -/

/-- The patch does nothing but add whole numbers. -/
structure AddsWhole (p : Patch) : Prop where
  unset : p.set = []
  whole : ∀ name delta, Keyed.get? name p.inc = some delta → ∃ i, delta.whole? = some i

/-- The number that increments of a field start from: zero if it is absent or blank, else the whole
number in it. -/
def startOf? (old : Option Value) : Option Int :=
  if (old.getD .null).isBlank then some 0 else (old.getD .null).whole?

theorem startOf?_int (i : Int) : startOf? (some (.int i)) = some i := by
  by_cases zero : i = 0 <;> simp [startOf?, Value.isBlank, Value.whole?, zero]

theorem increase_whole {old : Option Value} {delta : Value} {start i : Int}
    (starts : startOf? old = some start)
    (whole : delta.whole? = some i) : (old.getD .null).increase delta = .ok (.int (start + i)) := by
  have add_whole {value : Value} (wholeValue : value.whole? = some start) :
      value.add delta = .ok (.int (start + i)) := by
    cases value <;> simp_all [Value.add, Value.addNumbers, Value.whole?]
  unfold startOf? at starts
  rw [Value.increase]
  split at starts
  · rename_i blank
    rw [if_pos blank]
    exact add_whole (by simpa [Value.whole?] using starts)
  · rename_i full
    rw [if_neg full]
    exact add_whole starts

theorem fieldAfter_whole {name : String} {old : Option Value} {delta : Value} {start i : Int}
    (unset : p.set = [])
    (found : Keyed.get? name p.inc = some delta) (starts : startOf? old = some start)
    (whole : delta.whole? = some i) : p.fieldAfter name old = .ok (some (.int (start + i))) := by
  rw [fieldAfter_of_some found, unset, Keyed.get?_nil, Option.none_or, increase_whole starts whole]
  rfl

theorem fieldsAfter_whole {name : String} {old : Option Value} {first second : Value}
    {start i j : Int}
    (pUnset : p.set = []) (qUnset : q.set = []) (pFound : Keyed.get? name p.inc = some first)
    (qFound : Keyed.get? name q.inc = some second) (starts : startOf? old = some start)
    (firstWhole : first.whole? = some i) (secondWhole : second.whole? = some j) :
    (p.fieldAfter name old >>= q.fieldAfter name) = .ok (some (.int (start + i + j))) := by
  rw [fieldAfter_whole pUnset pFound starts firstWhole]
  exact fieldAfter_whole qUnset qFound (startOf?_int _) secondWhole

theorem AddsWhole.exists_of_mem (adds : p.AddsWhole) {name : String} (named : name ∈ p.names) :
    ∃ delta i, Keyed.get? name p.inc = some delta ∧ delta.whole? = some i := by
  have added : name ∈ Keyed.names p.inc := by simpa [names, adds.unset, Keyed.names] using named
  cases found : Keyed.get? name p.inc with
  | none => exact absurd added (Keyed.get?_eq_none_iff.mp found)
  | some delta =>
      obtain ⟨i, whole⟩ := adds.whole name delta found
      exact ⟨delta, i, rfl, whole⟩

/-- In either order a field that both patches name ends as its old number, or
zero, and both increments. -/
def SumsShared (p q : Patch) (document : Option Fields) : Prop :=
  ∀ name first second, Keyed.get? name p.inc = some first → Keyed.get? name q.inc = some second →
    ∀ start i j, startOf? (Keyed.get? name (document.getD [])) = some start →
    first.whole? = some i →
      second.whole? = some j →
      (∀ after, inTurn p q document = .ok after →
        Keyed.get? name after = some (.int (start + (i + j)))) ∧
      ∀ after, inTurn q p document = .ok after →
      Keyed.get? name after = some (.int (start + (i + j)))

/-- What a patch has done to the fields of a document. -/
structure Changes (p : Patch) (document : Option Fields) (after : Fields) : Prop where
  added : ∀ name delta, Keyed.get? name p.inc = some delta →
    let base := ((Keyed.get? name p.set).or (Keyed.get? name (document.getD []))).getD .null
    ∃ sum, (if base.isBlank then Value.int 0 else base).add delta = .ok sum ∧
    Keyed.get? name after = some sum
  set : ∀ name value, Keyed.get? name p.inc = none → Keyed.get? name p.set = some value →
    Keyed.get? name after = some value
  kept : ∀ name, name ∉ p.names → Keyed.get? name after = Keyed.get? name (document.getD [])

theorem changes_of_applyTo (once : p.NamesOnce) {after : Fields}
    (applied : p.applyTo document = .ok after) :
    p.Changes document after where
  added name delta found := by
    obtain ⟨sum, sumEq, after_eq⟩ := exists_sum_of_fieldAfter found (get?_applyTo once applied name)
    exact ⟨sum, sumEq, after_eq⟩
  set name value unadded found := by
    have here := get?_applyTo once applied name
    rw [fieldAfter_of_none unadded, found, Option.some_or] at here
    exact (Except.ok.inj here).symm
  kept name unnamed := by
    have here := get?_applyTo once applied name
    rw [fieldAfter_of_not_mem unnamed] at here
    exact (Except.ok.inj here).symm

theorem exchange_of_whole (pOnce : p.NamesOnce) (qOnce : q.NamesOnce) (pAdds : p.AddsWhole)
    (qAdds : q.AddsWhole) (starts : ∀ name, name ∈ p.names → name ∈ q.names →
      (startOf? (Keyed.get? name (document.getD []))).isSome = true) : Exchange p q document := by
  refine exchange_of_fields pOnce qOnce fun name => ?_
  by_cases apart : name ∉ p.names ∨ name ∉ q.names
  · exact fields_exchange_of_not_mem apart _
  · obtain ⟨pNamed, qNamed⟩ := not_or.mp apart
    obtain ⟨first, i, pFound, firstWhole⟩ := pAdds.exists_of_mem (not_not.mp pNamed)
    obtain ⟨second, j, qFound, secondWhole⟩ := qAdds.exists_of_mem (not_not.mp qNamed)
    obtain ⟨start, startEq⟩ :=
      Option.isSome_iff_exists.mp (starts name (not_not.mp pNamed) (not_not.mp qNamed))
    rw [fieldsAfter_whole pAdds.unset qAdds.unset pFound qFound startEq firstWhole secondWhole,
      fieldsAfter_whole qAdds.unset pAdds.unset qFound pFound startEq secondWhole firstWhole,
      Int.add_right_comm]

theorem sumsShared_of_whole (pOnce : p.NamesOnce) (qOnce : q.NamesOnce) (pAdds : p.AddsWhole)
    (qAdds : q.AddsWhole) : SumsShared p q document := by
  intro name first second pFound qFound start i j starts firstWhole secondWhole
  constructor
  · intro after applied
    have here := get?_inTurn pOnce qOnce applied name
    rw [fieldsAfter_whole pAdds.unset qAdds.unset pFound qFound starts firstWhole secondWhole,
      Int.add_assoc] at here
    exact (Except.ok.inj here).symm
  · intro after applied
    have here := get?_inTurn qOnce pOnce applied name
    rw [fieldsAfter_whole qAdds.unset pAdds.unset qFound pFound starts secondWhole firstWhole,
      Int.add_assoc, Int.add_comm j i] at here
    exact (Except.ok.inj here).symm

/-- Patches of different fields can be exchanged, and so can whole increments where the
fields of both can be added to; these add up. Each patch that is applied changes the fields
that it names, and no other. -/
theorem independent_patches_exchange (pOnce : p.NamesOnce) (qOnce : q.NamesOnce)
    (document : Option Fields) :
    ((∀ name, name ∈ p.names → name ∉ q.names) → Exchange p q document) ∧
    (p.AddsWhole → q.AddsWhole →
      (∀ name, name ∈ p.names → name ∈ q.names →
        (startOf? (Keyed.get? name (document.getD []))).isSome = true) →
      Exchange p q document ∧ SumsShared p q document) ∧
    ∀ after, p.applyTo document = .ok after → p.Changes document after := by
  refine ⟨fun apart => ?_, fun pAdds qAdds starts => ?_, fun after => changes_of_applyTo pOnce⟩
  · refine exchange_of_fields pOnce qOnce fun name => fields_exchange_of_not_mem ?_ _
    by_cases named : name ∈ p.names
    · exact .inr (apart name named)
    · exact .inl named
  · exact ⟨exchange_of_whole pOnce qOnce pAdds qAdds starts,
      sumsShared_of_whole pOnce qOnce pAdds qAdds⟩

/-- A patch that adds some visits. -/
def visits (i : Int) : Patch := ofIncrements [("visits", .int i)]

theorem visits_once (i : Int) : (visits i).NamesOnce :=
  ⟨by simp [visits, ofIncrements], by simp [visits, ofIncrements]⟩

theorem visits_adds (i : Int) : (visits i).AddsWhole where
  unset := rfl
  whole name delta found := by
    rw [visits, ofIncrements, Keyed.get?_cons] at found
    split at found
    · exact ⟨i, by rw [← Option.some.inj found]; rfl⟩
    · cases found

/-- A name and two visits reach a customer with three visits in any order. -/
theorem visits_reach_in_any_order :
    let customer : Option Fields := some [("visits", .int 3)]
    let renamed : Patch := ofFields [("name", .text "Ann")]
    Exchange renamed (visits 1) customer ∧ Exchange (visits 1) (visits 2) customer ∧
      (∃ after, inTurn (visits 2) (visits 1) customer = .ok after ∧
        Keyed.get? "visits" after = some (.int 6)) ∧
      renamed.Changes customer [("visits", .int 3), ("name", .text "Ann")] := by
  intro customer renamed
  have renamedOnce : renamed.NamesOnce := ⟨by decide, by decide⟩
  obtain ⟨exchange_apart, -, changes⟩ :=
    independent_patches_exchange renamedOnce (visits_once 1) customer
  have apart : ∀ name, name ∈ renamed.names → name ∉ (visits 1).names := by
    simp [renamed, names, visits, ofFields, ofIncrements, Keyed.names]
  obtain ⟨-, exchange_whole, -⟩ :=
    independent_patches_exchange (visits_once 1) (visits_once 2) customer
  have starts : ∀ name, name ∈ (visits 1).names → name ∈ (visits 2).names →
      (startOf? (Keyed.get? name (customer.getD []))).isSome = true := by
    intro name named _
    obtain rfl : name = "visits" := by simpa [names, visits, ofIncrements, Keyed.names] using named
    rfl
  obtain ⟨exchange, sums⟩ := exchange_whole (visits_adds 1) (visits_adds 2) starts
  have applied : inTurn (visits 2) (visits 1) customer = .ok [("visits", .int 6)] := rfl
  have summed := sums "visits" (.int 1) (.int 2) rfl rfl 3 1 2 rfl rfl rfl
  exact ⟨exchange_apart apart, exchange, ⟨_, applied, summed.2 _ applied⟩, changes _ rfl⟩

end Patch

end Outreach.Writes
