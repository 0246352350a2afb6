import Outreach.Proofs.Keyed
import Outreach.Proofs.Outcome
import Outreach.Writes.Report

/-!
# Parts of a patch

A patch treats each name on its own: what it does to the fields of some names is what its
entries of these names do alone. So a patch succeeds exactly when the part on some names and
the part on all others do.
-/

namespace Outreach.Writes

/-- The value of a name; null when it has none. -/
def valueOf (name : String) (fields : Fields) : Value := (Keyed.get? name fields).getD .null

namespace Patch

variable (keep : String → Bool)

/-- The part of a patch on the names that are kept. -/
def only (keep : String → Bool) (p : Patch) : Patch :=
  ⟨p.set.filter (keep ·.1), p.inc.filter (keep ·.1)⟩

theorem only_only (keep : String → Bool) (p : Patch) : (p.only keep).only keep = p.only keep := by
  simp [only, List.filter_filter]

/-- Increments that succeed do so on a part of the names. -/
theorem applyIncrements_only {inc document after : Fields}
    (applied : applyIncrements inc document = .ok after) :
    applyIncrements (inc.filter (keep ·.1)) (document.filter (keep ·.1)) =
      .ok (after.filter (keep ·.1)) := by
  induction inc generalizing document with
  | nil =>
      obtain rfl := Except.ok.inj applied
      rfl
  | cons head rest ih =>
      obtain ⟨name, delta⟩ := head
      obtain ⟨sum, sumEq, later⟩ := bind_eq_ok_iff.mp applied
      cases kept : keep name with
      | true =>
          rw [List.filter_cons, if_pos kept]
          apply bind_eq_ok_iff.mpr
          refine ⟨sum, ?_, ?_⟩
          · rw [Keyed.get?_filter keep kept]
            exact sumEq
          · rw [← Keyed.filter_put_of_keep keep kept]
            exact ih later
      | false =>
          rw [List.filter_cons, if_neg (by simp [kept]),
            ← Keyed.filter_put_of_drop keep kept sum document]
          exact ih later

/-- Increments that fail do so on one of two parts of the names. -/
theorem applyIncrements_eq_error {inc document : Fields} {fault : AddFault} (keep : String → Bool)
    (failed : applyIncrements inc document = .error fault) :
    applyIncrements (inc.filter (keep ·.1)) (document.filter (keep ·.1)) = .error fault ∨
      applyIncrements (inc.filter (!keep ·.1)) (document.filter (!keep ·.1)) = .error fault := by
  induction inc generalizing document with
  | nil => cases failed
  | cons head rest ih =>
      obtain ⟨name, delta⟩ := head
      cases kept : keep name with
      | true =>
          have dropped : (!keep name) = false := by simp [kept]
          rw [List.filter_cons, if_pos kept, List.filter_cons, if_neg (by simp [kept])]
          rcases bind_eq_error_iff.mp failed with now | ⟨sum, sumEq, later⟩
          · left
            apply bind_eq_error_iff.mpr
            left
            rw [Keyed.get?_filter keep kept]
            exact now
          · have parts := ih later
            rw [Keyed.filter_put_of_keep keep kept,
              Keyed.filter_put_of_drop (!keep ·) dropped] at parts
            refine parts.imp_left fun kept' => bind_eq_error_iff.mpr (Or.inr ⟨sum, ?_, kept'⟩)
            rw [Keyed.get?_filter keep kept]
            exact sumEq
      | false =>
          have dropped : (!keep name) = true := by simp [kept]
          rw [List.filter_cons, if_neg (by simp [kept]), List.filter_cons, if_pos dropped]
          rcases bind_eq_error_iff.mp failed with now | ⟨sum, sumEq, later⟩
          · right
            apply bind_eq_error_iff.mpr
            left
            rw [Keyed.get?_filter (!keep ·) dropped]
            exact now
          · have parts := ih later
            rw [Keyed.filter_put_of_drop keep kept,
              Keyed.filter_put_of_keep (!keep ·) dropped] at parts
            refine parts.imp_right fun kept' => bind_eq_error_iff.mpr (Or.inr ⟨sum, ?_, kept'⟩)
            rw [Keyed.get?_filter (!keep ·) dropped]
            exact sumEq

/-- A patch that succeeds does so on a part of the names. -/
theorem applyTo_only {p : Patch} {document : Option Fields} {after : Fields}
    (applied : p.applyTo document = .ok after) :
    (p.only keep).applyTo (document.map (·.filter (keep ·.1))) = .ok (after.filter (keep ·.1)) := by
  have part := applyIncrements_only keep applied
  rw [Keyed.filter_putAll] at part
  cases document <;> exact part

/-- A patch of nothing that fails does so on one of two parts of the names. -/
theorem applyTo_none_eq_error {p : Patch} {fault : AddFault} (keep : String → Bool)
    (failed : p.applyTo none = .error fault) : (p.only keep).applyTo none = .error fault ∨
      (p.only (!keep ·)).applyTo none = .error fault := by
  have parts := applyIncrements_eq_error keep failed
  rw [Keyed.filter_putAll, Keyed.filter_putAll (!keep ·)] at parts
  exact parts

/-! ## Name by name -/

/-- What a patch makes of one field, which may be absent. -/
def fieldAfter (p : Patch) (name : String) (old : Option Value) : Except AddFault (Option Value) :=
  match Keyed.get? name p.inc with
  | none => .ok ((Keyed.get? name p.set).or old)
  | some delta => some <$> (((Keyed.get? name p.set).or old).getD .null).increase delta

theorem fieldAfter_of_some {p : Patch} {name : String} {old : Option Value} {delta : Value}
    (found : Keyed.get? name p.inc = some delta) : p.fieldAfter name old =
      some <$> (((Keyed.get? name p.set).or old).getD .null).increase delta := by
  rw [fieldAfter, found]

theorem fieldAfter_of_none {p : Patch} {name : String} {old : Option Value}
    (missing : Keyed.get? name p.inc = none) :
    p.fieldAfter name old = .ok ((Keyed.get? name p.set).or old) := by
  rw [fieldAfter, missing]

/-- A field that is incremented ends as its sum. -/
theorem exists_sum_of_fieldAfter {p : Patch} {name : String} {old field : Option Value}
    {delta : Value}
    (found : Keyed.get? name p.inc = some delta) (made : p.fieldAfter name old = .ok field) :
    ∃ sum, (((Keyed.get? name p.set).or old).getD .null).increase delta = .ok sum ∧
    field = some sum := by
  rw [fieldAfter_of_some found] at made
  cases sum : (((Keyed.get? name p.set).or old).getD .null).increase delta with
  | error fault =>
      rw [sum] at made
      cases made
  | ok total =>
      rw [sum] at made
      exact ⟨total, rfl, (Except.ok.inj made).symm⟩

/-- Increments of different names add to the fields of their names. -/
theorem get?_applyIncrements {inc document after : Fields} (distinct : (inc.map Prod.fst).Nodup)
    (applied : applyIncrements inc document = .ok after) (name : String) :
    fieldAfter ⟨[], inc⟩ name (Keyed.get? name document) = .ok (Keyed.get? name after) := by
  induction inc generalizing document with
  | nil =>
      obtain rfl := Except.ok.inj applied
      rfl
  | cons head rest ih =>
      obtain ⟨key, delta⟩ := head
      obtain ⟨fresh, distinctRest⟩ := List.nodup_cons.mp distinct
      obtain ⟨sum, sumEq, later⟩ := bind_eq_ok_iff.mp applied
      have restAfter := ih distinctRest later
      unfold fieldAfter at restAfter ⊢
      rw [Keyed.get?_cons]
      by_cases same : key = name
      · subst same
        rw [Keyed.get?_eq_none_iff.mpr fresh, Keyed.get?_put_self] at restAfter
        rw [if_pos rfl, ← Except.ok.inj restAfter]
        simp only [Keyed.get?_nil, Option.none_or]
        rw [sumEq]
        rfl
      · rw [Keyed.get?_put_of_ne (Ne.symm same)] at restAfter
        rw [if_neg same]
        exact restAfter

/-- What a patch makes of the value of a name. -/
def effect (p : Patch) (name : String) (old : Value) : Except AddFault Value :=
  match Keyed.get? name p.inc with
  | none => .ok ((Keyed.get? name p.set).getD old)
  | some delta => ((Keyed.get? name p.set).getD old).increase delta

/-- The value of a field that is absent is null. -/
theorem effect_of_fieldAfter {p : Patch} {name : String} {old field : Option Value}
    (made : p.fieldAfter name old = .ok field) :
    p.effect name (old.getD .null) = .ok (field.getD .null) := by
  have base : (Keyed.get? name p.set).getD (old.getD .null) =
      ((Keyed.get? name p.set).or old).getD .null := by
    cases Keyed.get? name p.set <;> rfl
  rw [effect, base]
  cases found : Keyed.get? name p.inc with
  | none =>
      rw [fieldAfter_of_none found] at made
      rw [← Except.ok.inj made]
  | some delta =>
      obtain ⟨sum, sumEq, rfl⟩ := exists_sum_of_fieldAfter found made
      exact sumEq

/-- Increments of different names add to the values of their names. -/
theorem valueOf_applyIncrements {inc document after : Fields} (distinct : (inc.map Prod.fst).Nodup)
    (applied : applyIncrements inc document = .ok after) (name : String) :
    effect ⟨[], inc⟩ name (valueOf name document) = .ok (valueOf name after) :=
  effect_of_fieldAfter (get?_applyIncrements distinct applied name)

/-- Increments of different names succeed when each of them does. -/
theorem exists_applyIncrements {inc document : Fields} (distinct : (inc.map Prod.fst).Nodup)
    (each : ∀ entry ∈ inc, ∃ sum, (valueOf entry.1 document).increase entry.2 = .ok sum) :
    ∃ after, applyIncrements inc document = .ok after := by
  induction inc generalizing document with
  | nil => exact ⟨document, rfl⟩
  | cons head rest ih =>
      obtain ⟨fresh, distinctRest⟩ := List.nodup_cons.mp distinct
      obtain ⟨⟨sum, sumEq⟩, eachRest⟩ := List.forall_mem_cons.mp each
      have later : ∀ entry ∈ rest, ∃ total,
          (valueOf entry.1 (Keyed.put head.1 sum document)).increase entry.2 = .ok total := by
        intro entry entryMem
        have other : entry.1 ≠ head.1 := by
          intro same
          exact fresh (same ▸ List.mem_map_of_mem entryMem)
        rw [valueOf, Keyed.get?_put_of_ne other]
        exact eachRest entry entryMem
      obtain ⟨after, applied⟩ := ih distinctRest later
      exact ⟨after, bind_eq_ok_iff.mpr ⟨sum, sumEq, applied⟩⟩

section Effects

variable {p : Patch} {document : Option Fields} {after : Fields}
  (setDistinct : (p.set.map Prod.fst).Nodup) (incDistinct : (p.inc.map Prod.fst).Nodup)

theorem valueOf_putAll {set entries : Fields} (distinct : (set.map Prod.fst).Nodup)
    (name : String) :
    valueOf name (Keyed.putAll entries set) =
    (Keyed.get? name set).getD (valueOf name entries) := by
  rw [valueOf, Keyed.get?_putAll distinct]
  cases Keyed.get? name set <;> rfl

include setDistinct incDistinct

/-- A patch makes of each value what it says of its name. -/
theorem effect_of_applyTo (applied : p.applyTo document = .ok after) (name : String) :
    p.effect name (valueOf name (document.getD [])) = .ok (valueOf name after) := by
  have effects := valueOf_applyIncrements incDistinct applied name
  rw [valueOf_putAll setDistinct] at effects
  exact effects

/-- A patch succeeds when each of its sums does. -/
theorem exists_applyTo (each : ∀ entry ∈ p.inc, ∃ sum,
    ((Keyed.get? entry.1 p.set).getD (valueOf entry.1 (document.getD []))).increase entry.2 =
    .ok sum) :
    ∃ after, p.applyTo document = .ok after := by
  apply exists_applyIncrements incDistinct
  intro entry entryMem
  rw [valueOf_putAll setDistinct]
  exact each entry entryMem

end Effects

end Patch

/-- Patches that succeed one after the other do so on a part of the names. -/
theorem applyAll_only (keep : String → Bool) {patches : List Patch} {document after : Fields}
    (applied : applyAll patches (some document) = .ok (some after)) :
    applyAll (patches.map (·.only keep)) (some (document.filter (keep ·.1))) =
      .ok (some (after.filter (keep ·.1))) := by
  induction patches generalizing document with
  | nil =>
      cases applied
      rfl
  | cons first rest ih =>
      obtain ⟨next, firstApplied, restApplied⟩ := bind_eq_ok_iff.mp applied
      exact bind_eq_ok_iff.mpr ⟨_, Patch.applyTo_only keep firstApplied, ih restApplied⟩

/-- The write with its patch on the names that are kept. -/
def Write.only (keep : String → Bool) (w : Write) : Write := { w with patch := w.patch.only keep }

end Outreach.Writes
