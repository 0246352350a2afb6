import Outreach.Proofs.Keyed
import Outreach.Proofs.Value.Order

/-!
# Agreement of values

Two numbers agree when they lie at the same place of the line, so agreement of numbers is symmetric
and transitive. Of lists and maps it is transitive, since it is so of what they are made of.
-/

namespace Outreach.Value

variable {a b c : Value}

/-! ## Numbers -/

theorem sameNumber_iff : a.sameNumber b = true ↔ ∃ x, a.position? = some x ∧
    b.position? = some x := by
  rw [sameNumber_eq, orderNumber?_eq, beq_iff_eq]
  rcases a.position? with _ | x
  · simp
  · rcases b.position? with _ | y
    · simp
    · rw [Option.map₂_some_some, Option.some_inj, compare_eq_iff_eq]
      constructor
      · rintro rfl
        exact ⟨x, rfl, rfl⟩
      · rintro ⟨_, xSame, ySame⟩
        exact Option.some.inj (xSame.trans ySame.symm)

theorem sameNumber_symm (same : a.sameNumber b = true) : b.sameNumber a = true := by
  obtain ⟨x, aLies, bLies⟩ := sameNumber_iff.mp same
  exact sameNumber_iff.mpr ⟨x, bLies, aLies⟩

theorem sameNumber_trans (first : a.sameNumber b = true) (second : b.sameNumber c = true) :
    a.sameNumber c = true := by
  obtain ⟨x, aLies, bLies⟩ := sameNumber_iff.mp first
  obtain ⟨y, bLies', cLies⟩ := sameNumber_iff.mp second
  obtain rfl := Option.some.inj (bLies.symm.trans bLies')
  exact sameNumber_iff.mpr ⟨x, aLies, cLies⟩

/-- A number agrees with what is the same number. -/
theorem agrees_of_quantity_left {q : Decimal.Quantity} (number : a.quantity? = some q) :
    a.agrees b = a.sameNumber b := by
  cases a <;> cases number <;> cases b <;> simp only [agrees]

/-! ## Other values -/

section Others

attribute [local simp] agrees sameNumber quantity?

theorem agrees_null_iff : a.agrees .null = true ↔ a = .null := by
  cases a <;> simp

theorem agrees_text_iff {s : String} : a.agrees (.text s) = true ↔ a = .text s := by
  cases a <;> simp

theorem agrees_date_iff {d : Date} : a.agrees (.date d) = true ↔ a = .date d := by
  cases a <;> simp

theorem agrees_time_iff {t : DateTime} :
    a.agrees (.time t) = true ↔ ∃ s, a = .time s ∧ s.sameTime t = true := by
  cases a <;> simp

theorem agrees_list_iff {ys : List Value} :
    a.agrees (.list ys) = true ↔ ∃ xs, a = .list xs ∧ agreesList xs ys = true := by
  cases a <;> simp

theorem agrees_map_iff {ys : Fields} : a.agrees (.map ys) = true ↔
    ∃ xs : Fields, a = .map xs ∧ xs.length = ys.length ∧ agreesFields xs ys = true := by
  cases a <;> simp

end Others

/-- Fields that agree agree name by name. -/
theorem agreesFields_get? {xs ys : Fields} (agree : agreesFields xs ys = true)
    {name : String} {x : Value} (found : Keyed.get? name xs = some x) :
    ∃ y, Keyed.get? name ys = some y ∧ x.agrees y = true := by
  induction xs with
  | nil => cases found
  | cons head rest ih =>
      obtain ⟨key, first⟩ := head
      obtain ⟨firstAgrees, restAgree⟩ := Bool.and_eq_true_iff.mp agree
      rw [Keyed.get?_cons] at found
      split at found
      · rename_i same
        cases found
        subst same
        split at firstAgrees
        · rename_i y yFound
          exact ⟨y, yFound, firstAgrees⟩
        · cases firstAgrees
      · exact ih restAgree found

mutual

theorem agrees_trans {a b c : Value} (first : a.agrees b = true) (second : b.agrees c = true) :
    a.agrees c = true := by
  cases b with
  | null => rwa [agrees_null_iff.mp first]
  | text s => rwa [agrees_text_iff.mp first]
  | date d => rwa [agrees_date_iff.mp first]
  | time t =>
      obtain ⟨s, rfl, sameFirst⟩ := agrees_time_iff.mp first
      cases c with
      | time u =>
          obtain ⟨_, same, sameSecond⟩ := agrees_time_iff.mp second
          cases same
          refine agrees_time_iff.mpr ⟨s, rfl, ?_⟩
          simp_all [DateTime.sameTime]
      | _ => simp [agrees, sameNumber, quantity?] at second
  | list ys =>
      obtain ⟨xs, rfl, listFirst⟩ := agrees_list_iff.mp first
      cases c with
      | list zs =>
          obtain ⟨_, same, listSecond⟩ := agrees_list_iff.mp second
          cases same
          exact agrees_list_iff.mpr ⟨xs, rfl, agreesList_trans listFirst listSecond⟩
      | _ => simp [agrees, sameNumber, quantity?] at second
  | map ys =>
      obtain ⟨xs, rfl, lengthFirst, fieldsFirst⟩ := agrees_map_iff.mp first
      cases c with
      | map zs =>
          obtain ⟨_, same, lengthSecond, fieldsSecond⟩ := agrees_map_iff.mp second
          cases same
          exact agrees_map_iff.mpr
            ⟨xs, rfl, lengthFirst.trans lengthSecond, agreesFields_trans fieldsFirst fieldsSecond⟩
      | _ => simp [agrees, sameNumber, quantity?] at second
  | _ =>
      rw [agrees_of_quantity rfl] at first
      rw [agrees_of_quantity_left rfl] at second
      obtain ⟨x, aLies, -⟩ := sameNumber_iff.mp first
      obtain ⟨q, aQuantity, -⟩ := Option.bind_eq_some_iff.mp aLies
      rw [agrees_of_quantity_left aQuantity]
      exact sameNumber_trans first second
termination_by sizeOf a

theorem agreesList_trans {xs ys zs : List Value} (first : agreesList xs ys = true)
    (second : agreesList ys zs = true) : agreesList xs zs = true := by
  cases xs with
  | nil =>
      cases ys with
      | nil => exact second
      | cons y ys => simp [agreesList] at first
  | cons x xs =>
      cases ys with
      | nil => simp [agreesList] at first
      | cons y ys =>
          cases zs with
          | nil => simp [agreesList] at second
          | cons z zs =>
              obtain ⟨headFirst, tailFirst⟩ := Bool.and_eq_true_iff.mp first
              obtain ⟨headSecond, tailSecond⟩ := Bool.and_eq_true_iff.mp second
              exact Bool.and_eq_true_iff.mpr
                ⟨agrees_trans headFirst headSecond, agreesList_trans tailFirst tailSecond⟩
termination_by sizeOf xs

theorem agreesFields_trans : ∀ {xs ys zs : Fields}, agreesFields xs ys = true →
    agreesFields ys zs = true → agreesFields xs zs = true
  | [], _, _, _, _ => rfl
  | (name, x) :: xs, ys, zs, first, second => by
      obtain ⟨headFirst, tailFirst⟩ := Bool.and_eq_true_iff.mp first
      refine Bool.and_eq_true_iff.mpr ⟨?_, agreesFields_trans tailFirst second⟩
      split at headFirst
      · rename_i y yFound
        obtain ⟨z, zFound, agreesSecond⟩ := agreesFields_get? second yFound
        rw [zFound]
        exact agrees_trans headFirst agreesSecond
      · cases headFirst
termination_by xs => sizeOf xs

end

/-- The values are the same, or they agree. An undefined number does not agree with itself. -/
def Matches (a b : Value) : Prop := a = b ∨ a.agrees b = true

theorem Matches.trans (first : a.Matches b) (second : b.Matches c) : a.Matches c := by
  rcases first with rfl | first
  · exact second
  · rcases second with rfl | second
    · exact Or.inr first
    · exact Or.inr (agrees_trans first second)

theorem Matches.of_sameNumber (same : a.sameNumber b = true) : a.Matches b := by
  obtain ⟨x, aLies, -⟩ := sameNumber_iff.mp same
  obtain ⟨q, quantity, -⟩ := Option.bind_eq_some_iff.mp aLies
  exact Or.inr ((agrees_of_quantity_left quantity).trans same)

end Outreach.Value
