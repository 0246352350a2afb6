import Outreach.Proofs.Decimal.Doubles
import Outreach.Proofs.Keyed
import Outreach.Proofs.Store.Rows
import Outreach.Value.Add

/-!
# What columns keep

Each column of a statement is prepared and bound on its own, so the cell of a column depends on its
own value alone. A column of doubles keeps a double up to the sign of zero, and what it keeps of a
sum depends on what it keeps of the summands.
-/

namespace Outreach.Store

/-! ## Doubles -/

section Doubles

open Decimal

theorem cellOfFloat_of_isZero {x : Float} (zero : IsZero x) :
    cellOfFloat x = some (.float 0.0) := by
  rcases zero with rfl | rfl <;> rfl

/-- Doubles of which the same is kept are the same, or both are zero. -/
theorem eq_or_isZero_of_cell {x y : Float} (kept : cellOfFloat x ≠ none)
    (same : cellOfFloat x = cellOfFloat y) : x = y ∨ IsZero x ∧ IsZero y := by
  have cellCases (z : Float) : cellOfFloat z = none ∨
      IsZero z ∨ cellOfFloat z = some (.float z) ∧ ¬ IsZero z := by
    unfold cellOfFloat
    split
    · exact Or.inl rfl
    · split
      · rename_i zero
        exact Or.inr (Or.inl (beq_zero_iff.mp zero))
      · rename_i nonzero
        exact Or.inr (Or.inr ⟨rfl, mt beq_zero_iff.mpr nonzero⟩)
  have zeroKept : IsZero (0.0 : Float) := Or.inl rfl
  rcases cellCases x with missing | zero | ⟨xCell, xNonzero⟩
  · exact absurd missing kept
  · rcases cellCases y with missing | otherZero | ⟨yCell, yNonzero⟩
    · exact absurd (same.trans missing) kept
    · exact Or.inr ⟨zero, otherZero⟩
    · rw [cellOfFloat_of_isZero zero, yCell] at same
      cases same
      exact absurd zeroKept yNonzero
  · rcases cellCases y with missing | otherZero | ⟨yCell, _⟩
    · exact absurd (same.trans missing) kept
    · rw [xCell, cellOfFloat_of_isZero otherZero] at same
      cases same
      exact absurd zeroKept xNonzero
    · rw [xCell, yCell] at same
      cases same
      exact Or.inl rfl

/-- What is kept of a double is a double of which the same is kept. -/
theorem cellOfFloat_eq_some {x : Float} (kept : cellOfFloat x ≠ none) :
    ∃ y, cellOfFloat x = some (.float y) ∧ cellOfFloat y = cellOfFloat x := by
  by_cases zero : IsZero x
  · rw [cellOfFloat_of_isZero zero]
    exact ⟨0.0, rfl, rfl⟩
  · refine ⟨x, ?_, rfl⟩
    unfold cellOfFloat at kept ⊢
    split at kept
    · exact absurd rfl kept
    · rename_i number
      rw [if_neg number, if_neg (mt beq_zero_iff.mp zero)]

theorem cellOfFloat_of_agrees {x y : Float} (agrees : (Value.float x).agrees (.float y) = true) :
    cellOfFloat x = cellOfFloat y := by
  have compared : ((Quantity.ofFloat x).compare? (Quantity.ofFloat y) == some .eq) = true := by
    simpa [Value.agrees, Value.sameNumber, Value.quantity?] using agrees
  rcases eq_or_isZero (beq_iff_eq.mp compared) with rfl | ⟨zero, otherZero⟩
  · rfl
  · rw [cellOfFloat_of_isZero zero, cellOfFloat_of_isZero otherZero]

/-- What is kept of a sum does not depend on the sign of a zero that is added to. -/
theorem cellOfFloat_add {x y : Float} (same : x = y ∨ IsZero x ∧ IsZero y) (a : Float) :
    cellOfFloat (x + a) = cellOfFloat (y + a) := by
  rcases same with rfl | ⟨zero, otherZero⟩
  · rfl
  · rcases zero.add_eq otherZero a with sums | ⟨sumZero, otherSumZero⟩
    · rw [sums]
    · rw [cellOfFloat_of_isZero sumZero, cellOfFloat_of_isZero otherSumZero]

/-- An increment of a double of which the same is kept as of `y` gives one of which the same is kept
as of the sum. -/
theorem increase_float {x y : Float} (kept : cellOfFloat x ≠ none)
    (same : cellOfFloat x = cellOfFloat y) (a : Float) :
    ∃ sum, (Value.float x).increase (.float a) = .ok (.float sum) ∧
      cellOfFloat sum = cellOfFloat (y + a) := by
  have alike := eq_or_isZero_of_cell kept same
  unfold Value.increase
  by_cases blank : (x == 0.0) = true
  · have zero : IsZero x := beq_zero_iff.mp blank
    have otherZero : IsZero y := by
      rcases alike with rfl | ⟨_, otherZero⟩
      · exact zero
      · exact otherZero
    refine ⟨0.0 + a, ?_, cellOfFloat_add (Or.inr ⟨Or.inl rfl, otherZero⟩) a⟩
    simp only [Value.isBlank, blank, if_true]
    rfl
  · refine ⟨x + a, ?_, cellOfFloat_add alike a⟩
    simp only [Value.isBlank, blank]
    rfl

end Doubles

theorem increase_int (i j : Int) : (Value.int i).increase (.int j) = .ok (.int (i + j)) := by
  unfold Value.increase
  by_cases blank : i = 0
  · subst blank
    rfl
  · simp [Value.isBlank, blank, Value.add, Value.addNumbers, Value.whole?]

theorem int_agrees_iff {i j : Int} : (Value.int i).agrees (.int j) = true ↔ i = j := by
  simp [Value.agrees, Value.sameNumber, Value.quantity?, Decimal.Quantity.compare?_ofInt]

/-! ## Columns one by one -/

/-- What is handed over for one column. -/
def bindCell (position : Nat) (column : Column) (cell : Cell) : Except Trouble Cell :=
  match column.kind, cell with
  | .structured, cell => .ok cell
  | _, some (.text s) =>
    if Text.hasLoneSurrogate s then .error (.broken (.unencodable s))
    else .ok (keepPlain column.kind (.text s))
  | .text, some value | .whole, some value =>
    match value with
    | .list _ | .map _ => .error (.refused (.unfit (.unsupported position value.kindName)))
    | .int i =>
      if fitsWord i then .ok (keepPlain column.kind value) else .error (.broken .wordTooLarge)
    | value => .ok (keepPlain column.kind value)
  | _, cell => .ok cell

theorem bindAll_cons (position : Nat) (column : Column) (cell : Cell)
    (rest : List (Column × Cell)) : bindAll position ((column, cell) :: rest) = (do
      let bound ← bindCell position column cell
      .ok ((column.name, bound) :: (← bindAll (position + 1) rest))) := by
  obtain ⟨name, kind, nullable, default⟩ := column
  rcases cell with _ | value
  · cases kind <;> rfl
  · cases kind <;> cases value <;>
      first
      | rfl
      | simp only [bindAll, bindCell]; split <;> rfl

theorem prepareAll_cons_eq_ok {column : Column} {value : Value} {rest : List (Column × Value)}
    {prepared : List (Column × Cell)} (ok : prepareAll ((column, value) :: rest) = .ok prepared) :
    ∃ cell preparedRest, column.prepare value = .ok cell ∧ prepareAll rest = .ok preparedRest ∧
      prepared = (column, cell) :: preparedRest := by
  unfold prepareAll at ok
  split at ok
  · rename_i cell cellEq
    obtain ⟨preparedRest, restEq, preparedEq⟩ := bind_eq_ok_iff.mp ok
    exact ⟨cell, preparedRest, cellEq, restEq, (Except.ok.inj preparedEq).symm⟩
  · cases ok

/-- The bound cell of a column comes from its own value alone. -/
theorem get?_bindAll {changes : List (Column × Value)} {prepared : List (Column × Cell)}
    {bound : List (String × Cell)} {position : Nat}
    (preparedEq : prepareAll changes = .ok prepared)
    (boundEq : bindAll position prepared = .ok bound) :
    bound.map Prod.fst = changes.map (·.1.name) ∧
      ((changes.map (·.1.name)).Nodup → ∀ change ∈ changes, ∃ cell kept place,
        change.1.prepare change.2 = .ok cell ∧ bindCell place change.1 cell = .ok kept ∧
        Keyed.get? change.1.name bound = some kept) := by
  induction changes generalizing prepared bound position with
  | nil =>
      obtain rfl := Except.ok.inj preparedEq
      obtain rfl := Except.ok.inj boundEq
      simp
  | cons first rest ih =>
      obtain ⟨cell, preparedRest, cellEq, restEq, rfl⟩ := prepareAll_cons_eq_ok preparedEq
      rw [bindAll_cons] at boundEq
      obtain ⟨kept, keptEq, restBound⟩ := bind_eq_ok_iff.mp boundEq
      obtain ⟨boundRest, boundRestEq, boundConsEq⟩ := bind_eq_ok_iff.mp restBound
      obtain rfl := Except.ok.inj boundConsEq
      obtain ⟨names, cells⟩ := ih restEq boundRestEq
      refine ⟨by simp [names], fun distinct change changeMem => ?_⟩
      obtain ⟨fresh, distinctRest⟩ := List.nodup_cons.mp distinct
      rcases List.mem_cons.mp changeMem with rfl | inRest
      · exact ⟨cell, kept, position, cellEq, keptEq, by simp [Keyed.get?_cons]⟩
      · have other : first.1.name ≠ change.1.name := by
          intro same
          exact fresh (List.mem_map.mpr ⟨change, inRest, same.symm⟩)
        rw [Keyed.get?_cons, if_neg other]
        exact cells distinctRest change inRest

section Kinds

variable {column : Column} {cell kept : Cell} {position : Nat}

/-- A column of doubles or times hands over what was prepared, unless that is a text. -/
theorem bindCell_eq (kind : column.kind = .real ∨ column.kind = .time)
    (noText : ∀ s, cell ≠ some (.text s)) (bound : bindCell position column cell = .ok kept) :
    kept = cell := by
  unfold bindCell at bound
  split at bound
  · rcases kind with kind | kind <;> simp_all
  · rename_i s _
    exact absurd rfl (noText s)
  · rcases kind with kind | kind <;> simp_all
  · rcases kind with kind | kind <;> simp_all
  · exact (Except.ok.inj bound).symm

theorem keeps_float (kind : column.kind = .real) {x : Float}
    (prepared : column.prepare (.float x) = .ok cell)
    (bound : bindCell position column cell = .ok kept) : kept = cellOfFloat x := by
  simp only [Column.prepare, kind, keepReal, Except.ok.injEq] at prepared
  subst prepared
  apply bindCell_eq (Or.inl kind) ?_ bound
  intro s
  unfold cellOfFloat
  split
  · simp
  · split <;> simp

theorem keeps_time (kind : column.kind = .time) {t : DateTime}
    (prepared : column.prepare (.time t) = .ok cell)
    (bound : bindCell position column cell = .ok kept) : kept = some (.time t.naive) := by
  simp only [Column.prepare, kind, Except.ok.injEq] at prepared
  subst prepared
  exact bindCell_eq (Or.inr kind) (by simp) bound

theorem keeps_int (kind : column.kind = .whole) {i : Int}
    (prepared : column.prepare (.int i) = .ok cell)
    (bound : bindCell position column cell = .ok kept) : kept = some (.int i) := by
  simp only [Column.prepare, kind, Except.ok.injEq] at prepared
  subst prepared
  simp only [bindCell, kind] at bound
  split at bound
  · exact (Except.ok.inj bound).symm
  · cases bound

theorem keeps_text (kind : column.kind = .text) {s : String}
    (prepared : column.prepare (.text s) = .ok cell)
    (bound : bindCell position column cell = .ok kept) : kept = some (.text s) := by
  simp only [Column.prepare, kind, Except.ok.injEq] at prepared
  subst prepared
  simp only [bindCell, kind] at bound
  split at bound
  · cases bound
  · exact (Except.ok.inj bound).symm

end Kinds

end Outreach.Store
