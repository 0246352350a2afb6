import Outreach.Proofs.Audience.Rearrangement
import Outreach.Proofs.Audience.Totality

/-!
# Rules within rules

A rule may have another rule in a marked place, at any depth. What the whole rule evaluates to
depends on the marked rule only by what that one evaluates to. Where every condition can be decided
the dependence has a direction: groups have no negation, so a marked rule that is satisfied more
often makes a whole that is satisfied more often. One more condition under "all", or one less under
"any", therefore never adds a record to an audience. At the end of a group this holds even where
conditions cannot be decided, because what stands there is looked at last.
-/

namespace Outreach.Audience

/-- A condition that names no whole number beyond the doubles can be decided on
every record with fields. -/
theorem IsCondition.steady {node field operator operand : Value} {fields : Fields}
    (isCondition : IsCondition node field operator operand)
    (small : ∀ i, operand = .int i → i.natAbs < Decimal.doubleBound) :
    Steady (.map fields) node := by
  apply isCondition.steady_iff.mpr (exists_evaluate_eq_ok _)
  rintro leaf (_ | ⟨isGroup, _, _⟩) i isInt
  · exact small i (isCondition.against.symm.trans isInt)
  · exact absurd isCondition isGroup.not_isCondition

/-! ## Satisfied groups -/

section Groups

variable {record node : Value} {items : List Value}

theorem IsGroup.belongs_all_iff (isGroup : IsGroup node .all items) (steady : Steady record node) :
    belongs node record = true ↔ ∀ item ∈ items, belongs item record = true :=
  isGroup.belongs_eq_neutral_iff (isGroup.steady_iff.mp steady)

theorem IsGroup.belongs_any_iff (isGroup : IsGroup node .any items) (steady : Steady record node) :
    belongs node record = true ↔ ∃ item ∈ items, belongs item record = true := by
  have none := isGroup.belongs_eq_neutral_iff (isGroup.steady_iff.mp steady)
  simp only [Connective.neutral] at none
  rw [← Bool.not_eq_false, none]
  simp

end Groups

/-! ## Marked places -/

/-- A rule with `old` in a marked place, and the same rule with `new` there. The nodes on the way to
the place are groups that keep their other conditions. -/
inductive Replaces (old new : Value) : Value → Value → Prop
  | here : Replaces old new old new
  | inside {node next item other : Value} {connective : Connective} {before rest : List Value}
      (isGroup : IsGroup node connective (before ++ item :: rest))
      (nextGroup : IsGroup next connective (before ++ other :: rest))
      (replaces : Replaces old new item other) :
      Replaces old new node next

section Replaces

variable {record old new node next : Value}

theorem Replaces.inGroup {item other : Value} (connective : Connective) (before rest : List Value)
    (replaces : Replaces old new item other) :
    Replaces old new (groupNode connective (before ++ item :: rest))
      (groupNode connective (before ++ other :: rest)) :=
  .inside (isGroup_groupNode ..) (isGroup_groupNode ..) replaces

/-- A rule that evaluates to the same makes no difference in the place of another. -/
theorem Replaces.evaluate_eq (replaces : Replaces old new node next)
    (same : evaluate new record = evaluate old record) :
    evaluate next record = evaluate node record := by
  induction replaces with
  | here => exact same
  | inside isGroup nextGroup _ ih =>
      rw [nextGroup.evaluate_eq, isGroup.evaluate_eq]
      apply evaluateGroup_congr
      simp only [List.map_append, List.map_cons, ih]

/-- Where a rule can be decided, so can the rules on both sides of its marked place. -/
theorem Replaces.steady (replaces : Replaces old new node next) (steady : Steady record node)
    (nextSteady : Steady record next) : Steady record old ∧ Steady record new := by
  induction replaces with
  | here => exact ⟨steady, nextSteady⟩
  | inside isGroup nextGroup _ ih =>
      exact ih (isGroup.steady_iff.mp steady _ (by simp))
        (nextGroup.steady_iff.mp nextSteady _ (by simp))

/-- A group is satisfied if it was before one of its conditions was replaced by one that is
satisfied too. -/
theorem IsGroup.belongs_of_belongs {connective : Connective} {before rest : List Value}
    {item other : Value} (isGroup : IsGroup node connective (before ++ item :: rest))
    (nextGroup : IsGroup next connective (before ++ other :: rest)) (steady : Steady record node)
    (nextSteady : Steady record next)
    (implies : belongs item record = true → belongs other record = true)
    (satisfied : belongs node record = true) : belongs next record = true := by
  cases connective with
  | all =>
      rw [isGroup.belongs_all_iff steady] at satisfied
      rw [nextGroup.belongs_all_iff nextSteady]
      simp only [List.forall_mem_append, List.forall_mem_cons] at satisfied ⊢
      exact ⟨satisfied.1, implies satisfied.2.1, satisfied.2.2⟩
  | any =>
      rw [isGroup.belongs_any_iff steady] at satisfied
      rw [nextGroup.belongs_any_iff nextSteady]
      simp only [List.mem_append, List.mem_cons, or_and_right, exists_or,
        exists_eq_left] at satisfied ⊢
      exact satisfied.imp_right (Or.imp_left implies)

/-- A rule is satisfied if it was before its marked rule was replaced by one that
is satisfied too. -/
theorem Replaces.belongs_of_belongs (replaces : Replaces old new node next)
    (steady : Steady record node) (nextSteady : Steady record next)
    (implies : belongs old record = true → belongs new record = true)
    (satisfied : belongs node record = true) : belongs next record = true := by
  induction replaces with
  | here => exact implies satisfied
  | inside isGroup nextGroup _ ih =>
      refine isGroup.belongs_of_belongs nextGroup steady nextSteady ?_ satisfied
      exact ih (isGroup.steady_iff.mp steady _ (by simp))
        (nextGroup.steady_iff.mp nextSteady _ (by simp))

end Replaces

/-! ## Narrower groups -/

/-- A group and a wider one: without one of the conditions that all have to hold, or with one more
of those of which any suffices. -/
inductive Widens : Value → Value → Prop
  | drop {node next dropped : Value} {before rest : List Value}
      (isGroup : IsGroup node .all (before ++ dropped :: rest))
      (nextGroup : IsGroup next .all (before ++ rest)) :
      Widens node next
  | add {node next added : Value} {before rest : List Value}
      (isGroup : IsGroup node .any (before ++ rest))
      (nextGroup : IsGroup next .any (before ++ added :: rest)) : Widens node next

theorem Widens.belongs_of_belongs {record node next : Value} (widens : Widens node next)
    (steady : Steady record node) (nextSteady : Steady record next)
    (satisfied : belongs node record = true) :
    belongs next record = true := by
  cases widens with
  | drop isGroup nextGroup =>
      rw [isGroup.belongs_all_iff steady] at satisfied
      rw [nextGroup.belongs_all_iff nextSteady]
      simp only [List.forall_mem_append, List.forall_mem_cons] at satisfied ⊢
      exact ⟨satisfied.1, satisfied.2.2⟩
  | add isGroup nextGroup =>
      rw [isGroup.belongs_any_iff steady] at satisfied
      rw [nextGroup.belongs_any_iff nextSteady]
      simp only [List.mem_append, List.mem_cons, or_and_right, exists_or] at satisfied ⊢
      exact satisfied.imp_right Or.inr

/-! ## Conditions at the end -/

/-- What stands at the end of a group is not looked at when the group is decided before. -/
theorem evaluateGroup_append_of_decided {connective : Connective} {record : Value}
    {items : List Value} (later : List Value)
    (decided : evaluateGroup connective items record ≠ .ok connective.neutral) :
    evaluateGroup connective (items ++ later) record = evaluateGroup connective items record := by
  induction items with
  | nil => exact absurd evaluateGroup_nil decided
  | cons item rest ih =>
      by_cases undecided : evaluate item record = .ok connective.neutral
      · rw [evaluateGroup_cons_of_undecided undecided] at decided
        rw [List.cons_append, evaluateGroup_cons_of_undecided undecided,
          evaluateGroup_cons_of_undecided undecided,
          ih decided]
      · rw [List.cons_append, evaluateGroup_cons_of_decided undecided,
          evaluateGroup_cons_of_decided undecided]

theorem evaluateGroup_all_of_append {record : Value} {items later : List Value}
    (satisfied : evaluateGroup .all (items ++ later) record = .ok true) :
    evaluateGroup .all items record = .ok true := by
  apply Classical.byContradiction
  intro decided
  rw [evaluateGroup_append_of_decided later decided] at satisfied
  exact decided satisfied

theorem evaluateGroup_any_append {record : Value} {items : List Value} (later : List Value)
    (satisfied : evaluateGroup .any items record = .ok true) :
    evaluateGroup .any (items ++ later) record = .ok true := by
  rw [evaluateGroup_append_of_decided later (by simp [satisfied, Connective.neutral]), satisfied]

/-! ## Audiences -/

/-- If all records that satisfy a rule satisfy another, its audience is a part of
that of the other. -/
theorem audience_sublist {narrow wide : Value} {population : List Value}
    (implies : ∀ record ∈ population, belongs narrow record = true → belongs wide record = true) :
    (audience narrow population).Sublist (audience wide population) := by
  have both : audience narrow population = (audience wide population).filter (belongs narrow) := by
    rw [audience, audience, List.filter_filter]
    apply List.filter_congr
    intro record recordMem
    cases narrowEq : belongs narrow record with
    | false => rfl
    | true => rw [implies record recordMem narrowEq]; rfl
  rw [both]
  exact List.filter_sublist

/-- Where all conditions can be decided, the audience of a rule with a rule in a marked place grows
with the records that satisfy the marked rule; so it does when one of the conditions that all have
to hold is dropped at any depth, or one is added to those of which any suffices. A condition that is
added at the end of a group narrows it under "all" and widens it under "any", whether or not the
conditions can be decided. -/
theorem audience_grows_with_rule :
    (∀ {old new node next : Value} {population : List Value}, Replaces old new node next →
      (∀ record ∈ population, Steady record node ∧ Steady record next) →
      (∀ record ∈ population, evaluate old record = .ok true → evaluate new record = .ok true) →
      (audience node population).Sublist (audience next population)) ∧
    (∀ {old new node next : Value} {population : List Value}, Replaces old new node next →
      Widens old new →
      (∀ record ∈ population, Steady record node ∧ Steady record next) →
      (audience node population).Sublist (audience next population)) ∧
    ∀ {shorter longer added : Value} {items : List Value} (population : List Value),
      (IsGroup shorter .all items → IsGroup longer .all (items ++ [added]) →
        (audience longer population).Sublist (audience shorter population)) ∧
      (IsGroup shorter .any items → IsGroup longer .any (items ++ [added]) →
        (audience shorter population).Sublist (audience longer population)) := by
  refine ⟨?_, ?_, ?_⟩
  · intro old new node next population replaces steady implies
    apply audience_sublist
    intro record recordMem
    obtain ⟨nodeSteady, nextSteady⟩ := steady record recordMem
    apply replaces.belongs_of_belongs nodeSteady nextSteady
    simpa only [belongs_iff] using implies record recordMem
  · intro old new node next population replaces widens steady
    apply audience_sublist
    intro record recordMem
    obtain ⟨nodeSteady, nextSteady⟩ := steady record recordMem
    obtain ⟨oldSteady, newSteady⟩ := replaces.steady nodeSteady nextSteady
    exact replaces.belongs_of_belongs nodeSteady nextSteady
      (widens.belongs_of_belongs oldSteady newSteady)
  · intro shorter longer added items population
    constructor
    · intro isGroup longerGroup
      apply audience_sublist
      intro record _
      rw [belongs_iff, belongs_iff, isGroup.evaluate_eq, longerGroup.evaluate_eq]
      exact evaluateGroup_all_of_append
    · intro isGroup longerGroup
      apply audience_sublist
      intro record _
      rw [belongs_iff, belongs_iff, isGroup.evaluate_eq, longerGroup.evaluate_eq]
      exact evaluateGroup_any_append [added]

def hasVisited : Value := conditionNode "visits" .ge (.int 1)

def spentOver (amount : Int) : Value := conditionNode "totalSpend" .gt (.int amount)

def livesInMadrid : Value := conditionNode "city" .eq (.text "Madrid")

/-- Visitors for whom at least one of the given rules holds. -/
def visitorsWith (rules : List Value) : Value := groupNode .all [hasVisited, groupNode .any rules]

/-- Four customers, of whom the last has not visited. -/
def guests : List Value :=
  [.map [("visits", .int 2), ("totalSpend", .int 150)],
    .map [("visits", .int 1), ("totalSpend", .int 250)],
    .map [("visits", .int 3), ("totalSpend", .int 20), ("city", .text "Madrid")],
    .map [("visits", .int 0), ("totalSpend", .int 900)]]

/-- A lower spend in a marked place adds a guest, and so does one more rule that suffices. A spend
that cannot be compared adds none. -/
theorem guests_audience_grows :
    (audience (visitorsWith [spentOver 200]) guests).Sublist
    (audience (visitorsWith [spentOver 100]) guests) ∧
      (audience (visitorsWith [spentOver 100]) guests).Sublist
        (audience (visitorsWith [spentOver 100, livesInMadrid]) guests) ∧
      [visitorsWith [spentOver 200], visitorsWith [spentOver 100],
        visitorsWith [spentOver 100, livesInMadrid]].map (audienceSize · guests) = [1, 2, 3] ∧
      (audience (groupNode .all [hasVisited, hugeSpend]) guests).Sublist
        (audience (groupNode .all [hasVisited]) guests) := by
  have steady {rules : List Value} (each : ∀ fields, ∀ rule ∈ rules, Steady (.map fields) rule) :
      ∀ record ∈ guests, Steady record (visitorsWith rules) := by
    intro record recordMem
    obtain ⟨fields, rfl⟩ : ∃ fields, record = .map fields := by
      simp only [guests, List.mem_cons, List.not_mem_nil, or_false] at recordMem
      rcases recordMem with rfl | rfl | rfl | rfl <;> exact ⟨_, rfl⟩
    have visits : Steady (.map fields) hasVisited :=
      (isCondition_conditionNode ..).steady fun i one => Value.int.inj one ▸ by decide +kernel
    rw [visitorsWith, (isGroup_groupNode ..).steady_iff, List.forall_mem_cons,
      List.forall_mem_singleton, (isGroup_groupNode ..).steady_iff]
    exact ⟨visits, each fields⟩
  have spends {amount : Int} (le : amount.natAbs ≤ 200) (fields : Fields) :
      Steady (.map fields) (spentOver amount) :=
    (isCondition_conditionNode ..).steady fun i same =>
    Value.int.inj same ▸ le.trans_lt (by decide +kernel)
  have lives (fields : Fields) : Steady (.map fields) livesInMadrid :=
    (isCondition_conditionNode ..).steady nofun
  have high : ∀ record ∈ guests, Steady record (visitorsWith [spentOver 200]) := by
    apply steady
    simp [spends]
  have low : ∀ record ∈ guests, Steady record (visitorsWith [spentOver 100]) := by
    apply steady
    simp [spends]
  have wide : ∀ record ∈ guests, Steady record (visitorsWith [spentOver 100, livesInMadrid]) := by
    apply steady
    simp [spends, lives]
  have lowered : Replaces (spentOver 200) (spentOver 100) (visitorsWith [spentOver 200])
      (visitorsWith [spentOver 100]) :=
    .inGroup .all [hasVisited] [] (.inGroup .any [] [] .here)
  have widened : Replaces (groupNode .any [spentOver 100])
      (groupNode .any [spentOver 100, livesInMadrid])
      (visitorsWith [spentOver 100]) (visitorsWith [spentOver 100, livesInMadrid]) :=
    .inGroup .all [hasVisited] [] .here
  have widens : Widens (groupNode .any [spentOver 100])
      (groupNode .any [spentOver 100, livesInMadrid]) :=
    .add (isGroup_groupNode .any ([spentOver 100] ++ []))
      (isGroup_groupNode .any ([spentOver 100] ++ livesInMadrid :: []))
  have implies : ∀ record ∈ guests, evaluate (spentOver 200) record = .ok true →
      evaluate (spentOver 100) record = .ok true := by
    simp only [guests, List.forall_mem_cons]
    exact ⟨fun _ => rfl, fun _ => rfl, nofun, fun _ => rfl, nofun⟩
  refine ⟨?_, ?_, rfl, ?_⟩
  · exact audience_grows_with_rule.1 lowered (fun record mem => ⟨high record mem, low record mem⟩)
      implies
  · exact audience_grows_with_rule.2.1 widened widens fun record mem =>
      ⟨low record mem, wide record mem⟩
  · exact (audience_grows_with_rule.2.2 guests).1 (isGroup_groupNode .all [hasVisited])
      (isGroup_groupNode .all ([hasVisited] ++ [hugeSpend]))

end Outreach.Audience
