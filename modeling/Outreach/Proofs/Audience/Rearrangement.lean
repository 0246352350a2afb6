import Mathlib.Logic.Relation
import Outreach.Proofs.Audience.Nodes

/-!
# Rearranging rules

Where every condition of a rule can be decided, a group is its neutral value exactly when all its
conditions are. So it does not matter in which order the conditions of a group stand, how often, and
in how many groups of one connective they are nested. A step of `Rearranges` makes one such change
at any depth; nodes keep their parts, and may have further ones.
-/

namespace Outreach.Audience

/-! ## Rules that can be decided -/

/-- Every condition of the rule can be decided for the record. -/
def Steady (record rule : Value) : Prop :=
  ∀ leaf, LeafOf leaf rule → ∃ satisfied, evaluate leaf record = .ok satisfied

section Steady

variable {record node field operator operand : Value} {connective : Connective} {items : List Value}

theorem LeafOf.isMap {leaf : Value} (leafOf : LeafOf leaf node) : ∃ fields, node = .map fields := by
  cases leafOf with
  | self isCondition => exact isCondition.isMap
  | inside isGroup _ _ => exact isGroup.isMap

theorem IsGroup.steady_iff (isGroup : IsGroup node connective items) :
    Steady record node ↔ ∀ item ∈ items, Steady record item := by
  constructor
  · intro steady item itemMem leaf leafOf
    exact steady leaf (.inside isGroup itemMem leafOf)
  · intro steady leaf leafOf
    cases leafOf with
    | self isCondition => exact absurd isCondition isGroup.not_isCondition
    | inside again itemMem leafOf =>
        obtain ⟨_, rfl⟩ := isGroup.unique again
        exact steady _ itemMem leaf leafOf

theorem IsCondition.steady_iff (isCondition : IsCondition node field operator operand) :
    Steady record node ↔ ∃ satisfied, evaluate node record = .ok satisfied := by
  constructor
  · intro steady
    exact steady node (.self isCondition)
  · intro decided leaf leafOf
    cases leafOf with
    | self _ => exact decided
    | inside isGroup _ _ => exact absurd isCondition isGroup.not_isCondition

theorem evaluate_eq_of_ok {satisfied : Bool} (decided : evaluate node record = .ok satisfied) :
    evaluate node record = .ok (belongs node record) := by
  rw [belongs, decided]

/-- A group of conditions with truth values is neutral when all of them are. -/
theorem evaluateGroup_of_decided (connective : Connective)
    (decided : ∀ item ∈ items, evaluate item record = .ok (belongs item record)) :
    ∃ satisfied, evaluateGroup connective items record = .ok satisfied ∧
      (satisfied = connective.neutral ↔
        ∀ item ∈ items, belongs item record = connective.neutral) := by
  induction items with
  | nil => exact ⟨connective.neutral, evaluateGroup_nil, by simp⟩
  | cons item rest ih =>
      obtain ⟨first, others⟩ := List.forall_mem_cons.mp decided
      rw [List.forall_mem_cons]
      by_cases undecided : belongs item record = connective.neutral
      · obtain ⟨satisfied, evaluated, neutral⟩ := ih others
        rw [evaluateGroup_cons_of_undecided (undecided ▸ first)]
        exact ⟨satisfied, evaluated, by simp [undecided, neutral]⟩
      · rw [evaluateGroup_cons_of_decided (by simp [first, undecided])]
        exact ⟨_, first, by simp [undecided]⟩

/-- A rule whose conditions can be decided has a truth value. -/
theorem Steady.evaluate_eq (steady : Steady record node) :
    evaluate node record = .ok (belongs node record) := by
  induction node using node_induction with
  | group isGroup ih =>
      have decided :=
        fun item itemMem => ih item itemMem (isGroup.steady_iff.mp steady item itemMem)
      obtain ⟨satisfied, evaluated, _⟩ := evaluateGroup_of_decided _ decided
      exact evaluate_eq_of_ok ((isGroup.evaluate_eq record).trans evaluated)
  | condition isCondition =>
      obtain ⟨satisfied, evaluated⟩ := isCondition.steady_iff.mp steady
      exact evaluate_eq_of_ok evaluated
  | other isFalse => exact evaluate_eq_of_ok (isFalse record)

theorem IsGroup.belongs_eq_neutral_iff (isGroup : IsGroup node connective items)
    (steady : ∀ item ∈ items, Steady record item) :
    belongs node record = connective.neutral ↔
    ∀ item ∈ items, belongs item record = connective.neutral := by
  obtain ⟨satisfied, evaluated, neutral⟩ :=
    evaluateGroup_of_decided connective fun item itemMem => (steady item itemMem).evaluate_eq
  rw [← neutral, belongs, isGroup.evaluate_eq, evaluated]

end Steady

/-! ## Steps -/

/-- One change to a rule, at any depth. -/
inductive Rearranges : Value → Value → Prop
  /-- The conditions of a group in another order. -/
  | permute {node next : Value} {connective : Connective} {items others : List Value}
      (isGroup : IsGroup node connective items) (nextGroup : IsGroup next connective others)
      (perm : items.Perm others) : Rearranges node next
  /-- A condition of a group once more. -/
  | duplicate {node next item : Value} {connective : Connective} {before rest : List Value}
      (isGroup : IsGroup node connective (before ++ item :: rest))
      (nextGroup : IsGroup next connective (before ++ item :: item :: rest)) : Rearranges node next
  /-- The conditions of a group within a group of the same connective, in its place. -/
  | splice {node next child : Value} {connective : Connective} {before inner rest : List Value}
      (isGroup : IsGroup node connective (before ++ child :: rest))
      (childGroup : IsGroup child connective inner)
      (nextGroup : IsGroup next connective (before ++ inner ++ rest)) : Rearranges node next
  /-- The only condition of a group, in its place. -/
  | unwrap {node item : Value} {connective : Connective}
      (isGroup : IsGroup node connective [item]) :
      Rearranges node item
  /-- A group of nothing but the node. -/
  | wrap {node item : Value} {connective : Connective} (isGroup : IsGroup node connective [item]) :
      Rearranges item node
  /-- An empty group of the same connective among the conditions of a group. -/
  | addEmpty {node next child : Value} {connective : Connective} {before rest : List Value}
      (isGroup : IsGroup node connective (before ++ rest))
      (childGroup : IsGroup child connective [])
      (nextGroup : IsGroup next connective (before ++ child :: rest)) : Rearranges node next
  /-- The first spelling of a field that has two. -/
  | canonical {node next operator operand : Value} {name : String}
      (isCondition : IsCondition node (.text name) operator operand)
      (nextCondition : IsCondition next (.text (canonicalField name)) operator operand) :
      Rearranges node next
  /-- A change to a condition of a group. -/
  | inside {node next item other : Value} {connective : Connective} {before rest : List Value}
      (isGroup : IsGroup node connective (before ++ item :: rest))
      (nextGroup : IsGroup next connective (before ++ other :: rest))
      (rearranges : Rearranges item other) :
      Rearranges node next

theorem canonicalField_canonicalField (name : String) :
    canonicalField (canonicalField name) = canonicalField name := by
  unfold canonicalField
  grind

theorem eq_of_neutral_iff {a b : Bool} (connective : Connective)
    (same : a = connective.neutral ↔ b = connective.neutral) : a = b := by
  cases connective <;> cases a <;> cases b <;> simp_all [Connective.neutral]

/-- A group may have other conditions as long as all of them are neutral exactly
when the old ones are. -/
theorem IsGroup.keeps {record node next : Value} {connective : Connective}
    {items others : List Value}
    (isGroup : IsGroup node connective items) (nextGroup : IsGroup next connective others)
    (steady : ∀ item ∈ items, Steady record item)
    (nextSteady : ∀ other ∈ others, Steady record other)
    (same : (∀ other ∈ others, belongs other record = connective.neutral) ↔
      ∀ item ∈ items, belongs item record = connective.neutral) :
    Steady record next ∧ belongs next record = belongs node record := by
  refine ⟨nextGroup.steady_iff.mpr nextSteady, eq_of_neutral_iff connective ?_⟩
  rw [nextGroup.belongs_eq_neutral_iff nextSteady, isGroup.belongs_eq_neutral_iff steady, same]

/-- A step keeps a rule that can be decided so, and keeps its truth value. -/
theorem Rearranges.keeps {record node next : Value} (rearranges : Rearranges node next)
    (steady : Steady record node) :
    Steady record next ∧ belongs next record = belongs node record := by
  induction rearranges with
  | permute isGroup nextGroup perm =>
      have each := isGroup.steady_iff.mp steady
      refine isGroup.keeps nextGroup each (fun other otherMem =>
        each other (perm.mem_iff.mpr otherMem)) ?_
      simp only [perm.mem_iff]
  | duplicate isGroup nextGroup =>
      have each := isGroup.steady_iff.mp steady
      refine isGroup.keeps nextGroup each ?_ ?_ <;> simp_all
  | splice isGroup childGroup nextGroup =>
      have each := isGroup.steady_iff.mp steady
      have inner := childGroup.steady_iff.mp (each _ (by simp))
      have child := childGroup.belongs_eq_neutral_iff inner
      refine isGroup.keeps nextGroup each ?_ ?_
      · simp only [List.forall_mem_append, List.forall_mem_cons] at each ⊢
        exact ⟨⟨each.1, inner⟩, each.2.2⟩
      · simp only [List.forall_mem_append, List.forall_mem_cons, child, and_assoc]
  | @unwrap node item connective isGroup =>
      have each := isGroup.steady_iff.mp steady
      refine ⟨each item (List.mem_singleton_self item), eq_of_neutral_iff connective ?_⟩
      rw [isGroup.belongs_eq_neutral_iff each, List.forall_mem_singleton]
  | @wrap node item connective isGroup =>
      have each : ∀ other ∈ [item], Steady record other := List.forall_mem_singleton.mpr steady
      refine ⟨isGroup.steady_iff.mpr each, eq_of_neutral_iff connective ?_⟩
      rw [isGroup.belongs_eq_neutral_iff each, List.forall_mem_singleton]
  | @addEmpty node next child connective before rest isGroup childGroup nextGroup =>
      have each := isGroup.steady_iff.mp steady
      have nothing : Steady record child := childGroup.steady_iff.mpr (by simp)
      have neutral : belongs child record = connective.neutral :=
        (childGroup.belongs_eq_neutral_iff (by simp)).mpr (by simp)
      refine isGroup.keeps nextGroup each ?_ ?_
      · simp only [List.forall_mem_append, List.forall_mem_cons] at each ⊢
        exact ⟨each.1, nothing, each.2⟩
      · simp only [List.forall_mem_append, List.forall_mem_cons, neutral, true_and]
  | @canonical node next operator operand name isCondition nextCondition =>
      have same : evaluate next record = evaluate node record := by
        rw [isCondition.evaluate_eq, nextCondition.evaluate_eq]
        simp only [evaluateCondition, canonicalField_canonicalField]
      constructor
      · rw [nextCondition.steady_iff, same]
        exact isCondition.steady_iff.mp steady
      · rw [belongs, same, belongs]
  | inside isGroup nextGroup _ ih =>
      have each := isGroup.steady_iff.mp steady
      obtain ⟨otherSteady, same⟩ := ih (each _ (by simp))
      refine isGroup.keeps nextGroup each ?_ ?_
      · simp only [List.forall_mem_append, List.forall_mem_cons] at each ⊢
        exact ⟨each.1, otherSteady, each.2.2⟩
      · simp only [List.forall_mem_append, List.forall_mem_cons, same]

/-- Where every condition of a rule can be decided for a record, the rule may be rearranged by any
number of steps, and is evaluated as before. -/
theorem evaluate_eq_of_rearranges {record rule next : Value} (steady : Steady record rule)
    (rearranges : Relation.ReflTransGen Rearranges rule next) :
    evaluate next record = evaluate rule record := by
  have kept : Steady record next ∧ belongs next record = belongs rule record := by
    induction rearranges with
    | refl => exact ⟨steady, rfl⟩
    | tail _ step ih =>
        obtain ⟨stepSteady, same⟩ := step.keeps ih.1
        exact ⟨stepSteady, same.trans ih.2⟩
  rw [kept.1.evaluate_eq, steady.evaluate_eq, kept.2]

/-- Customers from Madrid, or who have spent more than a hundred; a null stands
among the conditions. -/
def spenders : Value :=
  groupNode .any [groupNode .all [conditionNode "total_spend" .gt (.int 100)], .null,
    groupNode .any [conditionNode "city" .eq (.text "Madrid")]]

/-- The same customers, by one group. -/
def spendersRearranged : Value :=
  groupNode .any [.null, conditionNode "city" .eq (.text "Madrid"),
    conditionNode "totalSpend" .gt (.int 100)]

/-- A customer from Madrid. -/
def madrilenian : Value := .map [("totalSpend", .int 50), ("city", .text "Madrid")]

theorem spenders_rearranges :
    Steady madrilenian spenders ∧ Relation.ReflTransGen Rearranges spenders spendersRearranged ∧
      evaluate spendersRearranged madrilenian = evaluate spenders madrilenian ∧
      evaluate spenders madrilenian = .ok true := by
  have spend :
      evaluate (conditionNode "total_spend" .gt (.int 100)) madrilenian = .ok false := by rfl
  have city : evaluate (conditionNode "city" .eq (.text "Madrid")) madrilenian = .ok true := by rfl
  have steady : Steady madrilenian spenders := by
    have spendSteady := (isCondition_conditionNode ..).steady_iff.mpr ⟨false, spend⟩
    have citySteady := (isCondition_conditionNode ..).steady_iff.mpr ⟨true, city⟩
    have nullSteady : Steady madrilenian .null := by
      intro leaf leafOf
      obtain ⟨fields, isMap⟩ := leafOf.isMap
      cases isMap
    rw [spenders, (isGroup_groupNode ..).steady_iff]
    simp only [List.forall_mem_cons, (isGroup_groupNode ..).steady_iff]
    simp [spendSteady, citySteady, nullSteady]
  have steps : Relation.ReflTransGen Rearranges spenders spendersRearranged := by
    let spent := conditionNode "total_spend" .gt (.int 100)
    let canonical := conditionNode "totalSpend" .gt (.int 100)
    let lives := conditionNode "city" .eq (.text "Madrid")
    let rest := [.null, groupNode .any [lives]]
    have unwrapped :
        Rearranges (groupNode .any (groupNode .all [spent] :: rest))
        (groupNode .any (spent :: rest)) :=
      .inside (isGroup_groupNode .any ([] ++ groupNode .all [spent] :: rest))
        (isGroup_groupNode .any ([] ++ spent :: rest)) (.unwrap (isGroup_groupNode .all [spent]))
    have renamed : Rearranges (groupNode .any (spent :: rest))
        (groupNode .any (canonical :: rest)) :=
      .inside (isGroup_groupNode .any ([] ++ spent :: rest))
        (isGroup_groupNode .any ([] ++ canonical :: rest))
        (.canonical (isCondition_conditionNode ..) (isCondition_conditionNode ..))
    have spliced : Rearranges (groupNode .any (canonical :: rest))
        (groupNode .any [canonical, .null, lives]) :=
      .splice (isGroup_groupNode .any ([canonical, .null] ++ groupNode .any [lives] :: []))
        (isGroup_groupNode .any [lives])
        (isGroup_groupNode .any ([canonical, .null] ++ [lives] ++ []))
    have permuted : Rearranges (groupNode .any [canonical, .null, lives]) spendersRearranged :=
      .permute (isGroup_groupNode ..) (isGroup_groupNode ..)
      ((List.Perm.swap ..).trans (.cons _ (.swap ..)))
    exact .head unwrapped (.head renamed (.head spliced (.single permuted)))
  exact ⟨steady, steps, evaluate_eq_of_rearranges steady steps, rfl⟩

end Outreach.Audience
