import Outreach.Audience.Outline
import Outreach.Proofs.Audience.Acceptance
import Outreach.Proofs.Outcome
import Outreach.Proofs.Text.Lines

/-!
# Lines of an outline

The outline of an accepted rule joins one text for each node, in preorder and indented by its depth.
These texts are the lines of the outline as long as the name of no field has a line end in it, which
the check of rules does not ask for.
-/

namespace Outreach.Audience

open Text

/-! ## Nodes in preorder -/

/-- A node with a text of its own. -/
inductive Node where
  | group (connective : Connective)
  | condition (field operator operand : Value)

namespace Node

/-- What is written of a node: the word of a group, or the three parts of a condition. -/
def label : Node → String
  | .group connective => connective.word
  | .condition field operator operand =>
    field.display ++ " " ++ operator.display ++ " " ++ operand.literal

/-- The name of the field that a node compares. -/
def fieldName? : Node → Option String
  | .condition (.text name) _ _ => some name
  | _ => none

/-- The node holds no whole number that is too long to be written. -/
def isWritable : Node → Bool
  | .group _ => true
  | .condition _ _ operand => operand.isWritable

end Node

namespace Rule

mutual

/-- The nodes of a rule in preorder, each with its depth, from a depth of the root on. -/
def nodes (level : Nat) : Rule → List (Nat × Node)
  | .malformed => []
  | .group connective rules => (level, .group connective) :: nodesOf (level + 1) rules
  | .unlisted connective _ => [(level, .group connective)]
  | .condition field operator operand => [(level, .condition field operator operand)]

/-- The nodes of several rules, one rule after the other. -/
def nodesOf (level : Nat) : List Rule → List (Nat × Node)
  | [] => []
  | rule :: rest => nodes level rule ++ nodesOf level rest

end

theorem nodesOf_eq_flatMap (level : Nat) (rules : List Rule) :
    nodesOf level rules = rules.flatMap (nodes level) := by
  induction rules with
  | nil => rw [nodesOf, List.flatMap_nil]
  | cons rule rest ih => rw [nodesOf, List.flatMap_cons, ih]

theorem nodeCounts_eq_sum (rules : List Rule) : nodeCounts rules = (rules.map nodeCount).sum := by
  induction rules with
  | nil => rw [nodeCounts, List.map_nil, List.sum_nil]
  | cons rule rest ih => rw [nodeCounts, List.map_cons, List.sum_cons, ih]

/-- The names of the fields that a rule compares. -/
def fieldNames (rule : Rule) : List String := (rule.nodes 0).filterMap (·.2.fieldName?)

end Rule

/-- The text of a node in an outline: two blanks for each level, and what is written of the node. -/
def nodeLine (depth : Int) (entry : Nat × Node) : String :=
  indent (depth + entry.1) ++ entry.2.label

/-- Below a depth that is no less than zero there are exactly two blanks for each level. -/
theorem toList_nodeLine (depth : Nat) (entry : Nat × Node) : (nodeLine depth entry).toList =
    List.replicate (2 * (depth + entry.1)) ' ' ++ entry.2.label.toList := by
  have count : (2 * ((depth : Int) + entry.1)).toNat = 2 * (depth + entry.1) := by omega
  rw [nodeLine, indent, String.toList_append, String.toList_ofList, count]

/-! ## Rules of groups and conditions -/

/-- A node that compares a field by one of the signs with what passes as an operand, or a group. -/
inductive Node.Plain : Node → Prop
  | group (connective : Connective) : Plain (.group connective)
  | condition (name : String) (comparison : Comparison) {operand : Value}
      (against : Form.PassesAsOperand operand) :
      Plain (.condition (.text name) (.text comparison.symbol) operand)

/-- A rule in which every group lists its rules and every node is plain. -/
inductive Rule.Plain : Rule → Prop
  | group (connective : Connective) {rules : List Rule} (each : ∀ rule ∈ rules, Plain rule) :
      Plain (.group connective rules)
  | condition {field operator operand : Value}
      (plain : Node.Plain (.condition field operator operand)) :
      Plain (.condition field operator operand)

theorem plain_of_wireRule {isName : String → Prop} {value : Value}
    (wire : Form.WireRule isName Form.PassesAsOperand value) : (Rule.ofValue value).Plain := by
  induction wire with
  | group isGroup _ ih =>
      rw [isGroup.ofValue_eq]
      refine .group _ fun rule ruleMem => ?_
      obtain ⟨item, itemMem, rfl⟩ := List.mem_map.mp ruleMem
      exact ih item itemMem
  | condition isCondition _ against =>
      rw [isCondition.ofValue_eq]
      exact .condition (.condition _ _ against)

namespace Node

theorem label_ne_empty (node : Node) : node.label ≠ "" := by
  cases node with
  | group connective => cases connective <;> simp [label, Connective.word]
  | condition field operator operand => simp [label]

theorem breaks_literal {operand : Value} (against : Form.PassesAsOperand operand) :
    breaks operand.literal = 0 := by
  cases against with
  | truth b => cases b <;> rfl
  | operand isOperand =>
      cases isOperand with
      | int i => exact breaks_writeInt i
      | float x => exact breaks_write x
      | text s => exact breaks_quote s

/-- All line ends of a plain node are those in the name of its field. -/
theorem Plain.breaks_label {node : Node} (plain : node.Plain) :
    breaks node.label = (node.fieldName?.map breaks).getD 0 := by
  cases plain with
  | group connective => cases connective <;> rfl
  | condition name comparison against =>
      have sign : breaks comparison.symbol = 0 := by cases comparison <;> rfl
      have blank : breaks " " = 0 := rfl
      change breaks (name ++ " " ++ comparison.symbol ++ " " ++ _) = breaks name
      simp only [breaks_append, breaks_literal against, sign, blank, Nat.add_zero]

end Node

theorem breaks_nodeLine (depth : Int) {entry : Nat × Node} (plain : entry.2.Plain) :
    breaks (nodeLine depth entry) = (entry.2.fieldName?.map breaks).getD 0 := by
  have blanks : breaks (indent (depth + entry.1)) = 0 := by
    apply breaks_eq_zero_of_ne
    intro c member
    rw [indent, String.toList_ofList] at member
    rw [List.eq_of_mem_replicate member]
    decide
  rw [nodeLine, breaks_append, blanks, Nat.zero_add, plain.breaks_label]

theorem nodeLine_ne_empty (depth : Int) (entry : Nat × Node) : nodeLine depth entry ≠ "" := by
  rw [nodeLine]
  simp [entry.2.label_ne_empty]

namespace Rule

theorem Plain.nodes_ne_nil {rule : Rule} (plain : rule.Plain) (level : Nat) :
    rule.nodes level ≠ [] := by
  cases plain <;> simp [nodes]

theorem Plain.node_plain {rule : Rule} (plain : rule.Plain) (level : Nat) :
    ∀ entry ∈ rule.nodes level, entry.2.Plain := by
  induction plain generalizing level with
  | group connective each ih =>
      rw [nodes, nodesOf_eq_flatMap]
      refine List.forall_mem_cons.mpr ⟨.group connective, fun entry entryMem => ?_⟩
      obtain ⟨rule, ruleMem, inside⟩ := List.mem_flatMap.mp entryMem
      exact ih rule ruleMem (level + 1) entry inside
  | condition plain =>
      rw [nodes]
      exact List.forall_mem_singleton.mpr plain

/-- Each node of a plain rule has its text. -/
theorem Plain.length_nodes {rule : Rule} (plain : rule.Plain) (level : Nat) :
    (rule.nodes level).length = rule.nodeCount := by
  induction plain generalizing level with
  | group connective each ih =>
      rw [nodes, nodeCount, nodesOf_eq_flatMap, nodeCounts_eq_sum, List.length_cons,
        List.length_flatMap]
      congr 2
      exact List.map_congr_left fun rule ruleMem => ih rule ruleMem (level + 1)
  | condition plain => simp [nodes, nodeCount]

/-! ## What is written -/

/-- The texts of the nodes of a rule at some depth, joined by line ends. -/
def joined (depth : Int) (level : Nat) (rule : Rule) : String :=
  "\n".intercalate ((rule.nodes level).map (nodeLine depth))

theorem Plain.joined_ne_empty {rule : Rule} (plain : rule.Plain) (depth : Int) (level : Nat) :
    rule.joined depth level ≠ "" := by
  rw [joined]
  cases found : rule.nodes level with
  | nil => exact absurd found (plain.nodes_ne_nil level)
  | cons first rest => exact join_ne_empty (nodeLine_ne_empty depth first) _

/-- All nodes of the rule can be written. -/
def Writable (level : Nat) (rule : Rule) : Prop :=
  ∀ entry ∈ rule.nodes level, entry.2.isWritable = true

/-- The outlines of several rules are there if each of them is. -/
theorem outlines_eq_ok_iff {depth : Int} {level : Nat} {rules : List Rule}
    (each : ∀ rule ∈ rules, ∀ text, rule.outline (depth + level) = .ok text ↔
      rule.Writable level ∧ text = rule.joined depth level) (texts : List String) :
    outlines (depth + level) rules = .ok texts ↔
      (∀ rule ∈ rules, rule.Writable level) ∧ texts = rules.map (joined depth level) := by
  induction rules generalizing texts with
  | nil => simp [outlines, eq_comm]
  | cons rule rest ih =>
      obtain ⟨ruleOutline, restOutline⟩ := List.forall_mem_cons.mp each
      rw [outlines, List.forall_mem_cons, List.map_cons]
      constructor
      · intro written
        obtain ⟨text, first, later⟩ := bind_eq_ok_iff.mp written
        obtain ⟨others, othersEq, last⟩ := bind_eq_ok_iff.mp later
        obtain rfl := Except.ok.inj last
        obtain ⟨ruleWritable, rfl⟩ := (ruleOutline text).mp first
        obtain ⟨restWritable, rfl⟩ := (ih restOutline others).mp othersEq
        exact ⟨⟨ruleWritable, restWritable⟩, rfl⟩
      · rintro ⟨⟨ruleWritable, restWritable⟩, rfl⟩
        exact bind_eq_ok_iff.mpr ⟨_, (ruleOutline _).mpr ⟨ruleWritable, rfl⟩,
          bind_eq_ok_iff.mpr ⟨_, (ih restOutline _).mpr ⟨restWritable, rfl⟩, rfl⟩⟩

/-- The outline of a plain rule is there exactly if all of its nodes can be written, and
it joins their texts. -/
theorem Plain.outline_eq_ok_iff {rule : Rule} (plain : rule.Plain) (depth : Int) (level : Nat)
    (text : String) :
    rule.outline (depth + level) = .ok text ↔ rule.Writable level ∧
    text = rule.joined depth level := by
  induction plain generalizing level text with
  | @group connective rules each ih =>
      have deeper : depth + level + 1 = depth + (level + 1 : Nat) := by push_cast; omega
      have rendered := outlines_eq_ok_iff fun rule ruleMem => ih rule ruleMem (level + 1)
      have allSome : ∀ rule ∈ rules, (rule.nodes (level + 1)).map (nodeLine depth) ≠ [] :=
        fun rule ruleMem => by
        simpa using (each rule ruleMem).nodes_ne_nil (level + 1)
      have writable : (Rule.group connective rules).Writable level ↔
          ∀ rule ∈ rules, rule.Writable (level + 1) := by
        simp only [Writable, nodes, nodesOf_eq_flatMap, List.forall_mem_cons, List.mem_flatMap]
        constructor
        · exact fun ⟨_, below⟩ rule ruleMem entry inside => below entry ⟨rule, ruleMem, inside⟩
        · exact fun below =>
            ⟨rfl, fun entry ⟨rule, ruleMem, inside⟩ => below rule ruleMem entry inside⟩
      have all : (rules.map (joined depth (level + 1))).filter (· ≠ "") =
          rules.map (joined depth (level + 1)) := by
        rw [List.filter_eq_self]
        intro line lineMem
        obtain ⟨rule, ruleMem, rfl⟩ := List.mem_map.mp lineMem
        simpa using (each rule ruleMem).joined_ne_empty depth (level + 1)
      have join : "\n".intercalate
          ((indent (depth + level) ++ connective.word) :: rules.map (joined depth (level + 1))) =
          (Rule.group connective rules).joined depth level := by
        rw [joined, nodes, nodesOf_eq_flatMap, List.map_cons,
          List.map_flatMap, ← join_joined allSome]
        rfl
      rw [outline, deeper, writable, ← join]
      constructor
      · intro written
        obtain ⟨texts, textsEq, last⟩ := bind_eq_ok_iff.mp written
        obtain ⟨below, rfl⟩ := (rendered texts).mp textsEq
        rw [all] at last
        exact ⟨below, (Except.ok.inj last).symm⟩
      · rintro ⟨below, rfl⟩
        refine bind_eq_ok_iff.mpr ⟨_, (rendered _).mpr ⟨below, rfl⟩, ?_⟩
        rw [all]
  | @condition field operator operand plain =>
      cases plain with
      | condition name comparison against =>
          rw [outline, joined, nodes, Writable, nodes, List.forall_mem_singleton,
            List.map_singleton, String.intercalate_singleton]
          cases writable : operand.isWritable <;>
            simp [Value.isWritable, Node.isWritable, writable, nodeLine, Node.label,
              conditionLine, eq_comm, String.append_assoc]

/-! ## Line by line -/

/-- All line ends in the texts of plain nodes are those in the names of fields. -/
theorem breaksIn_nodeLines (depth : Int) {entries : List (Nat × Node)}
    (plain : ∀ entry ∈ entries, entry.2.Plain) :
    breaksIn (entries.map (nodeLine depth)) = breaksIn (entries.filterMap (·.2.fieldName?)) := by
  induction entries with
  | nil => rfl
  | cons entry rest ih =>
      obtain ⟨entryPlain, restPlain⟩ := List.forall_mem_cons.mp plain
      rw [List.map_cons, breaksIn_cons, ih restPlain, breaks_nodeLine depth entryPlain,
        List.filterMap_cons]
      cases entry.2.fieldName? with
      | none => exact Nat.zero_add _
      | some name => exact (breaksIn_cons name _).symm

/-- An outline has the text of each node, in preorder and indented by its depth, and a line more for
each line end in the name of a field. It is there exactly if all nodes can be written. -/
structure Outlined (rule : Rule) (depth : Int) : Prop where
  written : (∃ text, rule.outline depth = .ok text) ↔ rule.Writable 0
  count : (rule.nodes 0).length = rule.nodeCount
  indents : ∀ start : Nat, depth = start → ∀ entry ∈ rule.nodes 0, (nodeLine depth entry).toList =
    List.replicate (2 * (start + entry.1)) ' ' ++ entry.2.label.toList
  joins : ∀ text, rule.outline depth = .ok text →
    text = "\n".intercalate ((rule.nodes 0).map (nodeLine depth))
  length : ∀ text, rule.outline depth = .ok text →
    (linesOf text).length = rule.nodeCount + breaksIn rule.fieldNames
  lines : ∀ text, rule.outline depth = .ok text →
    (linesOf text = ((rule.nodes 0).map (nodeLine depth)).map String.toList ↔
      ∀ name ∈ rule.fieldNames, '\n' ∉ name.toList)

theorem Plain.outlined {rule : Rule} (plain : rule.Plain) (depth : Int) : rule.Outlined depth := by
  have some : (rule.nodes 0).map (nodeLine depth) ≠ [] := by simpa using plain.nodes_ne_nil 0
  have outline_iff (text : String) : rule.outline depth = .ok text ↔
      rule.Writable 0 ∧ text = "\n".intercalate ((rule.nodes 0).map (nodeLine depth)) := by
    simpa [joined] using plain.outline_eq_ok_iff depth 0 text
  have breaksEq : breaksIn ((rule.nodes 0).map (nodeLine depth)) = breaksIn rule.fieldNames :=
    breaksIn_nodeLines depth (plain.node_plain 0)
  refine ⟨?_, plain.length_nodes 0, ?_, ?_, ?_, ?_⟩
  · simp only [outline_iff, exists_and_left, exists_eq, and_true]
  · rintro start rfl entry -
    exact toList_nodeLine start entry
  · exact fun text written => ((outline_iff text).mp written).2
  · intro text written
    obtain ⟨-, rfl⟩ := (outline_iff text).mp written
    rw [length_linesOf_join some, breaksEq, List.length_map, plain.length_nodes]
  · intro text written
    obtain ⟨-, rfl⟩ := (outline_iff text).mp written
    rw [linesOf_join_iff some, breaksEq, breaksIn_eq_zero_iff]

end Rule

/-! ## Rules that were accepted -/

mutual

/-- A rule that is stored is one of the wire format. -/
theorem wireRule_toValue : ∀ rule : Form.SegmentRule,
    Form.WireRule (fun _ => True) Form.PassesAsOperand rule.toValue
  | .group connective rules =>
    .group (Form.isGroup_toValue connective rules) (wireRule_toValues rules)
  | .condition name comparison (.whole i) =>
    .condition (Form.isCondition_toValue name comparison (.whole i)) trivial (.operand (.int i))
  | .condition name comparison (.real x) =>
    .condition (Form.isCondition_toValue name comparison (.real x)) trivial (.operand (.float x))
  | .condition name comparison (.word s) =>
    .condition (Form.isCondition_toValue name comparison (.word s)) trivial (.operand (.text s))

/-- So is each of several rules. -/
theorem wireRule_toValues :
    ∀ rules : List Form.SegmentRule, ∀ value ∈ Form.SegmentRule.toValues rules,
    Form.WireRule (fun _ => True) Form.PassesAsOperand value
  | [], value, valueMem => by simp [Form.SegmentRule.toValues] at valueMem
  | rule :: rest, value, valueMem => by
    rw [Form.SegmentRule.toValues] at valueMem
    rcases List.mem_cons.mp valueMem with rfl | inRest
    · exact wireRule_toValue rule
    · exact wireRule_toValues rest value inRest

end

/-- What was accepted as a rule is outlined node by node, as it came and as it is stored. -/
theorem accepted_rule_outlined {place : Form.Place} {value : Value} {rule : Form.SegmentRule}
    (valid : Form.segmentRule place value = .valid rule) (depth : Int) :
    (Rule.ofValue value).Outlined depth ∧ (Rule.ofValue rule.toValue).Outlined depth :=
  ⟨(plain_of_wireRule (Form.wireRule_of_segmentRule valid)).outlined depth,
    (plain_of_wireRule (wireRule_toValue rule)).outlined depth⟩

/-- Regular customers of a town. -/
def regulars : Form.SegmentRule :=
  .group .all [.condition "visits" .gt (.whole 2),
    .group .any [.condition "city" .eq (.word "Oslo")]]

theorem regulars_nodes : (Rule.ofValue regulars.toValue).nodes 0 =
    [(0, .group .all), (1, .condition (.text "visits") (.text ">") (.int 2)), (1, .group .any),
      (2, .condition (.text "city") (.text "=") (.text "Oslo"))] := rfl

theorem regulars_accepted : ∃ rule, Form.segmentRule .top regulars.toValue = .valid rule := by
  have visits : Form.IsFieldName "visits" := ⟨by decide, by decide⟩
  have city : Form.IsFieldName "city" := ⟨by decide, by decide⟩
  apply Form.exists_segmentRule_iff.mpr
  refine .group (Form.isGroup_toValue _ _)
    (List.forall_mem_cons.mpr ⟨?_, List.forall_mem_singleton.mpr ?_⟩)
  · exact .condition (Form.isCondition_toValue _ _ (.whole 2)) visits (.operand (.int 2))
  · refine .group (Form.isGroup_toValue _ _) (List.forall_mem_singleton.mpr ?_)
    exact .condition (Form.isCondition_toValue _ _ (.word "Oslo")) city (.operand (.text "Oslo"))

/-- The four nodes have a line each. -/
theorem regulars_outlined : ∃ text, (Rule.ofValue regulars.toValue).outline 1 = .ok text ∧
    linesOf text = ["  AND", "    visits > 2", "    OR", "      city = 'Oslo'"].map
    String.toList := by
  obtain ⟨rule, valid⟩ := regulars_accepted
  have outlined := (accepted_rule_outlined valid 1).1
  have writable : (Rule.ofValue regulars.toValue).Writable 0 := by
    rw [Rule.Writable, regulars_nodes]
    decide +kernel
  have named : ∀ name ∈ (Rule.ofValue regulars.toValue).fieldNames, '\n' ∉ name.toList := by
    rw [Rule.fieldNames, regulars_nodes]
    decide
  obtain ⟨text, written⟩ := outlined.written.mpr writable
  refine ⟨text, written, ?_⟩
  rw [(outlined.lines text written).mpr named, regulars_nodes]
  decide +kernel

/-- A field whose name has a line end in it. -/
def brokenName : Value := conditionNode "city\nname" .eq (.text "Oslo")

/-- The single node of an accepted rule takes two lines. -/
theorem brokenName_takes_two_lines : (∃ rule, Form.segmentRule .top brokenName = .valid rule) ∧
    (Rule.ofValue brokenName).nodeCount = 1 ∧
    ∃ text, (Rule.ofValue brokenName).outline 0 = .ok text ∧ (linesOf text).length = 2 := by
  have named : Form.IsFieldName "city\nname" := ⟨by decide, by decide +kernel⟩
  have isCondition :
      IsCondition brokenName (.text "city\nname") (.text Comparison.eq.symbol) (.text "Oslo") :=
    isCondition_conditionNode _ _ _
  refine ⟨Form.exists_segmentRule_iff.mpr
    (.condition isCondition named (.operand (.text "Oslo"))), rfl, ?_⟩
  exact ⟨_, rfl, by decide +kernel⟩

end Outreach.Audience
