import BracketScript.Report.Summary
import Mathlib.Logic.Basic
import Mathlib.Logic.Relation
import Mathlib.Tactic.Push

/-!
# Which failures are shown

The lines of failures follow chains of nodes that do not pass, from the root downwards. A node is
shown with its first child if that is a leaf; any other node is shown only if something below it is.
So a failure goes unreported on every chain that never meets a node whose first child is a leaf: a
reason right below the root, or a failing node without children, is not shown.

## Main definitions

* `Report.HasChild`, `Report.FailingChild`: the children of a node, and those that do not pass
* `Report.HasReason`: the first child of a node is a leaf

## Main results

* `Report.failures_ne_nil_iff`: there are failures exactly if a chain leads to a node with a reason
* `Report.exists_edge_of_mem_failures`: each line is an edge that starts at the end of a chain
* `Report.failures_by_chains`: both for all reports
-/

namespace BracketScript.Report

/-- A report has the node right below its root. -/
def HasChild (r node : Report) : Prop := node ∈ r.children

/-- A report has the node right below its root, and the node does not pass. -/
def FailingChild (r node : Report) : Prop := node ∈ r.children ∧ node.passes = false

/-- The first child of the node is a leaf, which tells why the node fails. -/
def HasReason (node : Report) : Prop := ∃ first ∈ node.children.head?, first.children = []

variable {r node : Report} {parent : Label} {line : String}

/-- What holds of a report if it holds of its children holds of all reports. -/
@[elab_as_elim]
theorem induction_on_children {motive : Report → Prop}
    (node : ∀ r, (∀ child ∈ r.children, motive child) → motive r) : ∀ r, motive r
  | ⟨label, children⟩ => node ⟨label, children⟩ fun child hchild =>
    have hsize : sizeOf child < sizeOf (⟨label, children⟩ : Report) :=
      Nat.lt_of_lt_of_le (List.sizeOf_lt_of_mem hchild) (by simp)
    induction_on_children node child
termination_by r => sizeOf r
decreasing_by exact hsize

/-! ### One node -/

/-- A node is not shown if it passes, or if it has no reason and nothing below it is shown. -/
theorem failuresBelow_eq_nil_iff {nested : Report → List String} :
    failuresBelow parent nested node = [] ↔
      node.passes = true ∨ (¬ node.HasReason ∧ nested node = []) := by
  by_cases hpasses : node.passes = true
  · simp [failuresBelow, hpasses]
  · rw [failuresBelow, if_neg hpasses, or_iff_right hpasses]
    split
    next first rest hchildren =>
      have hreason : node.HasReason := ⟨⟨first, []⟩, by simp [hchildren], rfl⟩
      simp [hreason]
    next hchildren =>
      -- no other list of children starts with a leaf
      have hreason : ¬ node.HasReason := by
        rintro ⟨⟨first, below⟩, hfirst, hleaf⟩
        obtain ⟨rest, hrest⟩ := List.head?_eq_some_iff.mp hfirst
        refine hchildren first rest ?_
        rw [hrest, show below = [] from hleaf]
      cases nested node <;> simp [hreason]

/-- What is shown for a node that does not pass: the node, its first child, and what is shown below
it. -/
theorem mem_failuresBelow {nested : Report → List String}
    (h : line ∈ failuresBelow parent nested node) :
    node.passes = false ∧
      (line = edge parent node.label ∨
        (∃ child ∈ node.children, line = edge node.label child.label) ∨ line ∈ nested node) := by
  by_cases hpasses : node.passes = true
  · simp [failuresBelow, hpasses] at h
  · refine ⟨eq_false_of_ne_true hpasses, ?_⟩
    rw [failuresBelow, if_neg hpasses] at h
    split at h
    next first rest hchildren =>
      rcases List.mem_cons.mp h with rfl | h
      · exact .inl rfl
      · refine .inr (.inl ⟨⟨first, []⟩, by simp [hchildren], ?_⟩)
        exact List.mem_singleton.mp h
    next =>
      cases hnested : nested node with
      | nil => simp [hnested] at h
      | cons first rest =>
        rw [hnested] at h
        rcases List.mem_cons.mp h with rfl | h
        · exact .inl rfl
        · exact .inr (.inr h)

/-! ### Chains of nodes -/

/-- A report has failures exactly if a child that does not pass has a reason or failures of its
own. -/
theorem failures_ne_nil_iff_child :
    r.failures ≠ [] ↔ ∃ node, FailingChild r node ∧ (node.HasReason ∨ node.failures ≠ []) := by
  rw [failures_eq_flatMap, Ne, List.flatMap_eq_nil_iff]
  push Not
  refine exists_congr fun node => ?_
  rw [FailingChild, and_assoc, Ne, failuresBelow_eq_nil_iff]
  refine and_congr_right fun _ => ?_
  push Not
  rw [Ne, Bool.not_eq_true, or_iff_not_imp_left]

/-- A report has failures exactly if a chain of nodes that do not pass leads from its root to a node
with a reason. -/
theorem failures_ne_nil_iff :
    r.failures ≠ [] ↔ ∃ node, Relation.TransGen FailingChild r node ∧ node.HasReason := by
  constructor
  · intro h
    induction r using induction_on_children with
    | node r ih =>
      obtain ⟨child, hchild, hreason | hbelow⟩ := failures_ne_nil_iff_child.mp h
      · exact ⟨child, .single hchild, hreason⟩
      · obtain ⟨node, hchain, hreason⟩ := ih child hchild.1 hbelow
        exact ⟨node, .head hchild hchain, hreason⟩
  · rintro ⟨node, hchain, hreason⟩
    -- from the end of the chain upwards, each node has failures because the next one is shown
    induction hchain using Relation.TransGen.head_induction_on with
    | single hchild => exact failures_ne_nil_iff_child.mpr ⟨node, hchild, .inl hreason⟩
    | head hchild _ ih => exact failures_ne_nil_iff_child.mpr ⟨_, hchild, .inr ih⟩

/-- A line of failures is an edge of the report that starts at the root or at the end of a chain of
nodes that do not pass. -/
theorem exists_edge_of_mem_failures (h : line ∈ r.failures) :
    ∃ parent child, Relation.ReflTransGen FailingChild r parent ∧ HasChild parent child ∧
      line = edge parent.label child.label := by
  induction r using induction_on_children with
  | node r ih =>
    rw [failures_eq_flatMap, List.mem_flatMap] at h
    obtain ⟨node, hnode, h⟩ := h
    obtain ⟨hfails, rfl | ⟨child, hchild, rfl⟩ | hbelow⟩ := mem_failuresBelow h
    · exact ⟨r, node, .refl, hnode, rfl⟩
    · exact ⟨node, child, .single ⟨hnode, hfails⟩, hchild, rfl⟩
    · obtain ⟨parent, child, hchain, hchild, hline⟩ := ih node hnode hbelow
      exact ⟨parent, child, .head ⟨hnode, hfails⟩ hchain, hchild, hline⟩

/-- Nothing is shown of a report exactly if no chain of nodes that do not pass leads from its root
to a node whose first child is a leaf. What is shown are edges of the report, each from the root or
from the end of such a chain. -/
theorem failures_by_chains (r : Report) :
    (r.failures = [] ↔
      ¬ ∃ node, Relation.TransGen FailingChild r node ∧
        ∃ first ∈ node.children.head?, first.children = []) ∧
    ∀ line ∈ r.failures, ∃ parent child : Report,
      (parent = r ∨ Relation.TransGen FailingChild r parent) ∧ child ∈ parent.children ∧
        line = edge parent.label child.label := by
  refine ⟨?_, fun line hline => ?_⟩
  · rw [iff_not_comm]
    exact failures_ne_nil_iff.symm
  · obtain ⟨parent, child, hchain, hchild, rfl⟩ := exists_edge_of_mem_failures hline
    exact ⟨parent, child, Relation.reflTransGen_iff_eq_or_transGen.mp hchain, hchild, rfl⟩

/-- A report with a failure three levels down, and one right below the root. -/
def partlyShown : Report :=
  ⟨.text "d", [⟨.text "d/a", [⟨.text "line", [ofText "reason"]⟩]⟩, ofText "no reason"]⟩

/-- The line for the reason starts at a node that does not pass; the failure right below the root is
not shown. -/
theorem failures_by_chains_partly_shown :
    partlyShown.failures = ["d: d/a", "d/a: line", "line: reason"] ∧
      ∃ parent child : Report,
        (parent = partlyShown ∨ Relation.TransGen FailingChild partlyShown parent) ∧
          child ∈ parent.children ∧ "line: reason" = edge parent.label child.label := by
  have hedges : partlyShown.failures = [edge (.text "d") (.text "d/a"),
      edge (.text "d/a") (.text "line"), edge (.text "line") (.text "reason")] := by
    simp [partlyShown, failures_eq_flatMap, failuresBelow, passes_text, ofText, leaf]
  have hlines : partlyShown.failures = ["d: d/a", "d/a: line", "line: reason"] := by
    rw [hedges]
    decide +kernel
  exact ⟨hlines, (failures_by_chains partlyShown).2 _ (by rw [hlines]; simp)⟩

end BracketScript.Report
