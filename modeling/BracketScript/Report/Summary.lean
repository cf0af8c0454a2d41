import BracketScript.Report.Basic

/-!
# Report lines

A finished report is shown as two lists of lines of the form `parent: child`: those of the branches
that failed, and those of the parts that passed as a whole.

## Main definitions

* `Report.failures`: the lines of the failing branches
* `Report.successes`: the lines of the passing parts that are more than one passed line
-/

namespace BracketScript.Report

/-- The line for a node and one of its children. -/
def edge (parent child : Label) : String :=
  parent.display ++ ": " ++ child.display

/-- The lines of the failing branches below a node with the given label: for a failing child whose
own first child is a leaf, the child and that leaf; for any other failing child, the child before
the lines below it, if there are any. -/
def failuresBelow (parent : Label) (nested : Report → List String) (node : Report) :
    List String :=
  if node.passes then []
  else match node.children with
    | ⟨first, []⟩ :: _ => [edge parent node.label, edge node.label first]
    | _ =>
      match nested node with
      | [] => []
      | line :: lines => edge parent node.label :: line :: lines

mutual

/-- The lines of the failing branches of a report. -/
def failures : Report → List String
  | ⟨label, children⟩ => failuresOf label children

/-- The lines of the failing branches that start with the given children of a node. -/
def failuresOf (parent : Label) : List Report → List String
  | [] => []
  | ⟨label, children⟩ :: rest =>
    failuresBelow parent (fun _ => failuresOf label children) ⟨label, children⟩ ++
      failuresOf parent rest

end

mutual

/-- The lines of the passing parts of a report that are more than one passed line. -/
def successes : Report → List String
  | ⟨label, children⟩ => successesOf label children

/-- The lines of the passing parts that start with the given children of a node. -/
def successesOf (parent : Label) : List Report → List String
  | [] => []
  | ⟨label, children⟩ :: rest =>
    (if passes ⟨label, children⟩ && 1 < depth ⟨label, children⟩ then
      edge parent label :: successesOf label children
    else []) ++ successesOf parent rest

end

/-- The failures of a report are those of its children, in order. -/
theorem failures_eq_flatMap (r : Report) :
    r.failures = r.children.flatMap (failuresBelow r.label failures) := by
  obtain ⟨label, children⟩ := r
  rw [failures]
  induction children with
  | nil => simp [failuresOf]
  | cons node rest ih =>
    obtain ⟨l, cs⟩ := node
    rw [failuresOf, ih, List.flatMap_cons]
    simp only [failuresBelow, failures]

/-- The successes of a report are those of its children, in order. -/
theorem successes_eq_flatMap (r : Report) :
    r.successes = r.children.flatMap fun node =>
      if node.passes && 1 < node.depth then edge r.label node.label :: node.successes else [] := by
  obtain ⟨label, children⟩ := r
  rw [successes]
  induction children with
  | nil => simp [successesOf]
  | cons node rest ih =>
    obtain ⟨l, cs⟩ := node
    rw [successesOf, ih, List.flatMap_cons, successes]

end BracketScript.Report
