/-!
# Report trees

The result of a run is a tree of labels. A file's report has one child per evaluated line, and each
line has its outcomes below it: the pass mark, or the text of an error. A directory's report has the
reports of its entries below it.

## Main definitions

* `Label`: a text or the pass mark
* `Report`: a label and its children, in order
* `Report.addTree`: merges a report into the node of the same label
* `Report.add`: puts a leaf below the node of a given label
* `Report.passes`: whether everything below a node passed
* `Report.depth`: the length of the chain of last children

## Main results

* `Report.addTree_label`, `Report.add_label`: the label of the root is kept
* `Report.allPass_eq_all`: all children pass exactly if each does
-/

namespace BracketScript

/-- The label of a node of a report. -/
inductive Label where
  /-- A path, the source text of a line, or an error message. -/
  | text (s : String)
  /-- The line ran to completion with nothing further to report. -/
  | pass
  deriving DecidableEq, Repr, Inhabited

/-- The text of the pass mark. -/
def passText : String := "[Pass()]"

/-- How a label is displayed. -/
def Label.display : Label → String
  | text s => s
  | pass => passText

/-- A node of a report: a label and its children. -/
structure Report where
  /-- What the node is about. -/
  label : Label
  /-- The nodes below it, in order. -/
  children : List Report
  deriving Repr, Inhabited

namespace Report

mutual

/-- Whether two reports are the same. -/
def decEq : (a b : Report) → Decidable (a = b)
  | ⟨l, cs⟩, ⟨m, ds⟩ =>
    if h : l = m then
      match decEqAll cs ds with
      | .isTrue h' => .isTrue (by rw [h, h'])
      | .isFalse h' => .isFalse (fun e => h' (by injection e))
    else .isFalse (fun e => h (by injection e))

/-- Whether two lists of reports are the same. -/
def decEqAll : (as bs : List Report) → Decidable (as = bs)
  | [], [] => .isTrue rfl
  | [], _ :: _ => .isFalse (by intro h; cases h)
  | _ :: _, [] => .isFalse (by intro h; cases h)
  | a :: as, b :: bs =>
    match decEq a b, decEqAll as bs with
    | .isTrue h, .isTrue h' => .isTrue (by rw [h, h'])
    | .isFalse h, _ => .isFalse (fun e => h (by injection e))
    | _, .isFalse h => .isFalse (fun e => h (by injection e))

end

instance : DecidableEq Report := decEq

/-- A node without children. -/
def leaf (label : Label) : Report := ⟨label, []⟩

/-- A node labelled with a text, without children. -/
def ofText (s : String) : Report := leaf (.text s)

/-- Merges `other` into this report. If the labels agree its children are appended to this node's;
otherwise they are appended to those of each child with that label. Deeper nodes are not searched,
and a label that matches nowhere drops the merge. -/
def addTree (r other : Report) : Report :=
  if r.label = other.label then ⟨r.label, r.children ++ other.children⟩
  else
    ⟨r.label, r.children.map fun child =>
      if child.label = other.label then ⟨child.label, child.children ++ other.children⟩ else child⟩

/-- Puts a leaf `child` below the node labelled `parent`, by the rule of `addTree`. -/
def add (r : Report) (parent child : Label) : Report :=
  r.addTree ⟨parent, [leaf child]⟩

mutual

/-- A node passes if it is the pass mark, or if it has children and all of them pass. -/
def passes : Report → Bool
  | ⟨.pass, _⟩ => true
  | ⟨.text _, children⟩ => !children.isEmpty && allPass children

/-- All of the nodes pass. -/
def allPass : List Report → Bool
  | [] => true
  | r :: rs => passes r && allPass rs

end

mutual

/-- The length of the chain that goes from a node to its last child, to that one's last child, and
so on. -/
def depth : Report → Nat
  | ⟨_, children⟩ => depthBelow children

/-- The length of the chain that goes through the last of the nodes. -/
def depthBelow : List Report → Nat
  | [] => 0
  | [r] => depth r + 1
  | _ :: rs => depthBelow rs

end

@[simp] theorem addTree_label (report other : Report) :
    (report.addTree other).label = report.label := by
  rw [addTree]
  split <;> rfl

@[simp] theorem add_label (report : Report) (parent child : Label) :
    (report.add parent child).label = report.label :=
  addTree_label _ _

@[simp] theorem ofText_label (s : String) : (ofText s).label = .text s := rfl

/-- All children pass exactly if each does. -/
theorem allPass_eq_all (rs : List Report) : allPass rs = rs.all passes := by
  induction rs with
  | nil => rfl
  | cons r rs ih => simp [allPass, ih]

/-- A node labelled with a text passes if it has children and all of them pass. -/
theorem passes_text (s : String) (children : List Report) :
    passes ⟨.text s, children⟩ = (!children.isEmpty && children.all passes) := by
  simp [passes, allPass_eq_all]

@[simp] theorem passes_pass (children : List Report) : passes ⟨.pass, children⟩ = true := by
  simp [passes]

end Report

end BracketScript
