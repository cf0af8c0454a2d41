import BracketScript.Proofs.FailureChains
import BracketScript.Proofs.Steps

/-!
# The reports of a session

Not every tree is the report of a run: the pass mark is put below a line and never has anything
below it, and the root is labelled with the path of the target. Reports are built in few ways, by
putting a leaf or another report below a text, and none of them puts anything below a pass mark. So
a session only ever holds such reports, also while they are parked as the arguments of a call. Of a
tree in which failures are hidden below a pass mark it cannot be said that nothing failed if it
passes; of the reports of a session it can.

## Main definitions

* `Report.MarksAreLeaves`: nothing is below a pass mark
* `Report.IsWellFormed`: the root is labelled with a text, and nothing is below a pass mark
* `Regime.wellFormed`: only such reports are built and held

## Main results

* `Report.IsWellFormed.addTree`: merging well-formed reports gives one
* `Report.failures_eq_nil_of_passes`: a report with a text at the root that passes has no failures
* `Session.reports_wellFormed`: a session builds and holds well-formed reports only
-/

namespace BracketScript

namespace Report

/-- Nothing is below a pass mark, however deep the mark is in the report. -/
def MarksAreLeaves (r : Report) : Prop :=
  ∀ node, Relation.ReflTransGen HasChild r node → node.label = .pass → node.children = []

/-- The root is labelled with a text, and nothing is below a pass mark. -/
structure IsWellFormed (r : Report) : Prop where
  label : ∃ text, r.label = .text text
  marks : r.MarksAreLeaves

variable {r tree : Report}

/-- Whether nothing is below a pass mark can be told from the root and from its children. -/
theorem marksAreLeaves_iff : r.MarksAreLeaves ↔
    (r.label = .pass → r.children = []) ∧ ∀ child ∈ r.children, child.MarksAreLeaves := by
  constructor
  · intro h
    exact ⟨h r .refl, fun child hchild node hnode => h node (.head hchild hnode)⟩
  · rintro ⟨hroot, hchildren⟩ node hnode
    rcases hnode.cases_head with rfl | ⟨child, hchild, hbelow⟩
    · exact hroot
    · exact hchildren child hchild node hbelow

theorem MarksAreLeaves.child (h : r.MarksAreLeaves) {child : Report} (hchild : child ∈ r.children) :
    child.MarksAreLeaves :=
  (marksAreLeaves_iff.mp h).2 child hchild

theorem marksAreLeaves_leaf (label : Label) : (leaf label).MarksAreLeaves :=
  marksAreLeaves_iff.mpr ⟨fun _ => rfl, fun _ h => nomatch h⟩

theorem isWellFormed_ofText (text : String) : (ofText text).IsWellFormed :=
  ⟨⟨text, rfl⟩, marksAreLeaves_leaf _⟩

/-- A leaf put below a text. -/
theorem isWellFormed_text_leaf (text : String) (label : Label) :
    IsWellFormed ⟨.text text, [leaf label]⟩ := by
  refine ⟨⟨text, rfl⟩, marksAreLeaves_iff.mpr ⟨nofun, fun child hchild => ?_⟩⟩
  obtain rfl := List.mem_singleton.mp hchild
  exact marksAreLeaves_leaf label

/-- What is below a text can be put below another node with that text. -/
theorem MarksAreLeaves.append (hr : r.MarksAreLeaves) (htree : tree.IsWellFormed)
    (hlabel : r.label = tree.label) : MarksAreLeaves ⟨r.label, r.children ++ tree.children⟩ := by
  obtain ⟨text, htext⟩ := htree.label
  refine marksAreLeaves_iff.mpr ⟨fun hpass => ?_, fun child hchild => ?_⟩
  · have hpass : r.label = .pass := hpass
    rw [hlabel, htext] at hpass
    exact nomatch hpass
  · rcases List.mem_append.mp hchild with hchild | hchild
    · exact hr.child hchild
    · exact htree.marks.child hchild

theorem MarksAreLeaves.addTree (hr : r.MarksAreLeaves) (htree : tree.IsWellFormed) :
    (r.addTree tree).MarksAreLeaves := by
  unfold Report.addTree
  split
  next hlabel => exact hr.append htree hlabel
  next =>
    -- the root keeps its children, and those labelled like the other report get more below them
    refine marksAreLeaves_iff.mpr ⟨fun hpass => ?_, fun child hchild => ?_⟩
    · rw [show r.children = [] from (marksAreLeaves_iff.mp hr).1 hpass, List.map_nil]
    · obtain ⟨old, hold, rfl⟩ := List.mem_map.mp hchild
      split
      next hlabel => exact (hr.child hold).append htree hlabel
      next => exact hr.child hold

/-- Merging one well-formed report into another gives a well-formed report. -/
theorem IsWellFormed.addTree (hr : r.IsWellFormed) (htree : tree.IsWellFormed) :
    (r.addTree tree).IsWellFormed :=
  ⟨addTree_label r tree ▸ hr.label, hr.marks.addTree htree⟩

/-- A report with a text at its root that passes has no failures: each of its children passes. -/
theorem failures_eq_nil_of_passes {text : String} (hlabel : r.label = .text text)
    (hpasses : r.passes = true) : r.failures = [] := by
  obtain ⟨label, children⟩ := r
  obtain rfl : label = .text text := hlabel
  rw [passes_text, Bool.and_eq_true, List.all_eq_true] at hpasses
  rw [failures_eq_flatMap, List.flatMap_eq_nil_iff]
  intro child hchild
  exact failuresBelow_eq_nil_iff.mpr (.inl (hpasses.2 child hchild))

end Report

namespace Regime

/-- The sessions that hold well-formed reports only. -/
def wellFormed : Regime where
  session s := s.env.All fun _ v => ∀ tree, v = .report tree → tree.IsWellFormed
  report := Report.IsWellFormed
  assign hs _ hv := hs.set hv
  erase name hs := hs.erase name
  print _ hs := hs
  send _ hs := hs
  lookup hs hfound := hs _ _ hfound _ rfl
  ofText := Report.isWellFormed_ofText
  add parent child hr := hr.addTree (Report.isWellFormed_text_leaf parent child)
  addTree := Report.IsWellFormed.addTree

theorem isEntered_wellFormed : wellFormed.IsEntered where
  enter hs _ := hs
  leave hs := hs

end Regime

namespace Session

/-- Whatever a session has been asked for, one more step gives and holds reports with a text at the
root and nothing below a pass mark, however deep the mark is, so that a report that passes has no
failures. This is so on the way as well, for all that is evaluated and run within the step. -/
theorem reports_wellFormed {host : Host} {step : Step} {s t : Session} {outcome : Outcome}
    (hreachable : Reachable host s) (hgiven : ∀ v ∈ step.given, ∀ tree, v ≠ .report tree)
    (h : Performs host step s outcome t) :
    (∀ tree, outcome = .ok (.report tree) ∨ (∃ name, t.env.get? name = some (.report tree)) →
      (∃ text, tree.label = .text text) ∧
      (∀ node, Relation.ReflTransGen Report.HasChild tree node → node.label = .pass →
        node.children = []) ∧
      (tree.passes = true → tree.failures = [])) ∧
    PerformsWithin .wellFormed host step s outcome t := by
  have hs : Regime.wellFormed.session s :=
    hreachable.session Regime.isEntered_wellFormed Environment.all_empty
  have hwithin : PerformsWithin .wellFormed host step s outcome t :=
    h.within Regime.isEntered_wellFormed hs fun v hv tree htree =>
      absurd htree (hgiven v hv tree)
  refine ⟨fun tree htree => ?_, hwithin⟩
  have hwell : tree.IsWellFormed := by
    rcases htree with houtcome | ⟨name, hfound⟩
    · exact Regime.value_report.mp (hwithin.value houtcome)
    · exact Regime.wellFormed.lookup hwithin.session.2 hfound
  obtain ⟨text, htext⟩ := hwell.label
  exact ⟨hwell.label, hwell.marks, Report.failures_eq_nil_of_passes htext⟩

/-- A host with a directory whose script runs another script. -/
def passingHost : Host :=
  .ofFiles [("d/a.txt", "[Evaluate(\"e/b.txt\")]"), ("e/b.txt", "[Pass()]")]

/-- A new session that runs the directory gives a report that passes and has no failures. -/
theorem reports_wellFormed_nested :
    ∃ tree t, Performs passingHost (.run "d") {} (.ok (.report tree)) t ∧ tree.passes = true ∧
      tree.failures = [] := by
  have htest : ((run passingHost 6 "d" {}).any fun r => r.1.toOption.any Report.passes) = true := by
    decide +kernel
  obtain ⟨tree, t, hruns, hpasses⟩ := runs_of_any htest
  have hperforms := performs_run_iff.mpr ⟨tree, rfl, hruns⟩
  have hgiven : ∀ v ∈ (Step.run "d").given, ∀ tree, v ≠ .report tree := nofun
  obtain ⟨hreports, -⟩ := reports_wellFormed .new hgiven hperforms
  obtain ⟨-, -, hfailures⟩ := hreports tree (.inl rfl)
  exact ⟨tree, t, hperforms, hpasses, hfailures hpasses⟩

end Session

end BracketScript
