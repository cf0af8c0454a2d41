import BracketScript.Proofs.Limit
import BracketScript.Service.Basic

/-!
# Targets that cannot be run

Before the first line of a target is evaluated, four things can keep it from being run. Each is
recorded in the report of the target, but not in the same shape: some have a reason two levels
below the target, which is shown as a failure, and some are a single leaf, which is not shown. A
service then lists the target as passed.

## Main definitions

* `TargetFault`: what keeps a target from being run
* `ScriptStore.fault?`: what keeps the target at a path from being run, if anything does
* `TargetFault.report`: the report of such a target
* `TargetFault.IsShown`: the fault is seen in the lines of failures

## Main results

* `runPath_of_fault`: a target with a fault has the report of the fault, and the session is
  unchanged
* `TargetFault.failures_report_ne_nil_iff`: the report has lines of failures if the fault is shown
* `Service.evaluate_of_fault`: a service lists the target as passed if the fault is not shown
-/

namespace BracketScript

/-- What keeps a target from being run. -/
inductive TargetFault where
  | emptyPath
  /-- The file cannot be read. -/
  | unreadable (error : FileError)
  | noData
  /-- The entries of the directory cannot be listed. -/
  | unlistable (error : FileError)
  deriving DecidableEq, Repr

/-- What keeps the target at a path from being run. -/
def ScriptStore.fault? (store : ScriptStore) (given : String) : Option TargetFault :=
  let path := targetPath given
  if path.isEmpty then some .emptyPath
  else if store.isDirectory path then
    match store.list path with
    | .error error => some (.unlistable error)
    | .ok _ => none
  else
    match store.read path with
    | .error error => some (.unreadable error)
    | .ok data => if data.isEmpty then some .noData else none

/-! ### Reports of two shapes -/

namespace Report

variable {r : Report} {label parent child : Label}

/-- A node without children gets its first one. -/
theorem leaf_add_self (label child : Label) :
    (leaf label).add label child = ⟨label, [leaf child]⟩ := by
  simp [add, addTree, leaf]

/-- What is put below the only child of a node, whose label is another one. -/
theorem add_below_child {label₁ label₂ : Label} (h : label₁ ≠ label₂) (child : Label) :
    add ⟨label₁, [leaf label₂]⟩ label₂ child = ⟨label₁, [⟨label₂, [leaf child]⟩]⟩ := by
  simp [add, addTree, leaf, h]

/-- What is put below a node that has the label of its only child goes beside that child. -/
theorem add_beside_child (label child : Label) :
    add ⟨label, [leaf label]⟩ label child = ⟨label, [leaf label, leaf child]⟩ := by
  simp [add, addTree, leaf]

/-- Children without children are not shown as failures. -/
theorem failures_eq_nil_of_leaves (h : ∀ node ∈ r.children, node.children = []) :
    r.failures = [] := by
  rw [failures_eq_flatMap, List.flatMap_eq_nil_iff]
  intro node hnode
  have hleaf := h node hnode
  have hnested : node.failures = [] := by rw [failures_eq_flatMap, hleaf, List.flatMap_nil]
  rw [failuresBelow, hleaf, hnested]
  exact ite_self _

/-- A child that fails for a reason is shown together with the reason. -/
theorem failures_of_reason (label : Label) (text reason : String) :
    failures ⟨label, [⟨.text text, [ofText reason]⟩]⟩ =
      [edge label (.text text), edge (.text text) (.text reason)] := by
  simp [failures_eq_flatMap, failuresBelow, passes_text, ofText, leaf]

/-- Where no child passes, nothing is shown as passed. -/
theorem successes_eq_nil_of_not_passes (h : ∀ node ∈ r.children, node.passes = false) :
    r.successes = [] := by
  rw [successes_eq_flatMap, List.flatMap_eq_nil_iff]
  intro node hnode
  rw [h node hnode]
  rfl

end Report

/-! ### Reports of faults -/

/-- The report of a target with a reason right below it. -/
def recorded (path : String) (reason : Label) : Report :=
  (Report.ofText path).add (.text path) reason

/-- The report of a target that cannot be opened for the given reason. -/
def unopened (path : String) (reason : Label) : Report :=
  (recorded path couldNotOpen).add couldNotOpen reason

theorem recorded_eq (path : String) (reason : Label) :
    recorded path reason = ⟨.text path, [.leaf reason]⟩ := by
  rw [recorded, Report.ofText, Report.leaf_add_self]

theorem unopened_of_ne {path : String} (h : Label.text path ≠ couldNotOpen) (reason : Label) :
    unopened path reason = ⟨.text path, [⟨couldNotOpen, [.leaf reason]⟩]⟩ := by
  rw [unopened, recorded_eq, Report.add_below_child h]

theorem unopened_of_eq {path : String} (h : Label.text path = couldNotOpen) (reason : Label) :
    unopened path reason = ⟨.text path, [.leaf couldNotOpen, .leaf reason]⟩ := by
  rw [unopened, recorded_eq, h, Report.add_beside_child]

/-- A reason right below a target is not shown as a failure. -/
theorem failures_recorded (path : String) (reason : Label) :
    (recorded path reason).failures = [] := by
  rw [recorded_eq]
  refine Report.failures_eq_nil_of_leaves ?_
  simp [Report.leaf]

/-- A target that cannot be opened has lines of failures unless its path is the text that is
recorded for that. -/
theorem failures_unopened_ne_nil_iff (path reason : String) :
    (unopened path (.text reason)).failures ≠ [] ↔ Label.text path ≠ couldNotOpen := by
  by_cases h : Label.text path = couldNotOpen
  · -- the reason stands beside the text that it explains, and both are leaves
    have hnil : (unopened path (.text reason)).failures = [] := by
      rw [unopened_of_eq h]
      refine Report.failures_eq_nil_of_leaves ?_
      simp [Report.leaf]
    exact iff_of_false (fun hne => hne hnil) (fun hne => hne h)
  · have hlines := Report.failures_of_reason (.text path) "could not open file" reason
    have hne : (unopened path (.text reason)).failures ≠ [] := by
      rw [unopened_of_ne h]
      exact fun hnil => absurd (hlines.symm.trans hnil) (List.cons_ne_nil _ _)
    exact iff_of_true hne h

theorem successes_recorded (path reason : String) :
    (recorded path (.text reason)).successes = [] := by
  rw [recorded_eq]
  refine Report.successes_eq_nil_of_not_passes ?_
  simp [Report.leaf, Report.passes_text]

theorem successes_unopened (path reason : String) :
    (unopened path (.text reason)).successes = [] := by
  refine Report.successes_eq_nil_of_not_passes ?_
  by_cases h : Label.text path = couldNotOpen
  · rw [unopened_of_eq h]
    simp [Report.leaf, couldNotOpen, Report.passes_text]
  · rw [unopened_of_ne h]
    simp [Report.leaf, couldNotOpen, Report.passes_text]

namespace TargetFault

/-- The report of a target with a fault. -/
def report (path : String) : TargetFault → Report
  | emptyPath => unopened "" emptyTarget
  | unreadable error => unopened path (.text error.message)
  | noData => recorded path BracketScript.noData
  | unlistable error => recorded path (.text error.message)

/-- The fault is seen in the lines of failures: the path is empty, or a file cannot be read whose
path is not the text that is recorded for that. -/
def IsShown (path : String) : TargetFault → Prop
  | emptyPath => True
  | unreadable _ => path ≠ couldNotOpen.display
  | noData => False
  | unlistable _ => False

/-- The report of a fault has lines of failures exactly if the fault is shown. -/
theorem failures_report_ne_nil_iff (path : String) (fault : TargetFault) :
    (fault.report path).failures ≠ [] ↔ fault.IsShown path := by
  cases fault with
  | emptyPath =>
    have hlines := failures_unopened_ne_nil_iff "" "target path is empty"
    exact iff_of_true (hlines.mpr (by decide)) trivial
  | unreadable error =>
    have hpath : Label.text path ≠ couldNotOpen ↔ path ≠ couldNotOpen.display := by
      rw [couldNotOpen, Label.display, Ne, Label.text.injEq]
    exact (failures_unopened_ne_nil_iff path error.message).trans hpath
  | noData => exact iff_of_false (fun hne => hne (failures_recorded path _)) id
  | unlistable error => exact iff_of_false (fun hne => hne (failures_recorded path _)) id

/-- The report of a fault has no lines of what passed. -/
theorem successes_report (path : String) (fault : TargetFault) :
    (fault.report path).successes = [] := by
  cases fault with
  | emptyPath => exact successes_unopened "" "target path is empty"
  | unreadable error => exact successes_unopened path error.message
  | noData => exact successes_recorded path _
  | unlistable error => exact successes_recorded path error.message

end TargetFault

/-! ### Running targets with faults -/

section Run

variable {host : Host} {s : Session} {given : String} {fault : TargetFault}

theorem runTarget_of_fault (hpath : (targetPath given).isEmpty = false)
    (h : host.scripts.fault? given = some fault) (e : Evaluator) (s : Session) :
    runTarget host e (targetPath given) s = some (.ok (fault.report (targetPath given)), s) := by
  simp only [ScriptStore.fault?, hpath, Bool.false_eq_true, if_false] at h
  by_cases hdirectory : host.scripts.isDirectory (targetPath given) = true
  · rw [runTarget, if_pos hdirectory, runDirectory]
    rw [if_pos hdirectory] at h
    cases hlist : host.scripts.list (targetPath given) with
    | error error =>
      rw [hlist] at h
      obtain rfl := Option.some.inj h
      rfl
    | ok names => simp [hlist] at h
  · rw [runTarget, if_neg hdirectory, runFile]
    rw [if_neg hdirectory] at h
    cases hread : host.scripts.read (targetPath given) with
    | error error =>
      rw [hread] at h
      obtain rfl := Option.some.inj h
      rfl
    | ok data =>
      simp only [hread, Option.ite_none_right_eq_some, Option.some.injEq] at h
      obtain ⟨hdata, rfl⟩ := h
      simp only [hdata, if_true]
      rfl

/-- Running a target with a fault gives the report of the fault and leaves the session as it was. -/
theorem runPath_of_fault (h : host.scripts.fault? given = some fault)
    (hactive : s.active.contains (targetPath given) = false) (e : Evaluator) :
    runPath host e given s = some (.ok (fault.report (targetPath given)), s) := by
  rw [runPath]
  by_cases hpath : (targetPath given).isEmpty = true
  · have hempty : targetPath given = "" := String.isEmpty_iff.mp hpath
    simp only [ScriptStore.fault?, hpath, if_true, Option.some.injEq] at h
    obtain rfl := h
    rw [hempty]
    rfl
  · -- the path is noted while the target is run, and forgotten afterwards
    rw [if_neg hpath, Script.get_bind_apply, hactive, if_neg Bool.false_ne_true,
      Script.modify_bind_apply]
    have hrun := runTarget_of_fault (Bool.eq_false_iff.mpr hpath) h e
      { s with active := targetPath given :: s.active }
    rw [Script.bind_of_ok hrun, Script.modify_bind_apply]
    rfl

end Run

namespace Service

/-- Evaluating a target with a fault gives lines of failures exactly if the fault is shown, and
lists the target as passed exactly if it is not: a file without data, a directory whose entries
cannot be listed, and a file that cannot be read and is named like the text recorded for that. -/
theorem evaluate_of_fault (host : Host) (limit : Nat) {file : String} {fault : TargetFault}
    (h : host.scripts.fault? file = some fault) :
    ∃ results, evaluate host (limit + 1) file = some (results, {}) ∧
      (results.failures ≠ [] ↔ fault.IsShown (targetPath file)) ∧
      (file ++ ": passed" ∈ results.successes ↔ ¬ fault.IsShown (targetPath file)) := by
  have hactive : ({} : Session).active.contains (targetPath file) = false := rfl
  have hrun : Session.run host (limit + 1) file {} =
      some (.ok (fault.report (targetPath file)), {}) := by
    rw [Session.run, evaluator_succ_run]
    exact runPath_of_fault h hactive _
  have hfailures := fault.failures_report_ne_nil_iff (targetPath file)
  refine ⟨Results.ofReport file (fault.report (targetPath file)), ?_, hfailures, ?_⟩
  · rw [evaluate, hrun]
  · rw [← hfailures, Results.ofReport, TargetFault.successes_report, List.nil_append]
    by_cases hnil : (fault.report (targetPath file)).failures = []
    · simp [hnil]
    · simp [hnil]

/-- An empty file is listed as passed. -/
theorem evaluate_empty_file :
    ∃ results, evaluate (.ofFiles [("empty.txt", "")]) 1 "empty.txt" = some (results, {}) ∧
      results.failures = [] ∧ "empty.txt" ++ ": passed" ∈ results.successes := by
  have hfault : (Host.ofFiles [("empty.txt", "")]).scripts.fault? "empty.txt" = some .noData := by
    decide +kernel
  obtain ⟨results, hresults, hfailures, hpassed⟩ := evaluate_of_fault _ 0 hfault
  have hnil : results.failures = [] := Decidable.byContradiction fun hne => hfailures.mp hne
  exact ⟨results, hresults, hnil, hpassed.mpr id⟩

end Service

end BracketScript
