import BracketScript.Proofs.Script
import BracketScript.Session.Run

/-!
# Refused and entered targets

A target is noted while it is run and forgotten afterwards. It is not run at all if its path is
empty or if it is being run already; then there is a report of that, and the session stays as it is.

## Main definitions

* `Session.enter`, `Session.leave`: noting a target and forgetting it
* `refusal?`: the report of a target that is not run at all

## Main results

* `refusal?_eq_none_iff`: which targets are run
* `runPath_of_refusal`, `runPath_of_not_refused`: what running a path comes to in either case
-/

namespace BracketScript

namespace Session

/-- The session in which the target at a path has been noted as being run. -/
def enter (s : Session) (path : String) : Session := { s with active := path :: s.active }

/-- The session in which the target noted last has been forgotten. -/
def leave (s : Session) : Session := { s with active := s.active.tail }

end Session

/-- The report of a target that is not run at all: its path is empty, or it is being run already. -/
def refusal? (s : Session) (given : String) : Option Report :=
  let path := targetPath given
  if path.isEmpty then
    some (((Report.ofText path).add (.text path) couldNotOpen).add couldNotOpen emptyTarget)
  else if s.active.contains path then
    some (((Report.ofText path).add (.text path) recursiveRun).add recursiveRun
      (.text (path ++ " is already being evaluated")))
  else none

variable {host : Host} {e : Evaluator} {s : Session} {given : String}

theorem refusal?_eq_none_iff :
    refusal? s given = none ↔ targetPath given ≠ "" ∧ targetPath given ∉ s.active := by
  simp only [refusal?, String.isEmpty_iff, List.contains_iff_mem]
  split
  · simp_all
  · split <;> simp_all

/-- A target that is refused leaves the session as it was. -/
theorem runPath_of_refusal {report : Report} (h : refusal? s given = some report) :
    runPath host e given s = some (.ok report, s) := by
  rw [runPath]
  simp only [refusal?] at h
  split at h
  next hpath =>
    obtain rfl := Option.some.inj h
    rw [if_pos hpath]
    rfl
  next hpath =>
    split at h
    next hactive =>
      obtain rfl := Option.some.inj h
      rw [if_neg hpath, Script.get_bind_apply, if_pos hactive]
      rfl
    next => exact absurd h (by simp)

/-- Any other target is noted, run and forgotten. -/
theorem runPath_of_not_refused (h : refusal? s given = none) :
    runPath host e given s =
      (do let report ← runTarget host e (targetPath given)
          modify Session.leave
          return report : Action Report) (s.enter (targetPath given)) := by
  obtain ⟨hpath, hactive⟩ := refusal?_eq_none_iff.mp h
  have hpath' : ¬ (targetPath given).isEmpty = true := by rwa [String.isEmpty_iff]
  have hactive' : ¬ s.active.contains (targetPath given) = true := by
    rwa [List.contains_iff_mem]
  rw [runPath, if_neg hpath', Script.get_bind_apply, if_neg hactive', Script.modify_bind_apply]
  rfl

end BracketScript
