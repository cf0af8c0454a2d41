import BracketScript.Proofs.Paths
import BracketScript.Proofs.Sequence
import BracketScript.Proofs.Steps

/-!
# Targets inside themselves

A target that is being run is not run again before it is done: that is reported instead. But what is
compared is how targets are spelled. A script that runs itself under another spelling of its path,
as `./a.txt` instead of `a.txt`, is run inside itself, once for each spelling. Targets that are
spelled plainly, without empty segments and single dots, are never run inside themselves.

## Main definitions

* `recursionReport`: the report of a target that is being run already
* `Regime.spelledApart`: targets are spelled differently, and one target is not spelled plainly
  twice

## Main results

* `Session.reentry_by_spelling`: a target that is being run already is refused exactly if it is
  spelled like a target that is being run
-/

namespace BracketScript

open BracketScript.Path (SameTarget IsPlain)

/-- The report of a target that is being run already. -/
def recursionReport (path : String) : Report :=
  ((Report.ofText path).add (.text path) recursiveRun).add recursiveRun
    (.text (path ++ " is already being evaluated"))

/-- A target that is being run already in the same spelling is refused. -/
theorem refusal?_eq_recursionReport {s : Session} {given : String} (hne : targetPath given ≠ "")
    (hactive : targetPath given ∈ s.active) :
    refusal? s given = some (recursionReport (targetPath given)) := by
  have hpath : ¬ (targetPath given).isEmpty = true := by rwa [String.isEmpty_iff]
  have hcontains : s.active.contains (targetPath given) = true := List.contains_iff_mem.mpr hactive
  simp only [refusal?, hpath, hcontains, if_true, Bool.false_eq_true, if_false]
  rfl

namespace Regime

/-- The sessions in which all targets that are being run are spelled differently, and any two of
them that are the same are not both spelled plainly. -/
def spelledApart (root : String) : Regime where
  session s := s.active.Pairwise fun p q =>
    p ≠ q ∧ (SameTarget root p q → ¬ (IsPlain p ∧ IsPlain q))
  report _ := True
  assign hs _ _ := hs
  erase _ hs := hs
  print _ hs := hs
  send _ hs := hs
  lookup _ _ := trivial
  ofText _ := trivial
  add _ _ _ := trivial
  addTree _ _ := trivial

/-- A target that is noted is spelled differently from all others, and then it is another target if
both are spelled plainly. -/
theorem isEntered_spelledApart (root : String) : (spelledApart root).IsEntered where
  enter {s given} hs hrun := by
    obtain ⟨-, hnew⟩ := refusal?_eq_none_iff.mp hrun
    refine List.pairwise_cons.mpr ⟨fun q hq => ?_, hs⟩
    have hne : targetPath given ≠ q := fun heq => hnew (heq ▸ hq)
    exact ⟨hne, fun hsame ⟨hp, hq⟩ => hne (hsame.eq hp hq)⟩
  leave hs := hs.tail

end Regime

namespace Session

variable {root : String} {s : Session}

/-- On the way through any step, the targets that are being run are spelled differently, and no
target is spelled plainly twice. A target that is being run already, under any spelling, is refused
if it is spelled like a target that is being run, and only then. Otherwise one of the two spellings
is not plain, and the target is noted a second time and run inside itself. -/
theorem reentry_by_spelling (host : Host) (hs : (Regime.spelledApart root).session s) :
    (∀ step outcome t, Performs host step s outcome t →
      PerformsWithin (.spelledApart root) host step s outcome t) ∧
    ∀ given q, q ∈ s.active → SameTarget root q (targetPath given) → targetPath given ≠ "" →
      (targetPath given ∈ s.active ∧ ∀ report t, Runs host given s report t ↔
        report = recursionReport (targetPath given) ∧ t = s) ∨
      (targetPath given ∉ s.active ∧ ¬ (IsPlain q ∧ IsPlain (targetPath given)) ∧
        ∀ report t, Runs host given s report t ↔
          ∃ u, (∃ limit, runTarget host (evaluator host limit) (targetPath given)
            (s.enter (targetPath given)) = some (.ok report, u)) ∧ t = u.leave) := by
  refine ⟨fun step outcome t h => ?_, fun given q hq hsame hne => ?_⟩
  · have hgiven : ∀ v ∈ step.given, (Regime.spelledApart root).value v := fun _ _ _ _ => trivial
    exact h.within (Regime.isEntered_spelledApart root) hs hgiven
  · by_cases hactive : targetPath given ∈ s.active
    · have hruns : Runs host given s (recursionReport (targetPath given)) s :=
        runs_of_refusal (refusal?_eq_recursionReport hne hactive)
      refine .inl ⟨hactive, fun report t => ⟨fun h => h.unique hruns, ?_⟩⟩
      rintro ⟨rfl, rfl⟩
      exact hruns
    · refine .inr ⟨hactive, fun ⟨hq', hplain⟩ => hactive (hsame.eq hq' hplain ▸ hq), ?_⟩
      exact fun report t => runs_iff_runTarget (refusal?_eq_none_iff.mpr ⟨hne, hactive⟩)

/-- A host with a script that prints a line and runs itself under another spelling. -/
def respellingHost : Host :=
  .ofFiles [("a.txt", "[PrintF(\"run\")][Evaluate(\"./a.txt\")]")]

/-- While the script is being run, it is run again, and prints its line a second time. -/
theorem reentry_by_spelling_dot :
    ∃ report t u limit,
      PerformsWithin (.spelledApart "/") respellingHost (.run "./a.txt") { active := ["a.txt"] }
        (.ok (.report report)) t ∧
      runTarget respellingHost (evaluator respellingHost limit) "./a.txt"
        { active := ["./a.txt", "a.txt"] } = some (.ok report, u) ∧
      t = u.leave ∧ t.output = #["run"] := by
  have hpath : targetPath "./a.txt" = "./a.txt" := by decide +kernel
  have hs : (Regime.spelledApart "/").session { active := ["a.txt"] } := List.pairwise_singleton _ _
  have hsame : SameTarget "/" "a.txt" "./a.txt" := Path.sameTarget_iff.mpr (by decide +kernel)
  obtain ⟨hsteps, hreentry⟩ := reentry_by_spelling respellingHost hs
  have htest : ((run respellingHost 6 "./a.txt" { active := ["a.txt"] }).any fun r =>
      r.1.toOption.isSome && r.2.output == #["run"]) = true := by
    decide +kernel
  obtain ⟨⟨result, t⟩, hrun, htest⟩ := (Option.any_eq_true _ _).mp htest
  obtain ⟨hreport, houtput⟩ := Bool.and_eq_true_iff.mp htest
  cases result with
  | error error => exact absurd hreport (by simp [Except.toOption])
  | ok report =>
    have hruns : Runs respellingHost "./a.txt" { active := ["a.txt"] } report t := ⟨6, hrun⟩
    rcases hreentry "./a.txt" "a.txt" List.mem_cons_self (hpath ▸ hsame) (by decide +kernel) with
      ⟨hactive, -⟩ | ⟨-, -, hagain⟩
    · rw [hpath] at hactive
      exact absurd hactive (by decide)
    · obtain ⟨u, ⟨limit, htarget⟩, ht⟩ := (hagain report t).mp hruns
      rw [hpath] at htarget
      have hwithin := hsteps _ _ _ (performs_run_iff.mpr ⟨report, rfl, hruns⟩)
      exact ⟨report, t, u, limit, hwithin, htarget, ht, by simpa using houtput⟩

end Session

end BracketScript
