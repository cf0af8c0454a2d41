import BracketScript.Proofs.Steps

/-!
# What is being run

A target is noted while it is run, so that running it again in the meantime is reported instead of
going on forever. For this, no target is noted twice, and each is forgotten when its run is done,
however the run ends: with a report of failures, with a target that cannot be read or with a target
that is being run already. What has been printed before is still there afterwards.

## Main definitions

* `Regime.distinct`: no target is being run twice

## Main results

* `Session.performs_balanced`: after a step the same targets are being run as before, and none was
  noted twice on the way
-/

namespace BracketScript

namespace Regime

/-- The sessions in which no target is being run twice. -/
def distinct : Regime where
  session s := s.active.Nodup
  report _ := True
  assign hs _ _ := hs
  erase _ hs := hs
  print _ hs := hs
  send _ hs := hs
  lookup _ _ := trivial
  ofText _ := trivial
  add _ _ _ := trivial
  addTree _ _ := trivial

/-- A target that is being run already is refused, so it is not noted again. -/
theorem isEntered_distinct : distinct.IsEntered where
  enter {s given} hs hrun := by
    obtain ⟨-, hnew⟩ := refusal?_eq_none_iff.mp hrun
    exact List.nodup_cons.mpr ⟨hnew, hs⟩
  leave hs := hs.tail

end Regime

namespace Session

/-- A step of any kind, whatever its outcome, leaves the same targets being run, and keeps what has
been printed. If no target is being run twice, then this is so on the way as well: whenever
something is evaluated within the step, when it is done, and whenever a target is noted. -/
theorem performs_balanced {host : Host} {step : Step} {s t : Session} {outcome : Outcome}
    (hdistinct : s.active.Nodup) (h : Performs host step s outcome t) :
    t.active = s.active ∧ s.output.toList <+: t.output.toList ∧
      PerformsWithin .distinct host step s outcome t := by
  have hgrows := h.growsTo
  have hgiven : ∀ v ∈ step.given, Regime.distinct.value v := fun _ _ _ _ => trivial
  exact ⟨hgrows.active, hgrows.output, h.within Regime.isEntered_distinct hdistinct hgiven⟩

/-- A host with two scripts that run each other. -/
def cyclicHost : Host :=
  .ofFiles [("a.txt", "[PrintF(\"a\")]\n[Evaluate(\"b.txt\")]"), ("b.txt", "[Evaluate(\"a.txt\")]")]

/-- Running one of them from within another script ends with a report that does not pass, and is
balanced. -/
theorem performs_balanced_cycle :
    ∃ tree t, Performs cyclicHost (.run "a.txt") { active := ["main.txt"], output := #["start"] }
        (.ok (.report tree)) t ∧
      tree.passes = false ∧ t.active = ["main.txt"] ∧ ["start"] <+: t.output.toList ∧
      PerformsWithin .distinct cyclicHost (.run "a.txt")
        { active := ["main.txt"], output := #["start"] } (.ok (.report tree)) t := by
  have htest : ((run cyclicHost 6 "a.txt" { active := ["main.txt"], output := #["start"] }).any
      fun r => r.1.toOption.any fun tree => !tree.passes) = true := by
    decide +kernel
  obtain ⟨tree, t, hruns, htree⟩ := runs_of_any htest
  have hperforms := performs_run_iff.mpr ⟨tree, rfl, hruns⟩
  obtain ⟨hactive, houtput, hwithin⟩ := performs_balanced (by decide) hperforms
  exact ⟨tree, t, hperforms, by simpa using htree, hactive, houtput, hwithin⟩

end Session

end BracketScript
