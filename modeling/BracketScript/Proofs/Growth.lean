import BracketScript.Proofs.Limit

/-!
# Sessions grow

Evaluation changes a session in few ways. It assigns and removes variables as it likes, but what has
been printed or sent stays, and when it is done the same targets are being run as before. A target
is noted while it is run and forgotten afterwards; since running a target never fails, it cannot be
left noted by mistake.

## Main definitions

* `Session.GrowsTo`: how a session may look after an evaluation
* `Regime.grownFrom`: the sessions that a given one may grow to are a regime
* `Action.Grows`: whatever a computation comes to, the session grows
* `Action.Succeeds`: a computation does not fail

## Main results

* `evaluator_grows`: sessions grow whatever is evaluated, and running a target does not fail
* `Session.Evaluates.growsTo`, `Session.Runs.growsTo`: so they do without naming a limit
-/

namespace BracketScript

namespace Session

/-- How a session may look after an evaluation: what was printed or sent stays, and the same targets
are being run. -/
structure GrowsTo (s t : Session) : Prop where
  active : t.active = s.active
  output : s.output.toList <+: t.output.toList
  sent : s.sent.toList <+: t.sent.toList

variable {s t u : Session}

theorem GrowsTo.refl (s : Session) : s.GrowsTo s :=
  ⟨rfl, List.prefix_rfl, List.prefix_rfl⟩

theorem GrowsTo.trans (h : s.GrowsTo t) (h' : t.GrowsTo u) : s.GrowsTo u :=
  ⟨h'.active.trans h.active, h.output.trans h'.output, h.sent.trans h'.sent⟩

/-- What happens between noting a target and forgetting it is what happens to the session. -/
theorem GrowsTo.leave {path : String} (h : (s.enter path).GrowsTo t) : s.GrowsTo t.leave where
  active := by rw [Session.leave, h.active, Session.enter, List.tail_cons]
  output := h.output
  sent := h.sent

end Session

/-- The sessions that a given one may grow to. Targets are not noted within this regime. -/
def Regime.grownFrom (s : Session) : Regime where
  session t := s.GrowsTo t
  report _ := True
  assign h _ _ := ⟨h.active, h.output, h.sent⟩
  erase _ h := ⟨h.active, h.output, h.sent⟩
  print line h := by
    refine ⟨h.active, h.output.trans ?_, h.sent⟩
    rw [Array.toList_push]
    exact List.prefix_append _ _
  send sent h := by
    refine ⟨h.active, h.output, h.sent.trans ?_⟩
    rw [Array.toList_push]
    exact List.prefix_append _ _
  lookup _ _ := trivial
  ofText _ := trivial
  add _ _ _ := trivial
  addTree _ _ := trivial

/-! ### Computations under which sessions grow -/

namespace Action

/-- Whatever the computation comes to, the session grows. -/
def Grows {α : Type} (x : Action α) : Prop :=
  ∀ s outcome, x s = some outcome → s.GrowsTo outcome.2

/-- The computation does not fail. -/
def Succeeds {α : Type} (x : Action α) : Prop :=
  ∀ s outcome, x s = some outcome → ∃ a, outcome.1 = .ok a

variable {α β : Type} {x : Action α} {f : α → Action β}

theorem Grows.keeps (h : Grows x) {Q : α → Prop} (hQ : ∀ a, Q a) (s : Session) :
    (Regime.grownFrom s).Keeps Q x x :=
  fun t _ _ ht hx => ⟨hx, ht.trans (h t _ hx), fun a _ => hQ a⟩

/-- A session grows if no session that it may grow to is left. -/
theorem grows_of_keeps {Q : Session → α → Prop}
    (h : ∀ s, (Regime.grownFrom s).Keeps (Q s) x x) : Grows x :=
  fun s outcome hx => (h s s outcome.1 outcome.2 (.refl s) hx).2.1

theorem grows_cutOff : Grows (cutOff : Action α) := fun _ _ h => nomatch h

theorem succeeds_cutOff : Succeeds (cutOff : Action α) := fun _ _ h => nomatch h

theorem succeeds_pure (a : α) : Succeeds (pure a : Action α) := by
  intro s outcome h
  obtain rfl := Option.some.inj h
  exact ⟨a, rfl⟩

theorem succeeds_attempt (x : Action α) : Succeeds (attempt x) := by
  intro s outcome h
  obtain ⟨result, -, rfl⟩ := Option.map_eq_some_iff.mp h
  exact ⟨result.1, rfl⟩

theorem Succeeds.bind (hx : Succeeds x) (hf : ∀ a, Succeeds (f a)) : Succeeds (x >>= f) := by
  intro s outcome h
  rcases Script.bind_eq_some_iff.mp h with ⟨a, t, -, hfa⟩ | ⟨error, t, hxs, -⟩
  · exact hf a t outcome hfa
  · -- the first computation would have failed
    obtain ⟨a, ha⟩ := hx s _ hxs
    exact absurd ha (by simp)

end Action

open BracketScript.Action (Grows Succeeds)

/-- Evaluating a line makes sessions grow, and so does running a target, which never fails. -/
structure Evaluator.Grows (e : Evaluator) : Prop where
  line : ∀ source, Action.Grows (e.line source)
  run : ∀ path, Action.Grows (e.run path)
  run_succeeds : ∀ path, Action.Succeeds (e.run path)

/-! ### Targets -/

theorem runLines_succeeds (e : Evaluator) (path : String) (report : Report) (lines : List String) :
    Succeeds (runLines e path report lines) := by
  induction lines generalizing report with
  | nil => exact Action.succeeds_pure _
  | cons line rest ih => exact (Action.succeeds_attempt _).bind fun outcome => ih _

section Targets

variable {e : Evaluator} (h : e.Grows) (host : Host)
include h

theorem Evaluator.Grows.follows (s : Session) : (Regime.grownFrom s).Follows e e where
  line source := (h.line source).keeps (fun _ _ _ => trivial) s
  run path := (h.run path).keeps (fun _ => trivial) s

theorem evalLine_grows (limit : Nat) (line : String) : Grows (evalLine host e limit line) :=
  Action.grows_of_keeps fun s => Regime.evalLine_keeps (h.follows s) (Nat.le_refl limit) host line

theorem runTarget_grows (path : String) : Grows (runTarget host e path) :=
  Action.grows_of_keeps fun s => Regime.runTarget_keeps (h.follows s) host path

omit host in
theorem runEntries_succeeds (path : String) (report : Report) (names : List String) :
    Succeeds (runEntries e path report names) := by
  induction names generalizing report with
  | nil => exact Action.succeeds_pure _
  | cons name rest ih => exact (h.run_succeeds _).bind fun child => ih _

theorem runTarget_succeeds (path : String) : Succeeds (runTarget host e path) := by
  unfold runTarget
  split
  · unfold runDirectory
    dsimp only
    split
    · exact Action.succeeds_pure _
    · exact runEntries_succeeds h path _ _
  · unfold runFile
    dsimp only
    split
    · exact Action.succeeds_pure _
    · split
      · exact Action.succeeds_pure _
      · exact runLines_succeeds e path _ _

/-- Running a target makes sessions grow and does not fail. -/
theorem runPath_grows (given : String) :
    Grows (runPath host e given) ∧ Succeeds (runPath host e given) := by
  have hgrows := runTarget_grows h host (targetPath given)
  have hsucceeds := runTarget_succeeds h host (targetPath given)
  have hpath (s : Session) (outcome) (hrun : runPath host e given s = some outcome) :
      s.GrowsTo outcome.2 ∧ ∃ report, outcome.1 = .ok report := by
    cases hrefusal : refusal? s given with
    | some report =>
      rw [runPath_of_refusal hrefusal] at hrun
      obtain rfl := Option.some.inj hrun
      exact ⟨.refl s, report, rfl⟩
    | none =>
      rw [runPath_of_not_refused hrefusal] at hrun
      rcases Script.bind_eq_some_iff.mp hrun with
        ⟨report, t, htarget, hleave⟩ | ⟨error, t, htarget, -⟩
      · obtain rfl := Option.some.inj hleave
        exact ⟨(hgrows _ _ htarget).leave, report, rfl⟩
      · -- a target that fails would be left noted, but none does
        obtain ⟨report, hreport⟩ := hsucceeds _ _ htarget
        exact absurd hreport (by simp)
  exact ⟨fun s outcome hrun => (hpath s outcome hrun).1,
    fun s outcome hrun => (hpath s outcome hrun).2⟩

end Targets

/-- Whatever is evaluated within a limit, sessions grow, and running a target does not fail. -/
theorem evaluator_grows (host : Host) (limit : Nat) : (evaluator host limit).Grows := by
  -- what is evaluated within a limit calls itself within the limit before it
  induction limit with
  | zero =>
    exact ⟨fun _ => Action.grows_cutOff, fun _ => Action.grows_cutOff,
      fun _ => Action.succeeds_cutOff⟩
  | succ limit ih =>
    refine ⟨fun line => ?_, fun path => ?_, fun path => ?_⟩
    · rw [evaluator_succ_line]
      exact evalLine_grows ih host limit line
    · rw [evaluator_succ_run]
      exact (runPath_grows ih host path).1
    · rw [evaluator_succ_run]
      exact (runPath_grows ih host path).2

namespace Session

variable {host : Host} {s t : Session}

/-- Evaluating a line makes the session grow. -/
theorem Evaluates.growsTo {line : String} {outcome : Outcome}
    (h : Evaluates host line s outcome t) : s.GrowsTo t := by
  obtain ⟨limit, hlimit⟩ := h
  exact (evaluator_grows host limit).line line s _ hlimit

/-- Running a target makes the session grow. -/
theorem Runs.growsTo {path : String} {report : Report} (h : Runs host path s report t) :
    s.GrowsTo t := by
  obtain ⟨limit, hlimit⟩ := h
  exact (evaluator_grows host limit).run path s _ hlimit

end Session

end BracketScript
