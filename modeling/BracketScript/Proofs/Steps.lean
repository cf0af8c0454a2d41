import BracketScript.Proofs.Growth

/-!
# What happens on the way

A session is used in steps: it is asked for the value of a line or of a call, or for the report of a
target. A step is made of nested evaluations, each of a line, of an argument or of a target, and
what is said of a step is often meant for all of them. So a step can be confined to a regime: then
it is cut off as soon as a nested evaluation starts or ends in a session outside of the regime, a
target is noted outside of it, or a value or report is not of the regime. A step that is not left by
evaluation is not cut off by this.

## Main definitions

* `Session.Step`: what a session can be asked for
* `Session.Performs`: a step has an outcome, within some limit
* `Session.PerformsWithin`: so it has without leaving a regime on the way
* `Session.Reachable`: sessions that are reached from a new one, step by step

## Main results

* `Session.PerformsWithin.performs`: confining a step only cuts it off
* `Session.Performs.within`: a step from a session of a regime does not leave the regime
* `Session.Reachable.session`: nor do steps one after the other
-/

namespace BracketScript

/-! ### Confined evaluation -/

namespace Regime

variable {K : Regime} {α : Type} {Q : α → Prop} {x y : Action α}

variable (K) in
open Classical in
/-- A computation that is cut off unless it starts and ends in sessions of the regime and its value,
if it has one, has `Q`. -/
noncomputable def confine (Q : α → Prop) (x : Action α) : Action α := fun s =>
  if K.session s then
    (x s).filter fun outcome => K.session outcome.2 ∧ ∀ a, outcome.1 = .ok a → Q a
  else none

variable (K) in
open Classical in
/-- A run that is cut off if the target is noted outside of the regime. -/
noncomputable def confineEntry (given : String) (x : Action α) : Action α := fun s =>
  if refusal? s given = none → K.session (s.enter (targetPath given)) then x s else none

/-- Evaluation as within a limit, with all that is nested in it confined to the regime. -/
noncomputable def confined (K : Regime) (host : Host) : Nat → Evaluator
  | 0 => ⟨fun _ => Action.cutOff, fun _ => Action.cutOff⟩
  | limit + 1 =>
    ⟨fun line => K.confine K.value (evalLine host (confined K host limit) limit line),
      fun path => K.confine K.report
        (K.confineEntry path (runPath host (confined K host limit) path))⟩

theorem confine_eq_some_iff {s t : Session} {result : Except ScriptError α} :
    K.confine Q x s = some (result, t) ↔
      K.session s ∧ x s = some (result, t) ∧ K.session t ∧ ∀ a, result = .ok a → Q a := by
  rw [confine]
  split
  next hs => simp [hs, Option.filter_eq_some_iff]
  next hs => simp [hs]

theorem confineEntry_eq_some_iff {given : String} {s : Session}
    {outcome : Except ScriptError α × Session} :
    K.confineEntry given x s = some outcome ↔
      (refusal? s given = none → K.session (s.enter (targetPath given))) ∧ x s = some outcome := by
  rw [confineEntry]
  split
  next h => exact (and_iff_right h).symm
  next h => simp [h]

theorem cutOff_below (x : Action α) : Script.Below Action.cutOff x := fun _ _ h => nomatch h

theorem confine_below : (K.confine Q x).Below x :=
  fun _ _ h => (confine_eq_some_iff.mp h).2.1

/-- What keeps to the regime is not cut off by confining it. -/
theorem Keeps.confine (h : K.Keeps Q x y) : K.Keeps Q x (K.confine Q y) := by
  intro s result t hs hx
  obtain ⟨hy, ht, hresult⟩ := h s result t hs hx
  exact ⟨confine_eq_some_iff.mpr ⟨hs, hy, ht, hresult⟩, ht, hresult⟩

theorem Keeps.confineEntry (hK : K.IsEntered) (h : K.Keeps Q x y) (given : String) :
    K.Keeps Q x (K.confineEntry given y) := by
  intro s result t hs hx
  obtain ⟨hy, ht, hresult⟩ := h s result t hs hx
  exact ⟨confineEntry_eq_some_iff.mpr ⟨fun hrun => hK.enter hs hrun, hy⟩, ht, hresult⟩

/-- In sessions of the regime, confined evaluation does what evaluation does. -/
theorem confined_follows (hK : K.IsEntered) (host : Host) (limit : Nat) :
    K.Follows (evaluator host limit) (K.confined host limit) := by
  induction limit with
  | zero => exact ⟨fun _ => keeps_cutOff _, fun _ => keeps_cutOff _⟩
  | succ limit ih =>
    -- a step of confined evaluation is one of evaluation over what is confined already, with checks
    refine ⟨fun line => ?_, fun path => ?_⟩
    · rw [evaluator_succ_line, confined]
      exact (evalLine_keeps ih (Nat.le_refl limit) host line).confine
    · rw [evaluator_succ_run, confined]
      exact ((runPath_keeps hK ih host path).confineEntry hK path).confine

/-- Confined evaluation does nothing that evaluation does not. -/
theorem confined_below (host : Host) (limit : Nat) :
    (K.confined host limit).Below (evaluator host limit) := by
  induction limit with
  | zero => exact ⟨fun _ => cutOff_below _, fun _ => cutOff_below _⟩
  | succ limit ih =>
    refine ⟨fun line s outcome h => ?_, fun path s outcome h => ?_⟩
    · rw [confined] at h
      rw [evaluator_succ_line]
      have hline := evalLine_keeps ih.follows (Nat.le_refl limit) host line
      exact hline.below s outcome (confine_below s outcome h)
    · rw [confined] at h
      rw [evaluator_succ_run]
      have hrun := runPath_keeps isEntered_all ih.follows host path
      exact hrun.below s outcome (confineEntry_eq_some_iff.mp (confine_below s outcome h)).2

end Regime

namespace Session

/-! ### Steps -/

/-- What a session can be asked for. -/
inductive Step where
  /-- The value of a line. -/
  | eval (line : String)
  /-- The value of a line as a text. -/
  | text (line : String)
  /-- The value of a line as an integer. -/
  | integer (line : String)
  /-- The value of a line as a truth value. -/
  | truth (line : String)
  /-- The value of a call with argument text. -/
  | dispatch (name raw : String)
  /-- The value of a call with evaluated arguments. -/
  | call (name : String) (values : List Value)
  /-- The report of a target. -/
  | run (path : String)

namespace Step

/-- What a step does, given how lines are evaluated and targets are run. -/
def perform (host : Host) (e : Evaluator) (limit : Nat) : Step → Action Value
  | eval line => e.line line
  | text line => return .str (← e.text line)
  | integer line => return .int (← e.integer line)
  | truth line => return .bool (← e.truth line)
  | dispatch name raw => BracketScript.dispatch host e limit name raw
  | call name values => callFunction host e limit name values
  | run path => return .report (← e.run path)

/-- The values that are given with a step. -/
def given : Step → List Value
  | call _ values => values
  | _ => []

/-- A step does not leave a regime if the values that are given with it are of the regime. -/
theorem perform_keeps {K : Regime} {e e' : Evaluator} (h : K.Follows e e') (host : Host)
    (limit : Nat) (step : Step) (hgiven : ∀ v ∈ step.given, K.value v) :
    K.Keeps K.value (step.perform host e limit) (step.perform host e' limit) := by
  cases step with
  | eval line => exact h.line line
  | text line => exact (h.text line).bind fun _ _ => Script.keeps_pure (K.value_of_isScalar rfl)
  | integer line =>
    exact (h.integer line).bind fun _ _ => Script.keeps_pure (K.value_of_isScalar rfl)
  | truth line => exact (h.truth line).bind fun _ _ => Script.keeps_pure (K.value_of_isScalar rfl)
  | dispatch name raw => exact Regime.dispatch_keeps h (Nat.le_refl limit) host name raw
  | call name values => exact Regime.callFunction_keeps h (Nat.le_refl limit) host name hgiven
  | run path =>
    exact (h.run path).bind fun _ htree => Script.keeps_pure (Regime.value_report.mpr htree)

end Step

variable {host : Host} {K : Regime} {s t : Session} {step : Step} {outcome : Outcome}

/-- Within some limit, the step has the given outcome and leaves the session `t`. -/
def Performs (host : Host) (step : Step) (s : Session) (outcome : Outcome) (t : Session) : Prop :=
  ∃ limit, step.perform host (evaluator host limit) limit s = some (outcome, t)

theorem performs_eval_iff {line : String} :
    Performs host (.eval line) s outcome t ↔ Evaluates host line s outcome t := Iff.rfl

/-- Running a target always gives a report. -/
theorem performs_run_iff {path : String} : Performs host (.run path) s outcome t ↔
    ∃ report, outcome = .ok (.report report) ∧ Runs host path s report t := by
  constructor
  · rintro ⟨limit, hlimit⟩
    rcases Script.bind_eq_some_iff.mp hlimit with ⟨report, u, hrun, hreturn⟩ | ⟨error, u, hrun, -⟩
    · obtain ⟨rfl, rfl⟩ := Prod.mk.inj (Option.some.inj hreturn)
      exact ⟨report, rfl, limit, hrun⟩
    · -- a run does not fail
      obtain ⟨report, hreport⟩ := (evaluator_grows host limit).run_succeeds path s _ hrun
      exact absurd hreport (by simp)
  · rintro ⟨report, rfl, limit, hrun⟩
    exact ⟨limit, Script.bind_eq_some_iff.mpr (.inl ⟨report, t, hrun, rfl⟩)⟩

/-- Within some limit, the step has the given outcome and leaves the session `t`, and it does not
leave the regime on the way: the step and everything that is evaluated in it, at any depth, starts
and ends in a session of the regime and with a value or report of the regime, and all targets are
noted within the regime. -/
def PerformsWithin (K : Regime) (host : Host) (step : Step) (s : Session) (outcome : Outcome)
    (t : Session) : Prop :=
  ∃ limit, K.confine K.value (step.perform host (K.confined host limit) limit) s =
    some (outcome, t)

/-- Confining a step only cuts it off. -/
theorem PerformsWithin.performs (h : PerformsWithin K host step s outcome t) :
    Performs host step s outcome t := by
  obtain ⟨limit, hlimit⟩ := h
  have hfollows := (K.confined_below host limit).follows
  have hstep := Step.perform_keeps hfollows host limit step fun v _ => Regime.value_all v
  exact ⟨limit, hstep.below s _ (Regime.confine_below s _ hlimit)⟩

theorem PerformsWithin.session (h : PerformsWithin K host step s outcome t) :
    K.session s ∧ K.session t := by
  obtain ⟨limit, hlimit⟩ := h
  obtain ⟨hs, -, ht, -⟩ := Regime.confine_eq_some_iff.mp hlimit
  exact ⟨hs, ht⟩

theorem PerformsWithin.value (h : PerformsWithin K host step s outcome t) {v : Value}
    (hv : outcome = .ok v) : K.value v := by
  obtain ⟨limit, hlimit⟩ := h
  exact (Regime.confine_eq_some_iff.mp hlimit).2.2.2 v hv

/-- A step from a session of a regime does not leave the regime. -/
theorem Performs.within (hK : K.IsEntered) (hs : K.session s)
    (hgiven : ∀ v ∈ step.given, K.value v) (h : Performs host step s outcome t) :
    PerformsWithin K host step s outcome t := by
  obtain ⟨limit, hlimit⟩ := h
  have hfollows := K.confined_follows hK host limit
  have hstep := (Step.perform_keeps hfollows host limit step hgiven).confine
  exact ⟨limit, (hstep s outcome t hs hlimit).1⟩

/-- Every step makes the session grow. -/
theorem Performs.growsTo (h : Performs host step s outcome t) : s.GrowsTo t := by
  obtain ⟨limit, hlimit⟩ := h
  have hgrows : Action.Grows (step.perform host (evaluator host limit) limit) :=
    Action.grows_of_keeps fun s =>
      Step.perform_keeps ((evaluator_grows host limit).follows s) host limit step
        fun _ _ _ _ => trivial
  exact hgrows s _ hlimit

/-- A session that is reached from a new one, step by step. A report is not given with a step: the
reports that a session holds are its own. -/
inductive Reachable (host : Host) : Session → Prop
  | new : Reachable host {}
  | step {s t : Session} {step : Step} {outcome : Outcome} : Reachable host s →
      (∀ v ∈ step.given, ∀ tree, v ≠ .report tree) → Performs host step s outcome t →
      Reachable host t

/-- Steps one after the other do not leave a regime in which a new session is. -/
theorem Reachable.session (hK : K.IsEntered) (hnew : K.session {}) (h : Reachable host s) :
    K.session s := by
  induction h with
  | new => exact hnew
  | step _ hgiven hperforms ih =>
    refine (hperforms.within hK ih fun v hv tree htree => ?_).session.2
    exact absurd htree (hgiven v hv tree)

end Session

end BracketScript
