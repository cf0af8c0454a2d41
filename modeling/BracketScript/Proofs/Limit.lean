import BracketScript.Proofs.Regime

/-!
# Evaluation does not depend on the limit

Evaluation is bounded by a limit on how deep it nests and how often a loop runs. The limit decides
only whether there is an outcome: an evaluation that is not cut off has the same outcome with every
larger limit. So one can speak of the outcome of a line or of the report of a run without naming a
limit.

## Main definitions

* `Evaluator.Below`: the order of evaluators by where they are cut off
* `Regime.all`: the regime of all sessions and reports, in which the order is followed
* `Host.ofFiles`: a host without a network
* `Session.Outcome`: what evaluating a line comes to
* `Session.Evaluates`, `Session.Runs`, `Session.Dispatches`: a line has an outcome, a path a report
  and a call an outcome, within some limit

## Main results

* `evaluator_below`: a larger limit gives what a smaller one gives
* `Session.Evaluates.unique`, `Session.Runs.unique`, `Session.Dispatches.unique`: there is at most
  one outcome
-/

namespace BracketScript

open Script (Below)

theorem Action.attempt_below {α : Type} {x y : Action α} (h : Below x y) :
    Below (Action.attempt x) (Action.attempt y) := by
  intro s outcome hx
  obtain ⟨result, hxs, rfl⟩ := Option.map_eq_some_iff.mp hx
  exact Option.map_eq_some_iff.mpr ⟨result, h s _ hxs, rfl⟩

/-- The evaluator `e` is cut off wherever `e'` is, and is the same elsewhere. -/
structure Evaluator.Below (e e' : Evaluator) : Prop where
  line : ∀ source, Script.Below (e.line source) (e'.line source)
  run : ∀ path, Script.Below (e.run path) (e'.run path)

namespace Regime

/-- The regime of all sessions and reports. -/
def all : Regime where
  session _ := True
  report _ := True
  assign _ _ _ := trivial
  erase _ _ := trivial
  print _ _ := trivial
  send _ _ := trivial
  lookup _ _ := trivial
  ofText _ := trivial
  add _ _ _ := trivial
  addTree _ _ := trivial

theorem isEntered_all : all.IsEntered := ⟨fun _ _ => trivial, fun _ => trivial⟩

theorem value_all (v : Value) : all.value v := fun _ _ => trivial

theorem Keeps.below {α : Type} {Q : α → Prop} {x y : Action α} (h : all.Keeps Q x y) :
    Script.Below x y :=
  fun s outcome hx => (h s outcome.1 outcome.2 trivial hx).1

theorem keeps_of_below {α : Type} {Q : α → Prop} {x y : Action α} (hQ : ∀ a, Q a)
    (h : Script.Below x y) : all.Keeps Q x y :=
  fun s _ _ _ hx => ⟨h s _ hx, trivial, fun a _ => hQ a⟩

end Regime

/-! ### Computations keep the order of evaluators -/

section Order

variable {e e' : Evaluator} (h : e.Below e') {limit limit' : Nat}
include h

theorem Evaluator.Below.follows : Regime.all.Follows e e' where
  line source := Regime.keeps_of_below Regime.value_all (h.line source)
  run path := Regime.keeps_of_below (fun _ => trivial) (h.run path)

theorem loopFrom_below (condition body : String) (hl : limit ≤ limit') :
    Below (loopFrom e condition body limit) (loopFrom e' condition body limit') :=
  (Regime.loopFrom_keeps h.follows condition body hl).below

variable (hl : limit ≤ limit') (host : Host)
include hl

theorem dispatch_below (name raw : String) :
    Below (dispatch host e limit name raw) (dispatch host e' limit' name raw) :=
  (Regime.dispatch_keeps h.follows hl host name raw).below

theorem evalSpan_below (span : String) :
    Below (evalSpan host e limit span) (evalSpan host e' limit' span) :=
  (Regime.evalSpan_keeps h.follows hl host span).below

theorem evalSpans_below (errors : List ScriptError) (last : Value) (spans : List String) :
    Below (evalSpans host e limit errors last spans)
      (evalSpans host e' limit' errors last spans) :=
  (Regime.evalSpans_keeps h.follows hl host errors (Regime.value_all last) spans).below

end Order

/-- A larger limit gives what a smaller one gives. -/
theorem evaluator_below (host : Host) {limit limit' : Nat} (hl : limit ≤ limit') :
    (evaluator host limit).Below (evaluator host limit') := by
  have hfollows := Regime.evaluator_follows Regime.isEntered_all host hl
  exact ⟨fun source => (hfollows.line source).below, fun path => (hfollows.run path).below⟩

/-! ### Outcomes without a limit -/

/-- Computations that are cut off less and less often have at most one outcome. -/
theorem Script.Below.unique {σ α : Type} {x : Nat → Script σ α}
    (h : ∀ {n m}, n ≤ m → Below (x n) (x m)) {n m : Nat} {s : σ}
    {outcome outcome' : Except ScriptError α × σ} (hn : x n s = some outcome)
    (hm : x m s = some outcome') : outcome = outcome' := by
  have hn' := h (Nat.le_max_left n m) s _ hn
  have hm' := h (Nat.le_max_right n m) s _ hm
  exact Option.some.inj (hn'.symm.trans hm')

theorem dispatch_evaluator_below (host : Host) (name raw : String) {limit limit' : Nat}
    (hl : limit ≤ limit') : Below (Session.dispatch host limit name raw)
      (Session.dispatch host limit' name raw) :=
  dispatch_below (evaluator_below host hl) hl host name raw

/-- A host without a network whose scripts are the given files. -/
def Host.ofFiles (files : List (String × String)) : Host where
  transport _ request := .error (.connection request.method request.url "no network")
  scripts := Disk.store ⟨FileTree.ofEntries
    (files.map fun (path, text) => (path, .file (Bytes.ofString text))), []⟩ "/"

namespace Session

/-- What evaluating a span or a line comes to. -/
abbrev Outcome := Except ScriptError Value

variable {host : Host} {s t t' : Session} {outcome outcome' : Outcome}

/-- Within some limit, the line has the given outcome and leaves the session `t`. -/
def Evaluates (host : Host) (line : String) (s : Session) (outcome : Outcome) (t : Session) :
    Prop :=
  ∃ limit, eval host limit line s = some (outcome, t)

/-- Within some limit, running the path gives the report and leaves the session `t`. -/
def Runs (host : Host) (path : String) (s : Session) (report : Report) (t : Session) : Prop :=
  ∃ limit, run host limit path s = some (.ok report, t)

/-- Within some limit, the call of a built-in has the given outcome and leaves the session `t`. -/
def Dispatches (host : Host) (name raw : String) (s : Session) (outcome : Outcome)
    (t : Session) : Prop :=
  ∃ limit, dispatch host limit name raw s = some (outcome, t)

/-- A line has at most one outcome. -/
theorem Evaluates.unique {line : String} (h : Evaluates host line s outcome t)
    (h' : Evaluates host line s outcome' t') : outcome = outcome' ∧ t = t' := by
  obtain ⟨n, hn⟩ := h
  obtain ⟨m, hm⟩ := h'
  exact Prod.mk.inj (Below.unique (fun hl => (evaluator_below host hl).line line) hn hm)

/-- Three lines, such as the arguments of a call, come to their outcomes within one limit. -/
theorem exists_limit_of_evaluates {line₁ line₂ line₃ : String} {o₁ o₂ o₃ : Outcome}
    {s₁ s₂ s₃ t₁ t₂ t₃ : Session} (h₁ : Evaluates host line₁ s₁ o₁ t₁)
    (h₂ : Evaluates host line₂ s₂ o₂ t₂) (h₃ : Evaluates host line₃ s₃ o₃ t₃) : ∃ limit,
      (evaluator host limit).line line₁ s₁ = some (o₁, t₁) ∧
      (evaluator host limit).line line₂ s₂ = some (o₂, t₂) ∧
      (evaluator host limit).line line₃ s₃ = some (o₃, t₃) := by
  obtain ⟨n₁, hn₁⟩ := h₁
  obtain ⟨n₂, hn₂⟩ := h₂
  obtain ⟨n₃, hn₃⟩ := h₃
  have below {n : Nat} (hn : n ≤ n₁ + n₂ + n₃) := (evaluator_below host hn).line
  exact ⟨n₁ + n₂ + n₃, below (by omega) _ _ _ hn₁, below (by omega) _ _ _ hn₂,
    below (by omega) _ _ _ hn₃⟩

/-- A run has at most one report. -/
theorem Runs.unique {path : String} {report report' : Report} (h : Runs host path s report t)
    (h' : Runs host path s report' t') : report = report' ∧ t = t' := by
  obtain ⟨n, hn⟩ := h
  obtain ⟨m, hm⟩ := h'
  obtain ⟨hr, ht⟩ :=
    Prod.mk.inj (Below.unique (fun hl => (evaluator_below host hl).run path) hn hm)
  exact ⟨Except.ok.inj hr, ht⟩

/-- A call has at most one outcome. -/
theorem Dispatches.unique {name raw : String} (h : Dispatches host name raw s outcome t)
    (h' : Dispatches host name raw s outcome' t') : outcome = outcome' ∧ t = t' := by
  obtain ⟨n, hn⟩ := h
  obtain ⟨m, hm⟩ := h'
  exact Prod.mk.inj (Below.unique (fun hl => dispatch_evaluator_below host name raw hl) hn hm)

/-- The limit on a line is one more than that on its parts. -/
theorem evaluates_iff_evalLine {line : String} : Evaluates host line s outcome t ↔
    ∃ limit, evalLine host (evaluator host limit) limit line s = some (outcome, t) := by
  constructor
  · rintro ⟨limit, h⟩
    cases limit with
    | zero => exact absurd h (by simp [eval, evaluator, Action.cutOff])
    | succ limit =>
      rw [eval, evaluator_succ_line] at h
      exact ⟨limit, h⟩
  · rintro ⟨limit, h⟩
    refine ⟨limit + 1, ?_⟩
    rw [eval, evaluator_succ_line]
    exact h

/-- A line that passes a test within a limit has an outcome that passes it. -/
theorem evaluates_of_any {line : String} {limit : Nat} {p : Outcome × Session → Bool}
    (h : (eval host limit line s).any p = true) :
    ∃ outcome t, Evaluates host line s outcome t ∧ p (outcome, t) = true := by
  obtain ⟨result, hresult, hp⟩ := (Option.any_eq_true _ _).mp h
  exact ⟨result.1, result.2, ⟨limit, hresult⟩, hp⟩

/-- A target that is run through within a limit has a report. -/
theorem runs_of_any {path : String} {limit : Nat} {p : Report → Bool}
    (h : ((run host limit path s).any fun r => r.1.toOption.any p) = true) :
    ∃ report t, Runs host path s report t ∧ p report = true := by
  obtain ⟨⟨result, t⟩, hrun, hp⟩ := (Option.any_eq_true _ _).mp h
  obtain ⟨report, hresult, hp⟩ := (Option.any_eq_true _ _).mp hp
  refine ⟨report, t, ⟨limit, ?_⟩, hp⟩
  rcases result with error | report'
  · exact absurd hresult (by simp [Except.toOption])
  · rw [hrun, Option.some.inj hresult]

end Session

end BracketScript
