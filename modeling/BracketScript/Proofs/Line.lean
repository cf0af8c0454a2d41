import BracketScript.Proofs.Limit
import BracketScript.Proofs.Spans

/-!
# What a line comes to

A line is evaluated span by span, and its result is folded up on the way: a report ends the line at
once, failures are collected, and a plain value is kept in a variable. Here the two are taken apart.
A run of the spans lists the outcome of each span that is evaluated, and the outcome of the line is
a function of that list alone. Laws about lines are then laws about lists of outcomes.

## Main definitions

* `Session.Outcome.report?`, `Outcome.failure?`: whether a span gave a report, and whether it failed
* `Session.Outcome.ofSpans`: the outcome of a line, given those of its spans
* `Session.Outcome.leaves`: the failures that an outcome is made of
* `Session.RunsSpans`: spans that are evaluated one after the other, up to the first report

## Main results

* `Session.evaluates_iff_runsSpans`: a line comes to what its spans come to
* `Session.evaluates_append`: two lines put together come to what they come to one after the other
* `Session.evaluates_of_failure`: a span that fails makes the line fail, unless some span gives a
  report
-/

namespace BracketScript.Session

/-! ### Outcomes of spans and lines -/

namespace Outcome

/-- The report that a span gave. -/
def report? : Outcome → Option Report
  | .ok (.report tree) => some tree
  | _ => none

/-- The failure of a span: an error, or an error value. -/
def failure? : Outcome → Option ScriptError
  | .ok (.error message) => some (.fail message)
  | .error error => some error
  | _ => none

/-- The value of a line after one more span, given the one before it. A failure does not change
it. -/
def value (before : Value) : Outcome → Value
  | .ok (.error _) => before
  | .ok value => value
  | .error _ => before

/-- The session after a span: a plain value is kept in a variable. -/
def keep (s : Session) : Outcome → Session
  | .ok (.report _) => s
  | .ok (.error _) => s
  | .ok .pass => s
  | .ok value => { s with env := s.env.set valueName value }
  | .error _ => s

/-- What a line comes to that already has the given failures and the given value, and whose
remaining spans have the given outcomes: the first report; if there is none, all failures as one
error; if there are none, the last value. -/
def ofSpansAfter (errors : List ScriptError) (last : Value) (outcomes : List Outcome) : Outcome :=
  match outcomes.findSome? report? with
  | some tree => .ok (.report tree)
  | none =>
    match ScriptError.ofList? (errors ++ outcomes.filterMap failure?) with
    | some error => .error error
    | none => .ok (outcomes.foldl value last)

/-- What a line comes to whose spans have the given outcomes. -/
def ofSpans (outcomes : List Outcome) : Outcome :=
  ofSpansAfter [] .pass outcomes

/-- The failures that an outcome is made of, those of a collection one after the other. -/
def leaves : Outcome → List ScriptError
  | .ok _ => []
  | .error error => error.leaves

variable {outcomes : List Outcome} {outcome : Outcome}

theorem report?_eq_some_iff {tree : Report} :
    report? outcome = some tree ↔ outcome = .ok (.report tree) := by
  rcases outcome with error | value
  · simp [report?]
  · cases value <;> simp [report?]

theorem findSome?_report?_eq_none_iff :
    outcomes.findSome? report? = none ↔ ∀ o ∈ outcomes, report? o = none :=
  List.findSome?_eq_none_iff

/-- The first report is what the line comes to. -/
theorem ofSpans_of_report {tree : Report} (h : outcomes.findSome? report? = some tree) :
    ofSpans outcomes = .ok (.report tree) := by
  simp [ofSpans, ofSpansAfter, h]

theorem report?_foldl_value {v : Value} (hv : report? (.ok v) = none)
    (h : ∀ o ∈ outcomes, report? o = none) : report? (.ok (outcomes.foldl value v)) = none := by
  induction outcomes generalizing v with
  | nil => exact hv
  | cons o rest ih =>
    rw [List.foldl_cons]
    refine ih ?_ fun o' ho' => h o' (List.mem_cons_of_mem _ ho')
    have ho : report? o = none := h o List.mem_cons_self
    rcases o with error | value
    · exact hv
    · cases value <;> first | exact hv | exact ho

/-- A line comes to a report exactly if a span gave one, and then to the first of them. -/
theorem report?_ofSpans (outcomes : List Outcome) :
    report? (ofSpans outcomes) = outcomes.findSome? report? := by
  cases hr : outcomes.findSome? report? with
  | some tree => rw [ofSpans_of_report hr, report?]
  | none =>
    simp only [ofSpans, ofSpansAfter, hr, List.nil_append]
    cases ScriptError.ofList? (outcomes.filterMap failure?) with
    | some error => rfl
    | none => exact report?_foldl_value rfl (findSome?_report?_eq_none_iff.mp hr)

/-- Without a report, the failures of a line are those of its spans. -/
theorem leaves_ofSpans (h : ∀ o ∈ outcomes, report? o = none) :
    leaves (ofSpans outcomes) = (outcomes.filterMap failure?).flatMap ScriptError.leaves := by
  have hr := findSome?_report?_eq_none_iff.mpr h
  simp only [ofSpans, ofSpansAfter, hr, List.nil_append]
  rcases outcomes.filterMap failure? with _ | ⟨e, _ | ⟨e', es⟩⟩
  · rfl
  · simp [ScriptError.ofList?, leaves]
  · simp [ScriptError.ofList?, leaves, ScriptError.leaves, ScriptError.leavesAll_eq_flatMap]

/-- Without a report, a line has a value if no span failed, and then it is the last value. -/
theorem ofSpans_eq_ok_iff (h : ∀ o ∈ outcomes, report? o = none) {v : Value} :
    ofSpans outcomes = .ok v ↔
      outcomes.filterMap failure? = [] ∧ v = outcomes.foldl value .pass := by
  have hr := findSome?_report?_eq_none_iff.mpr h
  simp only [ofSpans, ofSpansAfter, hr, List.nil_append]
  rcases outcomes.filterMap failure? with _ | ⟨e, _ | ⟨e', es⟩⟩
  · simp [ScriptError.ofList?, eq_comm]
  · simp [ScriptError.ofList?]
  · simp [ScriptError.ofList?]

/-- Without reports, the failures of two lists of outcomes are those of each. -/
theorem leaves_ofSpans_append {outcomes' : List Outcome}
    (h : ∀ o ∈ outcomes, report? o = none) (h' : ∀ o ∈ outcomes', report? o = none) :
    leaves (ofSpans (outcomes ++ outcomes')) =
      leaves (ofSpans outcomes) ++ leaves (ofSpans outcomes') := by
  have hboth : ∀ o ∈ outcomes ++ outcomes', report? o = none :=
    List.forall_mem_append.mpr ⟨h, h'⟩
  rw [leaves_ofSpans h, leaves_ofSpans h', leaves_ofSpans hboth, List.filterMap_append,
    List.flatMap_append]

/-- The value of a line does not depend on what came before it, once a span has a value. -/
theorem foldl_value_congr (hne : outcomes ≠ []) (h : outcomes.filterMap failure? = [])
    (v w : Value) : outcomes.foldl value v = outcomes.foldl value w := by
  obtain ⟨o, rest, rfl⟩ := List.exists_cons_of_ne_nil hne
  have ho : failure? o = none := List.filterMap_eq_nil_iff.mp h o List.mem_cons_self
  have hvalue : value v o = value w o := by
    rcases o with error | value
    · simp [failure?] at ho
    · cases value <;> first | rfl | simp [failure?] at ho
  rw [List.foldl_cons, List.foldl_cons, hvalue]

/-- Without reports, two lists of outcomes have a value if each has one, and then it is that of the
second. -/
theorem ofSpans_append_eq_ok_iff {outcomes' : List Outcome}
    (h : ∀ o ∈ outcomes, report? o = none) (h' : ∀ o ∈ outcomes', report? o = none)
    (hne : outcomes' ≠ []) {v : Value} :
    ofSpans (outcomes ++ outcomes') = .ok v ↔
      (∃ w, ofSpans outcomes = .ok w) ∧ ofSpans outcomes' = .ok v := by
  have hboth : ∀ o ∈ outcomes ++ outcomes', report? o = none :=
    List.forall_mem_append.mpr ⟨h, h'⟩
  simp only [ofSpans_eq_ok_iff h, ofSpans_eq_ok_iff h', ofSpans_eq_ok_iff hboth,
    List.filterMap_append, List.append_eq_nil_iff, List.foldl_append, exists_and_left,
    exists_eq, and_true, and_assoc]
  refine and_congr_right fun _ => and_congr_right fun hfail => ?_
  rw [foldl_value_congr hne hfail]

/-- A line fails if some span failed and none gave a report. -/
theorem exists_ofSpans_eq_error_iff :
    (∃ error, ofSpans outcomes = .error error) ↔
      (∃ o ∈ outcomes, failure? o ≠ none) ∧ ∀ o ∈ outcomes, report? o = none := by
  cases hr : outcomes.findSome? report? with
  | some tree =>
    have hex : ¬ ∀ o ∈ outcomes, report? o = none := fun h => by
      rw [findSome?_report?_eq_none_iff.mpr h] at hr
      exact absurd hr (by simp)
    simp [ofSpans_of_report hr, hex]
  | none =>
    have h := findSome?_report?_eq_none_iff.mp hr
    have hfail : (∃ o ∈ outcomes, failure? o ≠ none) ↔ outcomes.filterMap failure? ≠ [] := by
      simp [List.filterMap_eq_nil_iff]
    rw [hfail, and_iff_left h]
    simp only [ofSpans, ofSpansAfter, hr, List.nil_append]
    rcases outcomes.filterMap failure? with _ | ⟨e, _ | ⟨e', es⟩⟩ <;> simp [ScriptError.ofList?]

end Outcome

/-! ### Running spans -/

theorem evalSpans_cons (host : Host) (e : Evaluator) (limit : Nat) (errors : List ScriptError)
    (last : Value) (span : String) (rest : List String) (s : Session) :
    evalSpans host e limit errors last (span :: rest) s =
      (evalSpan host e limit span s).bind fun result =>
        match Outcome.report? result.1 with
        | some tree => some (.ok (.report tree), result.2)
        | none =>
          evalSpans host e limit ((Outcome.failure? result.1).toList ++ errors)
            (Outcome.value last result.1) rest (Outcome.keep result.2 result.1) := by
  rw [evalSpans]
  cases h : evalSpan host e limit span s with
  | none => exact Script.bind_of_none (by simp [Action.attempt, h])
  | some result =>
    obtain ⟨outcome, t⟩ := result
    have ha : Action.attempt (evalSpan host e limit span) s = some (.ok outcome, t) := by
      simp [Action.attempt, h]
    rw [Script.bind_of_ok ha]
    rcases outcome with error | value
    · rfl
    · cases value <;> rfl

/-- Within some limit, the span has the given outcome and leaves the session `t`. -/
def SpanEvaluates (host : Host) (span : String) (s : Session) (outcome : Outcome)
    (t : Session) : Prop :=
  ∃ limit, evalSpan host (evaluator host limit) limit span s = some (outcome, t)

/-- The spans that are evaluated have the given outcomes, one after the other, and leave the session
`t`. No span is evaluated after one that gives a report. -/
inductive RunsSpans (host : Host) :
    Session → List String → List Outcome → Session → Prop
  | nil (s : Session) : RunsSpans host s [] [] s
  | report {s t : Session} {span : String} {rest : List String} {tree : Report} :
      SpanEvaluates host span s (.ok (.report tree)) t →
        RunsSpans host s (span :: rest) [.ok (.report tree)] t
  | cons {s t u : Session} {span : String} {rest : List String} {outcome : Outcome}
      {outcomes : List Outcome} :
      SpanEvaluates host span s outcome t → outcome.report? = none →
        RunsSpans host (outcome.keep t) rest outcomes u →
        RunsSpans host s (span :: rest) (outcome :: outcomes) u

variable {host : Host} {s t u : Session} {outcome : Outcome} {outcomes outcomes' : List Outcome}
  {spans spans' : List String}

theorem evalSpan_evaluator_below (host : Host) (span : String) {limit limit' : Nat}
    (hl : limit ≤ limit') : Script.Below (evalSpan host (evaluator host limit) limit span)
      (evalSpan host (evaluator host limit') limit' span) :=
  evalSpan_below (evaluator_below host hl) hl host span

theorem evalSpans_evaluator_below (host : Host) (errors : List ScriptError) (last : Value)
    (spans : List String) {limit limit' : Nat} (hl : limit ≤ limit') :
    Script.Below (evalSpans host (evaluator host limit) limit errors last spans)
      (evalSpans host (evaluator host limit') limit' errors last spans) :=
  evalSpans_below (evaluator_below host hl) hl host errors last spans

/-- The loop over the spans comes to what the outcomes of the spans come to. The limit does not
depend on what has been collected before. -/
theorem RunsSpans.evalSpans (h : RunsSpans host s spans outcomes t) :
    ∃ limit, ∀ errors last,
      evalSpans host (evaluator host limit) limit errors last spans s =
        some (Outcome.ofSpansAfter errors.reverse last outcomes, t) := by
  induction h with
  | nil s =>
    refine ⟨0, fun errors last => ?_⟩
    simp only [BracketScript.evalSpans, Outcome.ofSpansAfter, List.findSome?_nil,
      List.filterMap_nil, List.append_nil, List.foldl_nil]
    cases ScriptError.ofList? errors.reverse <;> rfl
  | @report s t span rest tree hspan =>
    obtain ⟨limit, hlimit⟩ := hspan
    refine ⟨limit, fun errors last => ?_⟩
    rw [evalSpans_cons, hlimit]
    rfl
  | @cons s t u span rest outcome outcomes hspan hreport _ ih =>
    -- the larger of the two limits serves the span and the rest
    obtain ⟨n, hn⟩ := hspan
    obtain ⟨m, hm⟩ := ih
    refine ⟨max n m, fun errors last => ?_⟩
    have hspan' := evalSpan_evaluator_below host span (Nat.le_max_left n m) s _ hn
    have hrest := evalSpans_evaluator_below host (outcome.failure?.toList ++ errors)
      (outcome.value last) rest (Nat.le_max_right n m) _ _ (hm _ _)
    simp only [evalSpans_cons, hspan', Option.bind_some, hreport, hrest]
    cases hf : outcome.failure? <;>
      simp [Outcome.ofSpansAfter, hreport, hf, List.append_assoc]

/-- A loop over spans that is not cut off comes from a run of the spans. -/
theorem runsSpans_of_evalSpans {limit : Nat} {errors : List ScriptError} {last : Value}
    (h : BracketScript.evalSpans host (evaluator host limit) limit errors last spans s =
      some (outcome, t)) : ∃ outcomes, RunsSpans host s spans outcomes t := by
  induction spans generalizing errors last s with
  | nil =>
    have hs : s = t := by
      rw [BracketScript.evalSpans] at h
      cases he : ScriptError.ofList? errors.reverse <;> simp_all
    exact ⟨[], hs ▸ .nil s⟩
  | cons span rest ih =>
    rw [evalSpans_cons] at h
    obtain ⟨⟨o, t'⟩, hspan, h⟩ := Option.bind_eq_some_iff.mp h
    cases hr : Outcome.report? o with
    | some tree =>
      simp only [hr] at h
      obtain rfl := Outcome.report?_eq_some_iff.mp hr
      obtain ⟨-, rfl⟩ := Prod.mk.inj (Option.some.inj h)
      exact ⟨_, .report ⟨limit, hspan⟩⟩
    | none =>
      simp only [hr] at h
      obtain ⟨outcomes, hrest⟩ := ih h
      exact ⟨o :: outcomes, .cons ⟨limit, hspan⟩ hr hrest⟩

/-- A run of the spans of a line gives the outcome of the line. -/
theorem RunsSpans.evaluates {line : String}
    (h : RunsSpans host s (Brackets.spans line) outcomes t) :
    Evaluates host line s (Outcome.ofSpans outcomes) t := by
  obtain ⟨limit, hlimit⟩ := h.evalSpans
  exact evaluates_iff_evalLine.mpr ⟨limit, hlimit [] .pass⟩

/-- A line comes to what its spans come to. -/
theorem evaluates_iff_runsSpans {line : String} :
    Evaluates host line s outcome t ↔
      ∃ outcomes, RunsSpans host s (Brackets.spans line) outcomes t ∧
        outcome = Outcome.ofSpans outcomes := by
  constructor
  · intro h
    obtain ⟨limit, hlimit⟩ := evaluates_iff_evalLine.mp h
    obtain ⟨outcomes, hrun⟩ := runsSpans_of_evalSpans hlimit
    exact ⟨outcomes, hrun, (h.unique hrun.evaluates).1⟩
  · rintro ⟨outcomes, hrun, rfl⟩
    exact hrun.evaluates

/-- A span has at most one outcome. -/
theorem SpanEvaluates.unique {span : String} {outcome' : Outcome} {t' : Session}
    (h : SpanEvaluates host span s outcome t) (h' : SpanEvaluates host span s outcome' t') :
    outcome = outcome' ∧ t = t' := by
  obtain ⟨n, hn⟩ := h
  obtain ⟨m, hm⟩ := h'
  exact Prod.mk.inj
    (Script.Below.unique (fun hl => evalSpan_evaluator_below host span hl) hn hm)

/-- The outcome of the first span is among those of a run. -/
theorem RunsSpans.mem_of_head {span : String} {rest : List String}
    (h : RunsSpans host s (span :: rest) outcomes u) (hspan : SpanEvaluates host span s outcome t) :
    outcome ∈ outcomes := by
  cases h with
  | report hspan' => simp [(hspan.unique hspan').1]
  | cons hspan' => simp [(hspan.unique hspan').1]

/-- A report among the outcomes is the first one, since it ends the run. -/
theorem RunsSpans.findSome?_report? (h : RunsSpans host s spans outcomes t) {tree : Report}
    (hmem : .ok (.report tree) ∈ outcomes) :
    outcomes.findSome? Outcome.report? = some tree := by
  induction h with
  | nil s => exact absurd hmem (by simp)
  | report hspan =>
    obtain rfl : tree = _ := by simpa using hmem
    rfl
  | cons hspan hreport _ ih =>
    rw [List.findSome?_cons, hreport]
    rcases List.mem_cons.mp hmem with rfl | hrest
    · exact absurd hreport (by simp [Outcome.report?])
    · exact ih hrest

/-- Spans that give no report can be followed by others. -/
theorem RunsSpans.append (h : RunsSpans host s spans outcomes t)
    (hr : ∀ o ∈ outcomes, Outcome.report? o = none)
    (h' : RunsSpans host t spans' outcomes' u) :
    RunsSpans host s (spans ++ spans') (outcomes ++ outcomes') u := by
  induction h with
  | nil s => exact h'
  | report hspan => exact absurd (hr _ List.mem_cons_self) (by simp [Outcome.report?])
  | cons hspan hreport _ ih =>
    exact .cons hspan hreport (ih (fun o ho => hr o (List.mem_cons_of_mem _ ho)) h')

/-- Spans after one that gives a report are not evaluated. -/
theorem RunsSpans.append_of_report (h : RunsSpans host s spans outcomes t) {tree : Report}
    (hr : outcomes.findSome? Outcome.report? = some tree) (spans' : List String) :
    RunsSpans host s (spans ++ spans') outcomes t := by
  induction h with
  | nil s => exact absurd hr (by simp)
  | report hspan => exact .report hspan
  | cons hspan hreport _ ih =>
    rw [List.findSome?_cons, hreport] at hr
    exact .cons hspan hreport (ih hr)

/-- A run of spans is one of the first of them, followed by one of the others unless the first gave
a report. -/
theorem RunsSpans.split (h : RunsSpans host s (spans ++ spans') outcomes u) :
    ∃ outcomes₁ t, RunsSpans host s spans outcomes₁ t ∧
      ((∀ o ∈ outcomes₁, Outcome.report? o = none) →
        ∃ outcomes₂, RunsSpans host t spans' outcomes₂ u) := by
  induction spans generalizing s outcomes with
  | nil => exact ⟨[], s, .nil s, fun _ => ⟨outcomes, h⟩⟩
  | cons span rest ih =>
    cases h with
    | report hspan =>
      refine ⟨_, u, .report hspan, fun hr => ?_⟩
      exact absurd (hr _ List.mem_cons_self) (by simp [Outcome.report?])
    | cons hspan hreport hrest =>
      obtain ⟨outcomes₁, t, h₁, h₂⟩ := ih hrest
      refine ⟨_, t, .cons hspan hreport h₁, fun hr => ?_⟩
      exact h₂ fun o ho => hr o (List.mem_cons_of_mem _ ho)

theorem RunsSpans.outcomes_ne_nil (h : RunsSpans host s spans outcomes t) (hne : spans ≠ []) :
    outcomes ≠ [] := by
  cases h with
  | nil => exact absurd rfl hne
  | report => simp
  | cons => simp

/-! ### Two lines put together -/

/-- Two balanced lines put together, the first of which ends with its last bracket, come to what
they come to one after the other. If neither gives a report, the line has a value exactly if both
have, and then it is that of the second; its failures are those of the first followed by those of
the second. A report of the first is that of the line, and the second is not evaluated. -/
theorem evaluates_append (host : Host) (s : Session) {l₁ l₂ : String}
    (h₁ : Brackets.Balanced l₁.toList) (hend : l₁.toList.getLast? = some ']')
    (h₂ : Brackets.Balanced l₂.toList) (hb : l₂.toList.any Brackets.isBracket = true) :
    (∀ r₁ s₁ r₂ s₂, Evaluates host l₁ s r₁ s₁ → Evaluates host l₂ s₁ r₂ s₂ →
      r₁.report? = none → r₂.report? = none →
      ∃ r, Evaluates host (l₁ ++ l₂) s r s₂ ∧
        ((∃ v, r = .ok v) ↔ (∃ v, r₁ = .ok v) ∧ ∃ v, r₂ = .ok v) ∧
        ((∃ v, r = .ok v) → r = r₂) ∧
        r.leaves = r₁.leaves ++ r₂.leaves) ∧
    (∀ tree s₁, Evaluates host l₁ s (.ok (.report tree)) s₁ →
      Evaluates host (l₁ ++ l₂) s (.ok (.report tree)) s₁) ∧
    ∀ r t, Evaluates host (l₁ ++ l₂) s r t →
      ∃ r₁ s₁, Evaluates host l₁ s r₁ s₁ ∧
        (r₁.report? = none → ∃ r₂, Evaluates host l₂ s₁ r₂ t) := by
  have hspans := Brackets.spans_append h₁ hend h₂ hb
  refine ⟨?_, ?_, ?_⟩
  · intro r₁ s₁ r₂ s₂ he₁ he₂ hr₁ hr₂
    obtain ⟨os₁, hrun₁, rfl⟩ := evaluates_iff_runsSpans.mp he₁
    obtain ⟨os₂, hrun₂, rfl⟩ := evaluates_iff_runsSpans.mp he₂
    rw [Outcome.report?_ofSpans, Outcome.findSome?_report?_eq_none_iff] at hr₁ hr₂
    have hrun : RunsSpans host s (Brackets.spans (l₁ ++ l₂)) (os₁ ++ os₂) s₂ :=
      hspans ▸ hrun₁.append hr₁ hrun₂
    have hne := hrun₂.outcomes_ne_nil (Brackets.spans_ne_nil l₂)
    have hok := fun v => Outcome.ofSpans_append_eq_ok_iff hr₁ hr₂ hne (v := v)
    refine ⟨_, hrun.evaluates, ?_, ?_, Outcome.leaves_ofSpans_append hr₁ hr₂⟩
    · simp only [hok, exists_and_left]
    · rintro ⟨v, hv⟩
      rw [hv, ((hok v).mp hv).2]
  · intro tree s₁ he₁
    obtain ⟨os₁, hrun₁, htree⟩ := evaluates_iff_runsSpans.mp he₁
    have hreport : os₁.findSome? Outcome.report? = some tree := by
      rw [← Outcome.report?_ofSpans, ← htree]
      rfl
    rw [htree]
    have hrun : RunsSpans host s (Brackets.spans (l₁ ++ l₂)) os₁ s₁ :=
      hspans ▸ hrun₁.append_of_report hreport _
    exact hrun.evaluates
  · intro r t he
    obtain ⟨os, hrun, rfl⟩ := evaluates_iff_runsSpans.mp he
    obtain ⟨os₁, s₁, hrun₁, hrun₂⟩ := RunsSpans.split (hspans ▸ hrun)
    refine ⟨_, s₁, hrun₁.evaluates, fun hr₁ => ?_⟩
    rw [Outcome.report?_ofSpans, Outcome.findSome?_report?_eq_none_iff] at hr₁
    obtain ⟨os₂, hrun₂⟩ := hrun₂ hr₁
    exact ⟨_, hrun₂.evaluates⟩

/-- The outcome is no report, and its failures have the given wordings. -/
def Outcome.hasFailures (messages : List String) (outcome : Outcome) : Bool :=
  outcome.report?.isNone && decide (outcome.leaves.map ScriptError.message = messages)

/-- Three failures on two lines are those of the line made of both, in order. -/
theorem evaluates_append_three_failures :
    ∃ r t, Evaluates (.ofFiles []) ("[Fail(\"a\")] [Fail(\"b\")]" ++ "[Fail(\"c\")] ") {} r t ∧
      r.leaves.map ScriptError.message = ["a", "b", "c"] := by
  -- the second line is tried in the session that the first one leaves
  have htest : ((eval (.ofFiles []) 3 "[Fail(\"a\")] [Fail(\"b\")]" {}).any fun result =>
      Outcome.hasFailures ["a", "b"] result.1 &&
        (eval (.ofFiles []) 3 "[Fail(\"c\")] " result.2).any fun result =>
          Outcome.hasFailures ["c"] result.1) = true := by
    decide +kernel
  obtain ⟨r₁, s₁, h₁, htest⟩ := evaluates_of_any htest
  obtain ⟨ht₁, htest⟩ := Bool.and_eq_true_iff.mp htest
  obtain ⟨r₂, s₂, h₂, ht₂⟩ := evaluates_of_any htest
  simp only [Outcome.hasFailures, Bool.and_eq_true, Option.isNone_iff_eq_none,
    decide_eq_true_eq] at ht₁ ht₂
  obtain ⟨r, hr, -, -, hleaves⟩ := (evaluates_append (.ofFiles []) {} (by decide +kernel)
    (by decide +kernel) (by decide +kernel) (by decide +kernel)).1 r₁ s₁ r₂ s₂ h₁ h₂ ht₁.1 ht₂.1
  refine ⟨r, s₂, hr, ?_⟩
  rw [hleaves, List.map_append, ht₁.2, ht₂.2]
  rfl

/-! ### Spans that fail -/

/-- If a span fails, the line fails exactly if no span gives a report; a report is what the line
comes to, whatever failed before. -/
theorem evaluates_of_failure {line : String}
    (h : RunsSpans host s (Brackets.spans line) outcomes t)
    (hfail : ∃ o ∈ outcomes, Outcome.failure? o ≠ none) :
    ((∃ error, Evaluates host line s (.error error) t) ↔
      ∀ o ∈ outcomes, Outcome.report? o = none) ∧
    ∀ tree, .ok (.report tree) ∈ outcomes → Evaluates host line s (.ok (.report tree)) t := by
  refine ⟨?_, fun tree hmem => ?_⟩
  · rw [← and_iff_right (b := ∀ o ∈ outcomes, Outcome.report? o = none) hfail,
      ← Outcome.exists_ofSpans_eq_error_iff]
    constructor
    · rintro ⟨error, herror⟩
      exact ⟨error, (herror.unique h.evaluates).1.symm⟩
    · rintro ⟨error, herror⟩
      exact ⟨error, herror ▸ h.evaluates⟩
  · rw [← Outcome.ofSpans_of_report (h.findSome?_report? hmem)]
    exact h.evaluates

/-- If the first span of a line fails within a limit, its failure is among the outcomes of the
line. -/
theorem RunsSpans.exists_failure {line span : String} {rest : List String}
    (h : RunsSpans host s (Brackets.spans line) outcomes t) (limit : Nat)
    (hspans : Brackets.spans line = span :: rest)
    (hspan : ((evalSpan host (evaluator host limit) limit span s).any fun result =>
      (Outcome.failure? result.1).isSome) = true) :
    ∃ o ∈ outcomes, Outcome.failure? o ≠ none := by
  -- within any limit the span has the same outcome, so the run has it too
  obtain ⟨⟨o, t'⟩, hresult, ho⟩ := (Option.any_eq_true _ _).mp hspan
  rw [hspans] at h
  exact ⟨o, h.mem_of_head ⟨limit, hresult⟩, Option.isSome_iff_ne_none.mp ho⟩

/-- A failing span makes the line fail although a span after it passes. -/
theorem evaluates_error_before_pass :
    ∃ error t, Evaluates (.ofFiles []) "[Fail(\"boom\")][Pass()]" {} (.error error) t := by
  have htest : ((eval (.ofFiles []) 3 "[Fail(\"boom\")][Pass()]" {}).any fun result =>
      (Outcome.report? result.1).isNone) = true := by
    decide +kernel
  obtain ⟨r, t, hline, hr⟩ := evaluates_of_any htest
  obtain ⟨outcomes, hrun, rfl⟩ := evaluates_iff_runsSpans.mp hline
  rw [Option.isNone_iff_eq_none, Outcome.report?_ofSpans,
    Outcome.findSome?_report?_eq_none_iff] at hr
  have hspans : Brackets.spans "[Fail(\"boom\")][Pass()]" = ["[Fail(\"boom\")]", "[Pass()]"] := by
    decide +kernel
  have hfail := hrun.exists_failure 2 hspans (by decide +kernel)
  obtain ⟨error, herror⟩ := (evaluates_of_failure hrun hfail).1.mpr hr
  exact ⟨error, t, herror⟩

/-- A failing span does not make the line fail if a span after it gives a report, even one of a run
in which all passed. -/
theorem evaluates_report_after_failure :
    ∃ outcomes t,
      RunsSpans (.ofFiles [("ok.txt", "[Pass()]")]) {}
        (Brackets.spans "[Fail(\"boom\")][Evaluate(\"ok.txt\")]") outcomes t ∧
      (∃ o ∈ outcomes, Outcome.failure? o ≠ none) ∧
      ¬ ∃ error u, Evaluates (.ofFiles [("ok.txt", "[Pass()]")])
        "[Fail(\"boom\")][Evaluate(\"ok.txt\")]" {} (.error error) u := by
  have htest : ((eval (.ofFiles [("ok.txt", "[Pass()]")]) 4
      "[Fail(\"boom\")][Evaluate(\"ok.txt\")]" {}).any fun result =>
      (Outcome.report? result.1).isSome) = true := by
    decide +kernel
  obtain ⟨r, t, hline, hr⟩ := evaluates_of_any htest
  obtain ⟨outcomes, hrun, houtcome⟩ := evaluates_iff_runsSpans.mp hline
  have hspans : Brackets.spans "[Fail(\"boom\")][Evaluate(\"ok.txt\")]" =
      ["[Fail(\"boom\")]", "[Evaluate(\"ok.txt\")]"] := by
    decide +kernel
  refine ⟨outcomes, t, hrun, hrun.exists_failure 2 hspans (by decide +kernel), ?_⟩
  rintro ⟨error, u, herror⟩
  rw [(hline.unique herror).1] at hr
  exact absurd hr (by simp [Outcome.report?])

end BracketScript.Session
