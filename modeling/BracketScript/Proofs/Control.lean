import BracketScript.Proofs.Line
import BracketScript.Report.Summary

/-!
# Conditions and loops

`If` and `For` evaluate a body under a condition. They tell only a body that has a value from one
that fails: the value itself is dropped. A body can also come to the report of a nested run, and a
report of failures is a value like any other here, so that a call passes although a run in its body
failed.

## Main definitions

* `Session.Outcome.truth`: an outcome seen as that of a condition
* `Session.LoopsTo`: what a loop comes to, within some limit
* `Session.Rounds`: rounds of a loop in which the body has a value
* `Session.IsCall`: a line made of one call

## Main results

* `Session.loopsTo_of_round`: after a round whose body has a value the loop goes on
* `Session.Rounds.loopsTo_iff`: so it does after any number of such rounds
* `Session.evaluates_pass_iff_dispatches`: a line made of one call passes with the call
* `Session.dispatches_control_pass_iff`: when exactly the two calls pass
-/

namespace BracketScript

open Session (Outcome)

/-- An outcome seen as that of a condition. -/
def Session.Outcome.truth : Outcome → Except ScriptError Bool
  | .ok value => value.asTruth
  | .error error => .error error

/-! ### One step of a condition and of a loop -/

section Steps

variable {e : Evaluator} {s : Session} {raw condition body : String}

/-- A condition is decided by the outcome of its text. -/
theorem Evaluator.truth_apply (e : Evaluator) (condition : String) (s : Session) :
    e.truth condition s =
      (e.line condition s).map fun result => (Outcome.truth result.1, result.2) := by
  rw [Evaluator.truth, Script.bind_apply]
  cases e.line condition s with
  | none => rfl
  | some result =>
    obtain ⟨o, t⟩ := result
    cases o with
    | ok value => exact Script.liftExcept_apply _ t
    | error error => rfl

/-- What depends on a condition goes on with its truth value, or fails with it. -/
theorem Evaluator.truth_bind_apply {α : Type} (e : Evaluator) (condition : String)
    (next : Bool → Action α) (s : Session) :
    (e.truth condition >>= next) s = (e.line condition s).bind fun result =>
      match Outcome.truth result.1 with
      | .ok b => next b result.2
      | .error error => some (.error error, result.2) := by
  rw [Script.bind_apply, Evaluator.truth_apply, Option.bind_map]
  congr 1
  funext ⟨o, t⟩
  simp only [Function.comp_apply]
  rcases Outcome.truth o with error | b <;> rfl

/-- An argument whose line has a value has the text of that value. -/
theorem Evaluator.text_of_line {source text : String} {t : Session} {v : Value}
    (h : e.line source s = some (.ok v, t)) (hv : v.asText = .ok text) :
    e.text source s = some (.ok text, t) := by
  rw [Evaluator.text, Script.bind_of_ok h, hv]
  exact Script.liftExcept_apply _ t

theorem exactlyTwo_of_arguments (name : String) (h : Brackets.arguments raw = [condition, body]) :
    exactlyTwo name raw = .ok (condition, body) := by
  simp [exactlyTwo, h]

/-- A call of `If` evaluates its body if the condition holds, and drops its value. -/
theorem runCond_apply (h : Brackets.arguments raw = [condition, body]) :
    runCond e raw s = (e.line condition s).bind fun result =>
      match Outcome.truth result.1 with
      | .ok true => (e.line body result.2).map fun result => (result.1.map fun _ => .pass, result.2)
      | .ok false => some (.ok .pass, result.2)
      | .error error => some (.error error, result.2) := by
  rw [runCond, exactlyTwo_of_arguments "If" h, Script.bind_of_ok (Script.liftExcept_apply _ s)]
  refine (Evaluator.truth_bind_apply e condition _ s).trans ?_
  congr 1
  funext ⟨o, t⟩
  rcases Outcome.truth o with error | _ | _
  · rfl
  · rfl
  · refine (Script.bind_apply (e.line body) _ t).trans ?_
    rcases e.line body t with _ | ⟨_ | _, u⟩ <;> rfl

/-- A loop evaluates its body if the condition holds, drops its value and starts again. -/
theorem loopFrom_succ_apply (limit : Nat) :
    loopFrom e condition body (limit + 1) s = (e.line condition s).bind fun result =>
      match Outcome.truth result.1 with
      | .ok true => (e.line body result.2).bind fun result =>
        match result.1 with
        | .ok _ => loopFrom e condition body limit result.2
        | .error error => some (.error error, result.2)
      | .ok false => some (.ok (), result.2)
      | .error error => some (.error error, result.2) := by
  rw [loopFrom]
  refine (Evaluator.truth_bind_apply e condition _ s).trans ?_
  congr 1
  funext ⟨o, t⟩
  rcases Outcome.truth o with error | _ | _
  · rfl
  · rfl
  · refine (Script.bind_apply (e.line body) _ t).trans ?_
    rcases e.line body t with _ | ⟨_ | _, u⟩ <;> rfl

/-- A call of `If` passes if its condition does not hold, or if it holds and the body has a
value. -/
theorem runCond_pass_iff {u : Session} (h : Brackets.arguments raw = [condition, body]) :
    runCond e raw s = some (.ok .pass, u) ↔
      (∃ o, e.line condition s = some (o, u) ∧ Outcome.truth o = .ok false) ∨
        ∃ o t v, e.line condition s = some (o, t) ∧ Outcome.truth o = .ok true ∧
          e.line body t = some (.ok v, u) := by
  rw [runCond_apply h]
  rcases e.line condition s with _ | ⟨o, t⟩
  · simp
  · rcases hc : Outcome.truth o with error | _ | _
    · simp [hc, and_assoc]
    · simp [hc, and_assoc]
    · rcases hb : e.line body t with _ | ⟨_ | v, w⟩ <;> simp [hc, hb, Except.map, and_assoc]

end Steps

namespace Session

variable {host : Host} {s t u w : Session} {o : Outcome} {raw condition body : String}

theorem dispatch_name (host : Host) (limit : Nat) (b : Builtin) (raw : String) :
    dispatch host limit b.name raw = b.run host (evaluator host limit) limit raw := by
  rw [dispatch, BracketScript.dispatch, Builtin.ofName?_name]

/-- A call of `If` passes if its condition does not hold, or if it holds and the body has a
value. -/
theorem dispatches_cond_pass_iff (h : Brackets.arguments raw = [condition, body]) :
    Dispatches host "If" raw s (.ok .pass) u ↔
      (∃ o, Evaluates host condition s o u ∧ o.truth = .ok false) ∨
        ∃ o t v, Evaluates host condition s o t ∧ o.truth = .ok true ∧
          Evaluates host body t (.ok v) u := by
  have hrun (limit : Nat) :
      dispatch host limit "If" raw = runCond (evaluator host limit) raw :=
    dispatch_name host limit .cond raw
  simp only [Dispatches, hrun, runCond_pass_iff h]
  constructor
  · rintro ⟨limit, ⟨o, hc, ho⟩ | ⟨o, t, v, hc, ho, hb⟩⟩
    · exact .inl ⟨o, ⟨limit, hc⟩, ho⟩
    · exact .inr ⟨o, t, v, ⟨limit, hc⟩, ho, ⟨limit, hb⟩⟩
  · rintro (⟨o, ⟨limit, hc⟩, ho⟩ | ⟨o, t, v, ⟨n, hc⟩, ho, ⟨m, hb⟩⟩)
    · exact ⟨limit, .inl ⟨o, hc, ho⟩⟩
    · have hc' := (evaluator_below host (Nat.le_max_left n m)).line _ _ _ hc
      have hb' := (evaluator_below host (Nat.le_max_right n m)).line _ _ _ hb
      exact ⟨max n m, .inr ⟨o, t, v, hc', ho, hb'⟩⟩

/-! ### Rounds of a loop -/

/-- Within some limit, the loop comes to the given result and leaves the session `t`. -/
def LoopsTo (host : Host) (condition body : String) (s : Session)
    (result : Except ScriptError Unit) (t : Session) : Prop :=
  ∃ limit, loopFrom (evaluator host limit) condition body limit s = some (result, t)

/-- Rounds of a loop, in each of which the condition holds and the body has one of the given values;
they leave the session at the end. -/
inductive Rounds (host : Host) (condition body : String) :
    Session → List Value → Session → Prop
  | nil (s : Session) : Rounds host condition body s [] s
  | cons {s t u w : Session} {o : Outcome} {v : Value} {vs : List Value} :
      Evaluates host condition s o t → o.truth = .ok true → Evaluates host body t (.ok v) u →
        Rounds host condition body u vs w → Rounds host condition body s (v :: vs) w

/-- After a round whose body has a value, whatever it is, the loop goes on. -/
theorem loopsTo_of_round {v : Value} {result : Except ScriptError Unit}
    (hc : Evaluates host condition s o t) (ho : o.truth = .ok true)
    (hb : Evaluates host body t (.ok v) u) :
    LoopsTo host condition body s result w ↔ LoopsTo host condition body u result w := by
  constructor
  · rintro ⟨limit, h⟩
    cases limit with
    | zero => exact absurd h (by simp [loopFrom, Action.cutOff])
    | succ limit =>
      rw [loopFrom_succ_apply] at h
      obtain ⟨⟨o', t'⟩, hc', h⟩ := Option.bind_eq_some_iff.mp h
      obtain ⟨rfl, rfl⟩ := hc.unique ⟨_, hc'⟩
      simp only [ho] at h
      obtain ⟨⟨b, u'⟩, hb', h⟩ := Option.bind_eq_some_iff.mp h
      obtain ⟨rfl, rfl⟩ := hb.unique ⟨_, hb'⟩
      -- what is left of the loop has one round less to go, under the same evaluator
      refine ⟨limit + 1, ?_⟩
      exact loopFrom_below (evaluator_below host (Nat.le_refl _)) condition body
        (Nat.le_succ limit) _ _ h
  · rintro ⟨m, h⟩
    obtain ⟨n₁, hc⟩ := hc
    obtain ⟨n₂, hb⟩ := hb
    -- one limit for the condition, the body and the rest of the loop, and one round more
    have hm : m ≤ max m (max n₁ n₂) := Nat.le_max_left _ _
    have hn : max n₁ n₂ ≤ max m (max n₁ n₂) := Nat.le_max_right _ _
    have hn₁ : n₁ ≤ max m (max n₁ n₂) + 1 := by omega
    have hn₂ : n₂ ≤ max m (max n₁ n₂) + 1 := by omega
    refine ⟨max m (max n₁ n₂) + 1, ?_⟩
    rw [loopFrom_succ_apply, (evaluator_below host hn₁).line _ _ _ hc, Option.bind_some, ho]
    dsimp only
    rw [(evaluator_below host hn₂).line _ _ _ hb, Option.bind_some]
    exact loopFrom_below (evaluator_below host (Nat.le_succ_of_le hm)) condition body hm _ _ h

/-- After any number of rounds whose bodies have values, the loop goes on. -/
theorem Rounds.loopsTo_iff {vs : List Value} {result : Except ScriptError Unit}
    (h : Rounds host condition body s vs t) :
    LoopsTo host condition body s result u ↔ LoopsTo host condition body t result u := by
  induction h with
  | nil s => rfl
  | cons hc ho hb _ ih => exact (loopsTo_of_round hc ho hb).trans ih

/-- A loop ends where its condition does not hold. -/
theorem loopsTo_of_false (hc : Evaluates host condition s o t) (ho : o.truth = .ok false) :
    LoopsTo host condition body s (.ok ()) t := by
  obtain ⟨n, hc⟩ := hc
  refine ⟨n + 1, ?_⟩
  rw [loopFrom_succ_apply, (evaluator_below host (Nat.le_succ n)).line _ _ _ hc, Option.bind_some,
    ho]

/-- A loop that ends without an error has gone through rounds whose bodies have values, up to where
its condition does not hold. -/
theorem rounds_of_loopFrom {limit bound : Nat}
    (h : loopFrom (evaluator host limit) condition body bound s = some (.ok (), u)) :
    ∃ vs t o, Rounds host condition body s vs t ∧ Evaluates host condition t o u ∧
      o.truth = .ok false := by
  -- the evaluator keeps its limit while the bound on the rounds goes down
  induction bound generalizing s with
  | zero => exact absurd h (by simp [loopFrom, Action.cutOff])
  | succ bound ih =>
    rw [loopFrom_succ_apply] at h
    obtain ⟨⟨o, t⟩, hc, h⟩ := Option.bind_eq_some_iff.mp h
    rcases ho : Outcome.truth o with error | _ | _
    · simp [ho] at h
    · simp only [ho, Option.some.injEq, Prod.mk.injEq, true_and] at h
      exact ⟨[], s, o, .nil s, ⟨limit, h ▸ hc⟩, ho⟩
    · simp only [ho] at h
      obtain ⟨⟨b, t'⟩, hb, h⟩ := Option.bind_eq_some_iff.mp h
      cases b with
      | error error => simp at h
      | ok v =>
        obtain ⟨vs, t₁, o₁, hrounds, hend⟩ := ih h
        exact ⟨v :: vs, t₁, o₁, .cons ⟨limit, hc⟩ ho ⟨limit, hb⟩ hrounds, hend⟩

/-- A loop ends without an error exactly if it goes through rounds whose bodies have values, up to
where its condition does not hold. -/
theorem loopsTo_ok_iff :
    LoopsTo host condition body s (.ok ()) u ↔
      ∃ vs t o, Rounds host condition body s vs t ∧ Evaluates host condition t o u ∧
        o.truth = .ok false := by
  constructor
  · rintro ⟨limit, h⟩
    exact rounds_of_loopFrom h
  · rintro ⟨vs, t, o, hrounds, hc, ho⟩
    exact hrounds.loopsTo_iff.mpr (loopsTo_of_false hc ho)

/-- A call of `For` passes exactly if its loop ends without an error. -/
theorem dispatches_loop_pass_iff (h : Brackets.arguments raw = [condition, body]) :
    Dispatches host "For" raw s (.ok .pass) u ↔ LoopsTo host condition body s (.ok ()) u := by
  have hrun (limit : Nat) : dispatch host limit "For" raw s = some (.ok .pass, u) ↔
      loopFrom (evaluator host limit) condition body limit s = some (.ok (), u) := by
    rw [show "For" = Builtin.loop.name from rfl, dispatch_name, Builtin.run, runLoop,
      exactlyTwo_of_arguments "For" h, Script.bind_of_ok (Script.liftExcept_apply _ s)]
    refine Script.bind_eq_some_iff.trans ?_
    constructor
    · rintro (⟨⟨⟩, t, hloop, ht⟩ | ⟨error, t, -, herror⟩)
      · obtain ⟨-, rfl⟩ := Prod.mk.inj (Option.some.inj ht)
        exact hloop
      · exact absurd herror (by simp)
    · exact fun hloop => .inl ⟨(), u, hloop, rfl⟩
  simp only [Dispatches, LoopsTo, hrun]

/-! ### Lines made of one call -/

/-- The session in which a call with the given argument text is made. -/
def withArguments (s : Session) (raw : String) : Session :=
  { s with env := s.env.set paramsName (.str raw) }

/-- The line has one span, a call with the given name and argument text. -/
def IsCall (line name raw : String) : Prop :=
  ∃ span, Brackets.spans line = [span] ∧ span.toList.any Brackets.isBracket = true ∧
    Call.parse span = .ok ⟨name, raw⟩

/-- A line of one span passes exactly if the span passes. -/
theorem Outcome.ofSpans_singleton_pass_iff : ofSpans [o] = .ok .pass ↔ o = .ok .pass := by
  rcases o with error | value
  · exact Iff.rfl
  · cases value with
    | error message =>
      -- an error value becomes an error, so neither side holds
      have herror : ofSpans [.ok (.error message)] = .error (.fail message) := rfl
      simp [herror]
    | _ => exact Iff.rfl

/-- A span with a call has the outcome of the call. -/
theorem spanEvaluates_iff_dispatches {span name : String}
    (hb : span.toList.any Brackets.isBracket = true) (hcall : Call.parse span = .ok ⟨name, raw⟩) :
    SpanEvaluates host span s o t ↔ Dispatches host name raw (s.withArguments raw) o t := by
  refine exists_congr fun limit => ?_
  rw [evalSpan, if_pos hb, hcall, Script.bind_of_ok (Script.liftExcept_apply _ s),
    Action.assign, Script.bind_of_ok (Script.modify_apply _ s)]
  rfl

/-- A line made of one call passes exactly if the call passes. -/
theorem evaluates_pass_iff_dispatches {line name : String} (h : IsCall line name raw) :
    Evaluates host line s (.ok .pass) t ↔
      Dispatches host name raw (s.withArguments raw) (.ok .pass) t := by
  obtain ⟨span, hspans, hb, hcall⟩ := h
  rw [evaluates_iff_runsSpans, hspans, ← spanEvaluates_iff_dispatches hb hcall]
  constructor
  · rintro ⟨outcomes, hrun, houtcome⟩
    cases hrun with
    | report => exact absurd (Outcome.ofSpans_singleton_pass_iff.mp houtcome.symm) (by simp)
    | cons hspan hreport hrest =>
      cases hrest
      obtain rfl := Outcome.ofSpans_singleton_pass_iff.mp houtcome.symm
      exact hspan
  · intro hspan
    exact ⟨_, .cons hspan rfl (.nil _), rfl⟩

/-! ### When conditions and loops pass -/

/-- A call of `If` passes exactly if its condition does not hold, or if it holds and the body has a
value; a call of `For` passes exactly if, after rounds whose bodies have values, its condition does
not hold. The value of a body may be any, the report of a run with failures among them. A line made
of such a call passes with it. -/
theorem dispatches_control_pass_iff (host : Host) (s u : Session) {raw condition body : String}
    (h : Brackets.arguments raw = [condition, body]) :
    (Dispatches host "If" raw s (.ok .pass) u ↔
      (∃ o, Evaluates host condition s o u ∧ o.truth = .ok false) ∨
        ∃ o t v, Evaluates host condition s o t ∧ o.truth = .ok true ∧
          Evaluates host body t (.ok v) u) ∧
    (Dispatches host "For" raw s (.ok .pass) u ↔
      ∃ vs t o, Rounds host condition body s vs t ∧ Evaluates host condition t o u ∧
        o.truth = .ok false) ∧
    ∀ line name, IsCall line name raw → ∀ s₀, s = s₀.withArguments raw →
      (Evaluates host line s₀ (.ok .pass) u ↔ Dispatches host name raw s (.ok .pass) u) := by
  refine ⟨dispatches_cond_pass_iff h, (dispatches_loop_pass_iff h).trans loopsTo_ok_iff, ?_⟩
  rintro line name hcall s₀ rfl
  exact evaluates_pass_iff_dispatches hcall

/-- The outcome, as that of a condition, is the given truth value. -/
def Outcome.isTruth (b : Bool) (outcome : Outcome) : Bool :=
  outcome.truth.toOption == some b

theorem Outcome.truth_of_isTruth {b : Bool} (h : o.isTruth b = true) : o.truth = .ok b := by
  have hsome : o.truth.toOption = some b := by simpa [Outcome.isTruth] using h
  exact exceptToOption_eq_some_iff.mp hsome

/-- A host with a script that fails. -/
def failingHost : Host := .ofFiles [("bad.txt", "[Fail(\"x\")]")]

/-- The report of running that script. -/
def failingReport : Report :=
  ⟨.text "bad.txt", [⟨.text "[Fail(\"x\")]", [.ofText "x"]⟩]⟩

/-- The argument text of a call whose body runs that script, once. -/
def failingArguments : String := "go,[Set(go,false,bool)][Evaluate(\"bad.txt\")]"

/-- A session in which the condition of that call holds. -/
def readySession : Session := { env := Environment.empty.set "go" (.bool true) }

/-- `If` and `For` pass, and so does a line made of one of them, although the body comes to the
report of a run with a failure. -/
theorem dispatches_control_pass_of_failures :
    failingReport.failures = ["bad.txt: [Fail(\"x\")]", "[Fail(\"x\")]: x"] ∧
    ∃ (o : Outcome) (t u w : Session),
      Evaluates failingHost "go" (readySession.withArguments failingArguments) o t ∧
      o.truth = .ok true ∧
      Evaluates failingHost "[Set(go,false,bool)][Evaluate(\"bad.txt\")]" t
        (.ok (.report failingReport)) u ∧
      Dispatches failingHost "If" failingArguments (readySession.withArguments failingArguments)
        (.ok .pass) u ∧
      Dispatches failingHost "For" failingArguments (readySession.withArguments failingArguments)
        (.ok .pass) w ∧
      Evaluates failingHost "[If(go,[Set(go,false,bool)][Evaluate(\"bad.txt\")])]" readySession
        (.ok .pass) u := by
  -- the condition, the body and the condition again, each in the session left by the one before
  have htest : ((eval failingHost 3 "go" (readySession.withArguments failingArguments)).any
      fun result => Outcome.isTruth true result.1 &&
        (eval failingHost 5 "[Set(go,false,bool)][Evaluate(\"bad.txt\")]" result.2).any
          fun result => decide (Outcome.report? result.1 = some failingReport) &&
            (eval failingHost 3 "go" result.2).any
              fun result => Outcome.isTruth false result.1) = true := by
    decide +kernel
  obtain ⟨o, t, hcondition, htest⟩ := evaluates_of_any htest
  obtain ⟨htrue, htest⟩ := Bool.and_eq_true_iff.mp htest
  obtain ⟨r, u, hbody, htest⟩ := evaluates_of_any htest
  obtain ⟨hrun, htest⟩ := Bool.and_eq_true_iff.mp htest
  obtain ⟨o', w, hagain, hfalse⟩ := evaluates_of_any htest
  have htrue := Outcome.truth_of_isTruth htrue
  have hfalse := Outcome.truth_of_isTruth hfalse
  obtain rfl := Outcome.report?_eq_some_iff.mp (of_decide_eq_true hrun)
  have harguments : Brackets.arguments failingArguments =
      ["go", "[Set(go,false,bool)][Evaluate(\"bad.txt\")]"] := by decide +kernel
  obtain ⟨hcond, -, hline⟩ := dispatches_control_pass_iff failingHost
    (readySession.withArguments failingArguments) u harguments
  obtain ⟨-, hloop, -⟩ := dispatches_control_pass_iff failingHost
    (readySession.withArguments failingArguments) w harguments
  have hpass := hcond.mpr (.inr ⟨o, t, .report failingReport, hcondition, htrue, hbody⟩)
  have hrounds := Rounds.cons hcondition htrue hbody (.nil u)
  have hparse : Call.ofChars? "[If(go,[Set(go,false,bool)][Evaluate(\"bad.txt\")])]".toList =
      some ("If".toList, failingArguments.toList) := by decide +kernel
  have hcall : IsCall "[If(go,[Set(go,false,bool)][Evaluate(\"bad.txt\")])]" "If"
      failingArguments := by
    refine ⟨"[If(go,[Set(go,false,bool)][Evaluate(\"bad.txt\")])]", ?_, ?_, ?_⟩
    · decide +kernel
    · decide +kernel
    · rw [Call.parse, hparse]
      simp
  refine ⟨?_, o, t, u, w, hcondition, htrue, hbody, hpass,
    hloop.mpr ⟨_, u, o', hrounds, hagain, hfalse⟩, (hline _ _ hcall readySession rfl).mpr hpass⟩
  simp [failingReport, Report.ofText, Report.leaf, Report.failures_eq_flatMap, Report.failuresBelow,
    Report.passes_text, Report.edge, Label.display]

end Session

end BracketScript
