import BracketScript.Proofs.Refusal

/-!
# Regimes

A regime says which sessions may occur and which reports may be built. Evaluation does not leave a
regime if none of its ways to change a session and to build a report does: assigning what a name
admits, removing a variable, printing, sending, and putting nodes and reports into a report. So that
one proof for each built-in serves all regimes, and the comparison of evaluations with different
limits as well, two evaluators are followed at the same time, of which the second does what the
first does.

## Main definitions

* `Environment.Admits`: what the language may bind to a name
* `Regime`: sessions and reports that are not left
* `Regime.Follows`: in a regime, one evaluator does what another one does
* `Regime.IsEntered`: targets are noted and forgotten within the regime

## Main results

* `Regime.builtin_keeps`: no built-in leaves a regime
* `Regime.evalLine_keeps`, `Regime.runTarget_keeps`: nor do lines and targets
* `Regime.evaluator_follows`: nor does evaluation, and a larger limit gives what a smaller one gives
-/

namespace BracketScript

/-- What the language may bind to a name: a scalar to any name, a JSON object to the name of the
most recent value, a failure to the name of a slot, and anything to the name of an argument. -/
inductive Environment.Admits : String → Value → Prop
  | scalar {name : String} {v : Value} : v.isScalar = true → Admits name v
  | latest (members : List (String × Json)) : Admits valueName (.json members)
  | outcome (index : Nat) (message : String) : Admits (slotName index) (.error message)
  | argument (index : Nat) (v : Value) : Admits (argumentName index) v

/-- Sessions and reports that evaluation does not leave, because none of its ways to change a
session or to build a report does. -/
structure Regime where
  /-- The sessions of the regime. -/
  session : Session → Prop
  /-- The reports of the regime. -/
  report : Report → Prop
  assign : ∀ {s : Session} {name : String} {v : Value}, session s → Environment.Admits name v →
    (∀ tree, v = .report tree → report tree) → session { s with env := s.env.set name v }
  erase : ∀ {s : Session} (name : String), session s → session { s with env := s.env.erase name }
  print : ∀ {s : Session} (line : String), session s →
    session { s with output := s.output.push line }
  send : ∀ {s : Session} (sent : Sent), session s → session { s with sent := s.sent.push sent }
  lookup : ∀ {s : Session} {name : String} {tree : Report}, session s →
    s.env.get? name = some (.report tree) → report tree
  ofText : ∀ text : String, report (.ofText text)
  add : ∀ {r : Report} (parent : String) (child : Label), report r →
    report (r.add (.text parent) child)
  addTree : ∀ {r tree : Report}, report r → report tree → report (r.addTree tree)

/-- A call with evaluated arguments is a call with argument text in the session that writing the
text leaves. -/
theorem callFunction_apply (host : Host) (e : Evaluator) (limit : Nat) (name : String)
    (values : List Value) (s : Session) :
    callFunction host e limit name values s =
      dispatch host e limit name (callText s.env values).1
        { s with
          env := (callText s.env values).2.set paramsName (.str (callText s.env values).1) } :=
  Script.get_bind_apply s

theorem evaluator_succ_line (host : Host) (limit : Nat) (line : String) :
    (evaluator host (limit + 1)).line line = evalLine host (evaluator host limit) limit line := by
  rw [evaluator]

theorem evaluator_succ_run (host : Host) (limit : Nat) (path : String) :
    (evaluator host (limit + 1)).run path = runPath host (evaluator host limit) path := by
  rw [evaluator]

namespace Regime

variable (K : Regime)

/-- The values of the regime: reports are of the regime, other values are not restricted. -/
def value (v : Value) : Prop := ∀ tree, v = .report tree → K.report tree

/-- From a session of the regime, whatever `x` comes to, `y` comes to as well, in a session of the
regime and with a value that has `Q`. -/
abbrev Keeps {α : Type} (Q : α → Prop) (x y : Action α) : Prop := Script.Keeps K.session Q x y

/-- In sessions of the regime `e'` does what `e` does, and does not leave the regime. -/
structure Follows (e e' : Evaluator) : Prop where
  line : ∀ source, K.Keeps K.value (e.line source) (e'.line source)
  run : ∀ path, K.Keeps K.report (e.run path) (e'.run path)

variable {K}

/-! ### The ways in which a session is changed -/

theorem value_of_isScalar {v : Value} (h : v.isScalar = true) : K.value v := by
  rintro tree rfl
  exact absurd h (by simp [Value.isScalar])

theorem value_pass : K.value .pass := nofun

theorem value_error (message : String) : K.value (.error message) := nofun

theorem value_report {tree : Report} : K.value (.report tree) ↔ K.report tree :=
  ⟨fun h => h tree rfl, fun h _ heq => Value.report.inj heq ▸ h⟩

theorem value_ofJson (j : Json) : K.value (.ofJson j) := by
  intro tree h
  unfold Value.ofJson at h
  split at h
  · cases h
  · cases h
  · split at h <;> cases h
  · cases h
  · cases h

theorem keeps_pass : K.Keeps K.value (pure .pass) (pure .pass) := Script.keeps_pure value_pass

theorem keeps_lift {α : Type} (result : Except ScriptError α) :
    K.Keeps (fun _ => True) (liftExcept result) (liftExcept result) :=
  Script.keeps_liftExcept fun _ _ => trivial

theorem keeps_cutOff {α : Type} {Q : α → Prop} (y : Action α) : K.Keeps Q Action.cutOff y :=
  fun _ _ _ _ h => nomatch h

theorem keeps_assign {name : String} {v : Value} (h : Environment.Admits name v)
    (hv : K.value v) : K.Keeps (fun _ => True) (Action.assign name v) (Action.assign name v) :=
  Script.keeps_modify fun _ hs => K.assign hs h hv

theorem keeps_assign_scalar (name : String) {v : Value} (h : v.isScalar = true) :
    K.Keeps (fun _ => True) (Action.assign name v) (Action.assign name v) :=
  keeps_assign (.scalar h) (value_of_isScalar h)

theorem keeps_remove (name : String) :
    K.Keeps (fun _ => True) (Action.remove name) (Action.remove name) :=
  Script.keeps_modify fun _ hs => K.erase name hs

theorem keeps_print (line : String) :
    K.Keeps (fun _ => True) (Action.print line) (Action.print line) :=
  Script.keeps_modify fun _ hs => K.print line hs

theorem keeps_send (host : Host) (request : Request) (simultaneous : Bool) :
    K.Keeps (fun _ => True) (Action.send host request simultaneous)
      (Action.send host request simultaneous) := by
  refine Script.keeps_get.bind fun s hs => ?_
  refine Script.Keeps.bind (Q := fun _ => True) ?_ fun _ _ => Script.keeps_pure trivial
  intro t r u _ h
  obtain ⟨rfl, rfl⟩ := Prod.mk.inj (Option.some.inj h)
  exact ⟨h, K.send _ hs, fun _ _ => trivial⟩

theorem keeps_lookup (name : String) :
    K.Keeps (fun found => ∀ v, found = some v → K.value v) (Action.lookup name)
      (Action.lookup name) := by
  refine Script.keeps_get.bind fun s hs => Script.keeps_pure ?_
  rintro v hfound tree rfl
  exact K.lookup hs hfound

/-- The result of an attempt is a value with `Q` or an error. -/
theorem Keeps.attempt {α : Type} {Q : α → Prop} {x y : Action α} (h : K.Keeps Q x y) :
    K.Keeps (fun result => ∀ a, result = .ok a → Q a) (Action.attempt x) (Action.attempt y) := by
  intro s r t hs hx
  obtain ⟨⟨result, u⟩, hxs, hout⟩ := Option.map_eq_some_iff.mp hx
  obtain ⟨rfl, rfl⟩ := Prod.mk.inj hout
  obtain ⟨hys, ht, hresult⟩ := h s result u hs hxs
  exact ⟨Option.map_eq_some_iff.mpr ⟨_, hys, rfl⟩, ht, fun _ heq => Except.ok.inj heq ▸ hresult⟩

namespace Follows

variable {e e' : Evaluator}

theorem text (h : K.Follows e e') (source : String) :
    K.Keeps (fun _ => True) (e.text source) (e'.text source) :=
  (h.line source).bind fun _ _ => keeps_lift _

theorem integer (h : K.Follows e e') (source : String) :
    K.Keeps (fun _ => True) (e.integer source) (e'.integer source) :=
  (h.line source).bind fun _ _ => keeps_lift _

theorem truth (h : K.Follows e e') (source : String) :
    K.Keeps (fun _ => True) (e.truth source) (e'.truth source) :=
  (h.line source).bind fun _ _ => keeps_lift _

end Follows

/-! ### Built-ins

A built-in asks for the values of its arguments first and changes the session last. -/

section Builtins

theorem exchangeOne_keeps (host : Host) (request : Request) :
    K.Keeps K.value (exchangeOne host request) (exchangeOne host request) := by
  refine (keeps_send host request false).bind fun answer _ => ?_
  cases answer with
  | ok response => exact (keeps_assign_scalar _ rfl).bind fun _ _ => keeps_pass
  | error error => exact Script.keeps_throw _

theorem sendTasks_keeps (host : Host) (tasks : List (Nat × Request)) :
    K.Keeps (fun _ => True) (sendTasks host tasks) (sendTasks host tasks) := by
  induction tasks with
  | nil => exact Script.keeps_pure trivial
  | cons task rest ih =>
    refine (keeps_send host task.2 true).bind fun outcome _ => ?_
    refine Script.Keeps.bind (Q := fun _ => True) ?_ fun _ _ => ih
    cases outcome with
    | ok response => exact keeps_assign_scalar _ rfl
    | error error => exact keeps_assign (.outcome _ _) (value_error _)

theorem runAssertSuccess_keeps : K.Keeps K.value runAssertSuccess runAssertSuccess := by
  refine Script.keeps_get.bind fun s _ => (keeps_remove _).bind fun _ _ => ?_
  refine (keeps_lift _).bind fun elements _ => ?_
  cases elements with
  | nil => exact Script.keeps_throw _
  | cons first rest => exact (Script.keeps_throw _).ite keeps_pass

variable {e e' : Evaluator} (h : K.Follows e e') (raw : String)
include h

theorem runSet_keeps : K.Keeps K.value (runSet e raw) (runSet e' raw) := by
  have hassign (name : String) {v : Value} (hv : v.isScalar = true) :
      K.Keeps K.value (do Action.assign name v; return .pass)
        (do Action.assign name v; return .pass) :=
    (keeps_assign_scalar name hv).bind fun _ _ => keeps_pass
  unfold runSet
  split
  · dsimp only
    -- the second argument is asked for as a text, as an integer or as a truth value
    split
    · exact (h.text _).bind fun _ _ => hassign _ rfl
    · split
      · exact (h.integer _).bind fun _ _ => hassign _ rfl
      · split
        · exact (h.truth _).bind fun _ _ => hassign _ rfl
        · exact Script.keeps_throw _
  · exact Script.keeps_throw _

theorem runCond_keeps : K.Keeps K.value (runCond e raw) (runCond e' raw) := by
  refine (keeps_lift _).bind fun (condition, body) _ => (h.truth condition).bind fun b _ => ?_
  exact ((h.line body).bind fun _ _ => keeps_pass).ite keeps_pass

theorem loopFrom_keeps (condition body : String) {limit limit' : Nat} (hl : limit ≤ limit') :
    K.Keeps (fun _ => True) (loopFrom e condition body limit)
      (loopFrom e' condition body limit') := by
  induction limit generalizing limit' with
  | zero => exact keeps_cutOff _
  | succ limit ih =>
    -- the rounds after this one have one round less within both limits
    obtain ⟨limit', rfl⟩ : ∃ n, limit' = n + 1 := ⟨limit' - 1, by omega⟩
    have hrest := ih (Nat.le_of_succ_le_succ hl)
    refine (h.truth condition).bind fun b _ => ?_
    exact ((h.line body).bind fun _ _ => hrest).ite (Script.keeps_pure trivial)

theorem runLoop_keeps {limit limit' : Nat} (hl : limit ≤ limit') :
    K.Keeps K.value (runLoop e limit raw) (runLoop e' limit' raw) :=
  (keeps_lift _).bind fun (condition, body) _ =>
    (loopFrom_keeps h condition body hl).bind fun _ _ => keeps_pass

theorem runAssertEquals_keeps :
    K.Keeps K.value (runAssertEquals e raw) (runAssertEquals e' raw) := by
  refine (keeps_lift _).bind fun (first, second) _ => ?_
  refine (h.text first).bind fun _ _ => (h.text second).bind fun _ _ => ?_
  exact keeps_pass.ite (Script.keeps_throw _)

theorem runAssertContains_keeps :
    K.Keeps K.value (runAssertContains e raw) (runAssertContains e' raw) := by
  refine (keeps_lift _).bind fun (first, second) _ => ?_
  refine (h.text first).bind fun _ _ => (h.text second).bind fun _ _ => ?_
  exact keeps_pass.ite (Script.keeps_throw _)

theorem runAssertLists_keeps : K.Keeps K.value (runAssertLists e raw) (runAssertLists e' raw) := by
  refine (keeps_lift _).bind fun (first, second, third) _ => ?_
  refine (h.text first).bind fun _ _ => (h.text second).bind fun _ _ => ?_
  exact (h.truth third).bind fun _ _ => (keeps_lift _).bind fun _ _ => keeps_pass

theorem runAssertFailure_keeps :
    K.Keeps K.value (runAssertFailure e raw) (runAssertFailure e' raw) := by
  refine (keeps_lift _).bind fun argument _ => (h.text argument).bind fun code _ => ?_
  refine Script.keeps_get.bind fun s _ => (keeps_lift _).bind fun elements _ => ?_
  cases elements with
  | nil => exact Script.keeps_throw _
  | cons first rest => exact keeps_pass.ite (Script.keeps_throw _)

theorem runPost_keeps (host : Host) :
    K.Keeps K.value (runPost host e raw) (runPost host e' raw) := by
  refine (keeps_lift _).bind fun (urlText, bodyText, headerText) _ => ?_
  refine (h.text urlText).bind fun _ _ => (h.text bodyText).bind fun _ _ => ?_
  refine (keeps_lift _).bind fun _ _ => (h.text headerText).bind fun _ _ => ?_
  exact (keeps_lift _).bind fun _ _ => exchangeOne_keeps host _

theorem runGet_keeps (host : Host) : K.Keeps K.value (runGet host e raw) (runGet host e' raw) := by
  refine (keeps_lift _).bind fun (urlText, headerText) _ => ?_
  refine (h.text urlText).bind fun _ _ => (h.text headerText).bind fun _ _ => ?_
  exact (keeps_lift _).bind fun _ _ => exchangeOne_keeps host _

theorem runParallelPost_keeps (host : Host) :
    K.Keeps K.value (runParallelPost host e raw) (runParallelPost host e' raw) := by
  refine (keeps_lift _).bind fun (fileText, headerText, bodyText, urlText) _ => ?_
  refine (h.text fileText).bind fun _ _ => (h.text headerText).bind fun _ _ => ?_
  refine (keeps_lift _).bind fun _ _ => (h.text bodyText).bind fun _ _ => ?_
  refine (keeps_lift _).bind fun _ _ => (h.text urlText).bind fun _ _ => ?_
  refine (keeps_lift _).bind fun tasks _ => ?_
  exact (sendTasks_keeps host tasks).bind fun _ _ => keeps_pass

theorem evalTexts_keeps (sources : List String) :
    K.Keeps (fun _ => True) (evalTexts e sources) (evalTexts e' sources) := by
  induction sources with
  | nil => exact Script.keeps_pure trivial
  | cons source rest ih =>
    exact (h.text source).bind fun _ _ => ih.bind fun _ _ => Script.keeps_pure trivial

theorem runPrint_keeps : K.Keeps K.value (runPrint e raw) (runPrint e' raw) := by
  refine (evalTexts_keeps h _).bind fun texts _ => ?_
  cases texts with
  | nil => exact keeps_pass
  | cons format arguments => exact (keeps_print _).bind fun _ _ => keeps_pass

theorem runReadFile_keeps (host : Host) :
    K.Keeps K.value (runReadFile host e raw) (runReadFile host e' raw) := by
  refine (keeps_lift _).bind fun (first, second) _ => ?_
  refine (h.text first).bind fun name _ => (h.text second).bind fun path _ => ?_
  cases host.scripts.read path with
  | ok data =>
    exact (keeps_assign_scalar _ rfl).bind fun _ _ => Script.keeps_pure (value_of_isScalar rfl)
  | error error => exact Script.keeps_throw _

theorem runResponse_keeps : K.Keeps K.value (runResponse e raw) (runResponse e' raw) := by
  refine (keeps_lift _).bind fun argument _ => (h.text argument).bind fun field _ => ?_
  refine Script.keeps_get.bind fun s hs => ?_
  dsimp only
  split
  · exact Script.keeps_pure (value_ofJson _)
  · split
    next v hfound =>
      refine Script.keeps_pure ?_
      rintro tree rfl
      exact K.lookup hs hfound
    next => exact Script.keeps_throw _

theorem runSleep_keeps : K.Keeps K.value (runSleep e raw) (runSleep e' raw) :=
  (keeps_lift _).bind fun argument _ => (h.integer argument).bind fun _ _ => keeps_pass

theorem runFail_keeps : K.Keeps K.value (runFail e raw) (runFail e' raw) := by
  refine (h.text raw).attempt.bind fun result _ => ?_
  cases result with
  | ok message => exact Script.keeps_throw _
  | error error => exact Script.keeps_throw _

theorem runEvaluate_keeps : K.Keeps K.value (runEvaluate e raw) (runEvaluate e' raw) := by
  refine (h.text _).attempt.bind fun result _ => ?_
  cases result with
  | ok path =>
    exact (h.run path).bind fun tree htree => Script.keeps_pure (value_report.mpr htree)
  | error error =>
    exact Script.keeps_pure (value_report.mpr (K.add _ _ (K.ofText _)))

/-- No built-in leaves a regime. -/
theorem builtin_keeps (host : Host) {limit limit' : Nat} (hl : limit ≤ limit') (b : Builtin) :
    K.Keeps K.value (b.run host e limit raw) (b.run host e' limit' raw) := by
  cases b with
  | set => exact runSet_keeps h raw
  | cond => exact runCond_keeps h raw
  | loop => exact runLoop_keeps h raw hl
  | assertEquals => exact runAssertEquals_keeps h raw
  | assertContains => exact runAssertContains_keeps h raw
  | assertLists => exact runAssertLists_keeps h raw
  | assertSuccess => exact runAssertSuccess_keeps
  | assertFailure => exact runAssertFailure_keeps h raw
  | post => exact runPost_keeps h raw host
  | get => exact runGet_keeps h raw host
  | parallelPost => exact runParallelPost_keeps h raw host
  | print => exact runPrint_keeps h raw
  | readFile => exact runReadFile_keeps h raw host
  | response => exact runResponse_keeps h raw
  | sleep => exact runSleep_keeps h raw
  | fail => exact runFail_keeps h raw
  | pass => exact keeps_pass
  | evaluate => exact runEvaluate_keeps h raw
  | truth => exact (h.truth raw).bind fun _ _ => Script.keeps_pure (value_of_isScalar rfl)

end Builtins

/-! ### Lines and targets -/

/-- Arguments are put under names of their own without leaving a regime. -/
theorem session_callTexts {s : Session} {values : List Value} {index : Nat} {env : Environment}
    (hs : K.session { s with env := env }) (hvalues : ∀ v ∈ values, K.value v) :
    K.session { s with env := (callTexts env index values).2 } := by
  induction values generalizing index env with
  | nil => exact hs
  | cons v rest ih =>
    obtain ⟨hv, hrest⟩ := List.forall_mem_cons.mp hvalues
    unfold callTexts
    split
    · exact ih hs hrest
    · exact ih (K.assign hs (.argument index v) hv) hrest

section Lines

variable {e e' : Evaluator} (h : K.Follows e e') {limit limit' : Nat} (hl : limit ≤ limit')
  (host : Host)
include h hl

theorem dispatch_keeps (name raw : String) :
    K.Keeps K.value (dispatch host e limit name raw) (dispatch host e' limit' name raw) := by
  unfold dispatch
  split
  · exact builtin_keeps h raw host hl _
  · exact Script.keeps_throw _

theorem callFunction_keeps (name : String) {values : List Value}
    (hvalues : ∀ v ∈ values, K.value v) :
    K.Keeps K.value (callFunction host e limit name values)
      (callFunction host e' limit' name values) := by
  intro s r t hs hx
  -- the environment that the call leaves is computed from the one that it finds
  rw [callFunction_apply] at hx ⊢
  refine dispatch_keeps h hl host name _ _ r t ?_ hx
  exact K.assign (session_callTexts hs hvalues) (.scalar rfl) (value_of_isScalar rfl)

theorem sessionContext_keeps :
    (sessionContext host e limit).Keeps K.session K.value (sessionContext host e' limit') where
  lookup := keeps_lookup
  call name _ hvalues := callFunction_keeps h hl host name hvalues

theorem evalSpan_keeps (span : String) :
    K.Keeps K.value (evalSpan host e limit span) (evalSpan host e' limit' span) := by
  unfold evalSpan
  refine .ite ?_ ?_
  · refine (keeps_lift _).bind fun call _ => (keeps_assign_scalar _ rfl).bind fun _ _ => ?_
    exact dispatch_keeps h hl host call.name call.raw
  · exact Expr.evalText_keeps (sessionContext_keeps h hl host) (fun _ => value_of_isScalar) span

theorem evalSpans_keeps (errors : List ScriptError) {last : Value} (hlast : K.value last)
    (spans : List String) : K.Keeps K.value (evalSpans host e limit errors last spans)
      (evalSpans host e' limit' errors last spans) := by
  induction spans generalizing errors last with
  | nil =>
    unfold evalSpans
    split
    · exact Script.keeps_pure hlast
    · exact Script.keeps_throw _
  | cons span rest ih =>
    unfold evalSpans
    refine (evalSpan_keeps h hl host span).attempt.bind fun outcome houtcome => ?_
    split
    · exact Script.keeps_pure (houtcome _ rfl)
    · exact ih _ hlast
    · exact ih _ value_pass
    next v hreport herror hpass =>
      -- what is kept for the spans to come is a scalar or a JSON object
      have hadmits : Environment.Admits valueName v := by
        cases v with
        | str | int | bool => exact .scalar rfl
        | json members => exact .latest members
        | error message => exact absurd rfl (herror message)
        | report tree => exact absurd rfl (hreport tree)
        | pass => exact absurd rfl hpass
      exact (keeps_assign hadmits (houtcome v rfl)).bind fun _ _ => ih _ (houtcome v rfl)
    · exact ih _ hlast

theorem evalLine_keeps (line : String) :
    K.Keeps K.value (evalLine host e limit line) (evalLine host e' limit' line) :=
  evalSpans_keeps h hl host [] value_pass _

end Lines

/-- The report of a target stays in the regime when a line is recorded. -/
theorem report_recordLine {report : Report} {outcome : Except ScriptError Value}
    (hreport : K.report report) (houtcome : ∀ v, outcome = .ok v → K.value v)
    (path line : String) : K.report (recordLine report path line outcome) := by
  unfold recordLine
  split
  · exact K.add _ _ (K.add _ _ hreport)
  · exact K.addTree (K.add _ _ hreport) (value_report.mp (houtcome _ rfl))
  · exact hreport
  · exact K.add _ _ (K.add _ _ hreport)

section Targets

variable {e e' : Evaluator} (h : K.Follows e e') (host : Host)
include h

theorem runLines_keeps (path : String) {report : Report} (hreport : K.report report)
    (lines : List String) :
    K.Keeps K.report (runLines e path report lines) (runLines e' path report lines) := by
  induction lines generalizing report with
  | nil => exact Script.keeps_pure hreport
  | cons line rest ih =>
    refine (h.line line).attempt.bind fun outcome houtcome => ?_
    exact ih (report_recordLine hreport houtcome path line)

theorem runEntries_keeps (path : String) {report : Report} (hreport : K.report report)
    (names : List String) :
    K.Keeps K.report (runEntries e path report names) (runEntries e' path report names) := by
  induction names generalizing report with
  | nil => exact Script.keeps_pure hreport
  | cons name rest ih =>
    refine (h.run _).bind fun child hchild => ?_
    exact ih (K.addTree (K.add _ _ hreport) hchild)

theorem runTarget_keeps (path : String) :
    K.Keeps K.report (runTarget host e path) (runTarget host e' path) := by
  have hstart := K.ofText path
  unfold runTarget
  refine .ite ?_ ?_
  · unfold runDirectory
    dsimp only
    split
    · exact Script.keeps_pure (K.add _ _ hstart)
    · exact runEntries_keeps h path hstart _
  · unfold runFile
    dsimp only
    split
    · exact Script.keeps_pure (K.add _ _ (K.add _ _ hstart))
    · refine .ite (Script.keeps_pure (K.add _ _ hstart)) ?_
      exact runLines_keeps h path hstart _

end Targets

theorem report_of_refusal {s : Session} {given : String} {report : Report}
    (h : refusal? s given = some report) : K.report report := by
  have hstart := K.ofText (targetPath given)
  simp only [refusal?] at h
  split at h
  · obtain rfl := Option.some.inj h
    exact K.add _ _ (K.add _ _ hstart)
  · split at h
    · obtain rfl := Option.some.inj h
      exact K.add _ _ (K.add _ _ hstart)
    · exact absurd h (by simp)

/-- Noting a target that is run and forgetting a target do not leave the regime. -/
structure IsEntered (K : Regime) : Prop where
  enter : ∀ {s : Session} {given : String}, K.session s → refusal? s given = none →
    K.session (s.enter (targetPath given))
  leave : ∀ {s : Session}, K.session s → K.session s.leave

theorem runPath_keeps (hK : K.IsEntered) {e e' : Evaluator} (h : K.Follows e e') (host : Host)
    (given : String) : K.Keeps K.report (runPath host e given) (runPath host e' given) := by
  intro s r t hs hx
  cases hrefusal : refusal? s given with
  | some report =>
    rw [runPath_of_refusal hrefusal] at hx ⊢
    obtain ⟨rfl, rfl⟩ := Prod.mk.inj (Option.some.inj hx)
    exact ⟨rfl, hs, fun _ heq => Except.ok.inj heq ▸ report_of_refusal hrefusal⟩
  | none =>
    rw [runPath_of_not_refused hrefusal] at hx ⊢
    -- the target is run in the session in which it is noted, and that session is of the regime
    have hrun := (runTarget_keeps h host (targetPath given)).bind fun report hreport =>
      (Script.keeps_modify (I := K.session) (fun _ => hK.leave)).bind fun _ _ =>
        Script.keeps_pure hreport
    exact hrun _ r t (hK.enter hs hrefusal) hx

/-- Evaluation within a limit does not leave the regime, and a larger limit gives what a smaller one
gives. -/
theorem evaluator_follows (hK : K.IsEntered) (host : Host) {limit limit' : Nat}
    (hl : limit ≤ limit') : K.Follows (evaluator host limit) (evaluator host limit') := by
  induction limit generalizing limit' with
  | zero => exact ⟨fun _ => keeps_cutOff _, fun _ => keeps_cutOff _⟩
  | succ limit ih =>
    -- what is nested in a line or a target is evaluated within the limit before
    obtain ⟨limit', rfl⟩ : ∃ n, limit' = n + 1 := ⟨limit' - 1, by omega⟩
    have hl' : limit ≤ limit' := Nat.le_of_succ_le_succ hl
    have hfollows := ih hl'
    refine ⟨fun line => ?_, fun path => ?_⟩
    · rw [evaluator_succ_line, evaluator_succ_line]
      exact evalLine_keeps hfollows hl' host line
    · rw [evaluator_succ_run, evaluator_succ_run]
      exact runPath_keeps hK hfollows host path

end Regime

end BracketScript
