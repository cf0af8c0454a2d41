import BracketScript.Proofs.Failures
import BracketScript.Proofs.Separators
import BracketScript.Proofs.Steps
import Mathlib.Logic.Relation

/-!
# Collected failures

The failures of a line are collected, but a single failure stays what it is. So a collection has two
entries at least, and since the lines that are nested in a line fail in the same way, this holds for
the collections in a collection as well, at any depth: errors are proper. No collection is empty
then, so that none puts two separators next to each other, and a proper error is worded as its
failures one after the other.

That errors are proper is followed through evaluation with one lemma for each function: it fails
with proper errors if the lines and targets that are evaluated for its arguments do.

## Main definitions

* `ScriptError.HasPart`: an error stands in a collection
* `ScriptError.IsProper`: an error in which no collection is too small
* `Action.FailsProperly`: a computation fails with proper errors only

## Main results

* `ScriptError.IsProper.message_eq_joinWith`: proper errors are worded as their failures
* `Builtin.run_failsProperly`: built-ins fail properly
* `evaluator_failsProperly`: so does evaluation
* `Session.Performs.error_reads_flat`: the errors of all that a session can be asked for are proper
  and read as flat lists
-/

namespace BracketScript

/-! ### Proper errors -/

namespace ScriptError

/-- The error is a collection in which the other one stands. -/
def HasPart (error part : ScriptError) : Prop := ∃ errors, error = .cascade errors ∧ part ∈ errors

/-- No collection in the error has less than two entries, at any depth. -/
inductive IsProper : ScriptError → Prop
  | single {error : ScriptError} : error.IsSingle → IsProper error
  | cascade {errors : List ScriptError} : 2 ≤ errors.length →
      (∀ error ∈ errors, IsProper error) → IsProper (.cascade errors)

variable {error part leaf : ScriptError} {errors : List ScriptError}

/-- A collection is made of two errors or more. -/
theorem IsProper.of_ofList? (h : ∀ error ∈ errors, IsProper error)
    (herror : ofList? errors = some error) : error.IsProper := by
  cases errors with
  | nil => cases herror
  | cons first rest =>
    cases rest with
    | nil =>
      obtain rfl := Option.some.inj herror
      exact h _ List.mem_cons_self
    | cons second rest =>
      obtain rfl := Option.some.inj herror
      exact .cascade (Nat.le_add_left 2 rest.length) h

theorem IsProper.two_le_length (h : (ScriptError.cascade errors).IsProper) : 2 ≤ errors.length := by
  cases h with
  | single hsingle => exact absurd rfl (hsingle errors)
  | cascade hlength _ => exact hlength

theorem IsProper.of_hasPart (h : error.IsProper) (hpart : error.HasPart part) : part.IsProper := by
  obtain ⟨errors, rfl, hmem⟩ := hpart
  cases h with
  | single hsingle => exact absurd rfl (hsingle errors)
  | cascade _ hparts => exact hparts part hmem

/-- All that is nested in a proper error is proper. -/
theorem IsProper.of_reflTransGen (h : error.IsProper)
    (hparts : Relation.ReflTransGen HasPart error part) : part.IsProper := by
  induction hparts with
  | refl => exact h
  | tail _ hpart ih => exact ih.of_hasPart hpart

theorem IsSingle.leaves_eq (h : error.IsSingle) : error.leaves = [error] := by
  cases error with
  | cascade errors => exact absurd rfl (h errors)
  | _ => rfl

theorem leaves_cascade (errors : List ScriptError) :
    (cascade errors).leaves = errors.flatMap leaves := by
  rw [leaves, leavesAll_eq_flatMap]

theorem message_cascade (errors : List ScriptError) :
    (cascade errors).message = Text.joinWith ", " (errors.map message) := by
  unfold message
  exact congrArg (Text.joinWith ", ") (messages_eq_map errors)

/-- What is nested in a collection is the collection itself or nested in one of its entries. -/
theorem reflTransGen_cascade_iff : Relation.ReflTransGen HasPart (.cascade errors) part ↔
    part = .cascade errors ∨ ∃ error ∈ errors, Relation.ReflTransGen HasPart error part := by
  rw [Relation.ReflTransGen.cases_head_iff, eq_comm]
  refine or_congr Iff.rfl ⟨?_, ?_⟩
  · rintro ⟨error, ⟨errors', heq, hmem⟩, hparts⟩
    exact ⟨error, cascade.inj heq ▸ hmem, hparts⟩
  · rintro ⟨error, hmem, hparts⟩
    exact ⟨error, ⟨errors, rfl, hmem⟩, hparts⟩

theorem IsSingle.reflTransGen_iff (h : error.IsSingle) :
    Relation.ReflTransGen HasPart error part ↔ part = error := by
  rw [Relation.ReflTransGen.cases_head_iff, eq_comm]
  refine or_iff_left ?_
  rintro ⟨_, ⟨errors, heq, -⟩, -⟩
  exact h errors heq

/-- The failures that a proper error is made of are the single errors in it. -/
theorem IsProper.mem_leaves_iff (h : error.IsProper) :
    leaf ∈ error.leaves ↔ Relation.ReflTransGen HasPart error leaf ∧ leaf.IsSingle := by
  induction h with
  | single hsingle =>
    rw [hsingle.leaves_eq, List.mem_singleton, hsingle.reflTransGen_iff]
    refine ⟨?_, And.left⟩
    rintro rfl
    exact ⟨rfl, hsingle⟩
  | cascade _ _ ih =>
    rw [leaves_cascade, List.mem_flatMap, reflTransGen_cascade_iff]
    constructor
    · rintro ⟨error, hmem, hleaf⟩
      obtain ⟨hparts, hsingle⟩ := (ih error hmem).mp hleaf
      exact ⟨.inr ⟨error, hmem, hparts⟩, hsingle⟩
    · rintro ⟨rfl | ⟨error, hmem, hparts⟩, hsingle⟩
      · exact absurd rfl (hsingle _)
      · exact ⟨error, hmem, (ih error hmem).mpr ⟨hparts, hsingle⟩⟩

/-- Errors that are worded as their failures, of which each has some, are worded as all of these
together. -/
theorem joinWith_map_message (h : ∀ error ∈ errors, error.leaves ≠ [] ∧
      error.message = Text.joinWith ", " (error.leaves.map message)) :
    Text.joinWith ", " (errors.map message) =
      Text.joinWith ", " ((errors.flatMap leaves).map message) := by
  induction errors with
  | nil => rfl
  | cons error rest ih =>
    obtain ⟨⟨hne, hmessage⟩, hrest⟩ := List.forall_mem_cons.mp h
    rw [List.flatMap_cons, List.map_append, List.map_cons]
    cases rest with
    | nil => simpa using hmessage
    | cons next rest =>
      have hnext : ((next :: rest).flatMap leaves).map message ≠ [] := by
        rw [List.flatMap_cons]
        simp [(hrest next List.mem_cons_self).1]
      rw [Text.joinWith_append_of_ne_nil ", " (by simpa using hne) hnext, ← ih hrest, hmessage,
        List.map_cons, Text.joinWith_cons_cons]

theorem IsProper.leaves_ne_nil (h : error.IsProper) : error.leaves ≠ [] := by
  induction h with
  | single hsingle =>
    rw [hsingle.leaves_eq]
    exact List.cons_ne_nil _ _
  | @cascade errors hlength _ ih =>
    have hpos : 0 < errors.length := Nat.lt_of_lt_of_le Nat.two_pos hlength
    obtain ⟨first, rest, rfl⟩ := List.exists_cons_of_length_pos hpos
    rw [leaves_cascade, List.flatMap_cons]
    exact List.append_ne_nil_of_left_ne_nil (ih first List.mem_cons_self) _

/-- A proper error is worded as the failures that it is made of, one after the other. -/
theorem IsProper.message_eq_joinWith (h : error.IsProper) :
    error.message = Text.joinWith ", " (error.leaves.map message) := by
  induction h with
  | single hsingle =>
    rw [hsingle.leaves_eq]
    rfl
  | cascade _ hparts ih =>
    rw [message_cascade, leaves_cascade]
    exact joinWith_map_message fun error hmem => ⟨(hparts error hmem).leaves_ne_nil, ih error hmem⟩

end ScriptError

/-! ### Computations on sessions -/

namespace Action

variable {α β : Type} {x : Action α} {f : Except ScriptError α → Action β}

/-- All errors of the computation are proper. -/
abbrev FailsProperly (x : Action α) : Prop := Script.FailsWith ScriptError.IsProper x

theorem failsProperly_throw {error : ScriptError} (h : error.IsSingle) :
    FailsProperly (throw error : Action α) :=
  Script.failsWith_throw (.single h)

theorem failsProperly_lift {result : Except ScriptError α} (h : FailsSingly result) :
    FailsProperly (liftExcept result) :=
  Script.failsWith_liftExcept (fun _ => .single) h

theorem failsProperly_cutOff : FailsProperly (cutOff : Action α) := fun _ _ _ h => nomatch h

theorem Succeeds.failsProperly (h : Succeeds x) : FailsProperly x := by
  intro s error t herror
  obtain ⟨a, ha⟩ := h s _ herror
  exact absurd ha (by simp)

theorem failsProperly_assign (name : String) (v : Value) : FailsProperly (assign name v) :=
  Script.failsWith_modify _

theorem failsProperly_lookup (name : String) : FailsProperly (lookup name) :=
  Script.failsWith_get.bind fun _ => Script.failsWith_pure _

theorem failsProperly_send (host : Host) (request : Request) (simultaneous : Bool) :
    FailsProperly (send host request simultaneous) :=
  Script.failsWith_of_apply (fun _ => rfl) nofun

/-- After an attempt it goes on with a value or with a proper error. -/
theorem FailsProperly.attempt_bind (hx : FailsProperly x) (hok : ∀ a, FailsProperly (f (.ok a)))
    (herror : ∀ error : ScriptError, error.IsProper → FailsProperly (f (.error error))) :
    FailsProperly (attempt x >>= f) := by
  intro s error t h
  rcases Script.bind_eq_error_iff.mp h with h | ⟨result, u, hattempt, hf⟩
  · exact (succeeds_attempt x).failsProperly s error t h
  · obtain ⟨⟨result', u'⟩, hxs, hout⟩ := Option.map_eq_some_iff.mp hattempt
    obtain ⟨hresult, rfl⟩ := Prod.mk.inj hout
    obtain rfl := Except.ok.inj hresult
    cases result' with
    | ok a => exact hok a u' error t hf
    | error error' => exact herror error' (hx s error' u' hxs) u' error t hf

end Action

open BracketScript.Action (FailsProperly)

/-- Evaluating a line and running a target fails with proper errors only. -/
structure Evaluator.FailsProperly (e : Evaluator) : Prop where
  line : ∀ source, Action.FailsProperly (e.line source)
  run : ∀ path, Action.FailsProperly (e.run path)

namespace Evaluator.FailsProperly

variable {e : Evaluator} (h : e.FailsProperly) (source : String)
include h

theorem text : Action.FailsProperly (e.text source) :=
  (h.line source).bind fun v => Action.failsProperly_lift v.asText_failsSingly

theorem integer : Action.FailsProperly (e.integer source) :=
  (h.line source).bind fun v => Action.failsProperly_lift v.asInteger_failsSingly

theorem truth : Action.FailsProperly (e.truth source) :=
  (h.line source).bind fun v => Action.failsProperly_lift v.asTruth_failsSingly

end Evaluator.FailsProperly

/-! ### Built-ins

A built-in fails as its arguments do, or with a single error of its own. -/

section Builtins

theorem failsProperly_pass : FailsProperly (pure .pass : Action Value) := Script.failsWith_pure _

theorem exchangeOne_failsProperly (host : Host) (request : Request) :
    FailsProperly (exchangeOne host request) := by
  refine (Action.failsProperly_send host request false).bind fun answer => ?_
  cases answer with
  | ok response => exact (Action.failsProperly_assign _ _).bind fun _ => failsProperly_pass
  | error error => exact Action.failsProperly_throw nofun

theorem sendTasks_failsProperly (host : Host) (tasks : List (Nat × Request)) :
    FailsProperly (sendTasks host tasks) := by
  induction tasks with
  | nil => exact Script.failsWith_pure _
  | cons task rest ih =>
    refine (Action.failsProperly_send host task.2 true).bind fun outcome => ?_
    exact (Action.failsProperly_assign _ _).bind fun _ => ih

theorem runAssertSuccess_failsProperly : FailsProperly runAssertSuccess := by
  refine Script.failsWith_get.bind fun s => (Script.failsWith_modify _).bind fun _ => ?_
  refine (Action.failsProperly_lift (responseElements_failsSingly s.env)).bind fun elements => ?_
  cases elements with
  | nil => exact Action.failsProperly_throw nofun
  | cons first rest => exact .ite (Action.failsProperly_throw nofun) failsProperly_pass

variable {e : Evaluator} (h : e.FailsProperly) (raw : String)
include h

theorem runSet_failsProperly : FailsProperly (runSet e raw) := by
  have hassign (name : String) (v : Value) :
      FailsProperly (do Action.assign name v; return Value.pass) :=
    (Action.failsProperly_assign name v).bind fun _ => failsProperly_pass
  unfold runSet
  split
  · dsimp only
    -- the value is asked for as a text, as an integer or as a truth value
    split
    · exact (h.text _).bind fun _ => hassign _ _
    · split
      · exact (h.integer _).bind fun _ => hassign _ _
      · split
        · exact (h.truth _).bind fun _ => hassign _ _
        · exact Action.failsProperly_throw nofun
  · exact Action.failsProperly_throw nofun

theorem runCond_failsProperly : FailsProperly (runCond e raw) := by
  refine (Action.failsProperly_lift (exactlyTwo_failsSingly _ raw)).bind fun (condition, body) => ?_
  refine (h.truth condition).bind fun b => ?_
  exact ((h.line body).bind fun _ => failsProperly_pass).ite failsProperly_pass

theorem loopFrom_failsProperly (condition body : String) (limit : Nat) :
    FailsProperly (loopFrom e condition body limit) := by
  -- a loop ends with the first failure of its condition or its body
  induction limit with
  | zero => exact Action.failsProperly_cutOff
  | succ limit ih =>
    refine (h.truth condition).bind fun b => ?_
    exact ((h.line body).bind fun _ => ih).ite (Script.failsWith_pure _)

theorem runLoop_failsProperly (limit : Nat) : FailsProperly (runLoop e limit raw) := by
  refine (Action.failsProperly_lift (exactlyTwo_failsSingly _ raw)).bind fun (condition, body) => ?_
  exact (loopFrom_failsProperly h condition body limit).bind fun _ => failsProperly_pass

theorem runAssertEquals_failsProperly : FailsProperly (runAssertEquals e raw) := by
  refine (Action.failsProperly_lift (exactlyTwo_failsSingly _ raw)).bind fun (first, second) => ?_
  refine (h.text first).bind fun _ => (h.text second).bind fun _ => ?_
  exact failsProperly_pass.ite (Action.failsProperly_throw nofun)

theorem runAssertContains_failsProperly : FailsProperly (runAssertContains e raw) := by
  refine (Action.failsProperly_lift (exactlyTwo_failsSingly _ raw)).bind fun (first, second) => ?_
  refine (h.text first).bind fun _ => (h.text second).bind fun _ => ?_
  exact failsProperly_pass.ite (Action.failsProperly_throw nofun)

theorem runAssertLists_failsProperly : FailsProperly (runAssertLists e raw) := by
  refine (Action.failsProperly_lift (exactlyThree_failsSingly _ raw)).bind
    fun (first, second, third) => ?_
  refine (h.text first).bind fun a => (h.text second).bind fun b => ?_
  refine (h.truth third).bind fun ordered => ?_
  exact (Action.failsProperly_lift (compareLists_failsSingly ordered _ _)).bind
    fun _ => failsProperly_pass

theorem runAssertFailure_failsProperly : FailsProperly (runAssertFailure e raw) := by
  refine (Action.failsProperly_lift (exactlyOne_failsSingly _ raw)).bind fun argument => ?_
  refine (h.text argument).bind fun code => Script.failsWith_get.bind fun s => ?_
  refine (Action.failsProperly_lift (responseElements_failsSingly s.env)).bind fun elements => ?_
  cases elements with
  | nil => exact Action.failsProperly_throw nofun
  | cons first rest => exact failsProperly_pass.ite (Action.failsProperly_throw nofun)

theorem runPost_failsProperly (host : Host) : FailsProperly (runPost host e raw) := by
  refine (Action.failsProperly_lift (exactlyThree_failsSingly _ raw)).bind
    fun (urlText, bodyText, headerText) => ?_
  refine (h.text urlText).bind fun url => (h.text bodyText).bind fun body => ?_
  refine (Action.failsProperly_lift (jsonObject_failsSingly body)).bind fun _ => ?_
  refine (h.text headerText).bind fun fields => ?_
  exact (Action.failsProperly_lift (headersOf_failsSingly fields _ _ _)).bind
    fun _ => exchangeOne_failsProperly host _

theorem runGet_failsProperly (host : Host) : FailsProperly (runGet host e raw) := by
  refine (Action.failsProperly_lift (exactlyTwo_failsSingly _ raw)).bind
    fun (urlText, headerText) => ?_
  refine (h.text urlText).bind fun url => (h.text headerText).bind fun fields => ?_
  exact (Action.failsProperly_lift (headersOf_failsSingly fields _ _ _)).bind
    fun _ => exchangeOne_failsProperly host _

theorem runParallelPost_failsProperly (host : Host) :
    FailsProperly (runParallelPost host e raw) := by
  refine (Action.failsProperly_lift (exactlyFour_failsSingly _ raw)).bind
    fun (fileText, headerText, bodyText, urlText) => ?_
  refine (h.text fileText).bind fun _ => (h.text headerText).bind fun fields => ?_
  refine (Action.failsProperly_lift (headerSetsOf_failsSingly fields)).bind fun headerSets => ?_
  refine (h.text bodyText).bind fun bodies => ?_
  refine (Action.failsProperly_lift (.mapM jsonObject_failsSingly _)).bind fun objects => ?_
  refine (h.text urlText).bind fun urls => ?_
  refine (Action.failsProperly_lift (parallelTasks_failsSingly headerSets objects _)).bind
    fun tasks => ?_
  exact (sendTasks_failsProperly host tasks).bind fun _ => failsProperly_pass

theorem evalTexts_failsProperly (sources : List String) : FailsProperly (evalTexts e sources) := by
  induction sources with
  | nil => exact Script.failsWith_pure _
  | cons source rest ih =>
    exact (h.text source).bind fun _ => ih.bind fun _ => Script.failsWith_pure _

theorem runPrint_failsProperly : FailsProperly (runPrint e raw) := by
  refine (evalTexts_failsProperly h _).bind fun texts => ?_
  cases texts with
  | nil => exact failsProperly_pass
  | cons format arguments => exact (Script.failsWith_modify _).bind fun _ => failsProperly_pass

theorem runReadFile_failsProperly (host : Host) : FailsProperly (runReadFile host e raw) := by
  refine (Action.failsProperly_lift (exactlyTwo_failsSingly _ raw)).bind fun (first, second) => ?_
  refine (h.text first).bind fun name => (h.text second).bind fun path => ?_
  cases host.scripts.read path with
  | ok data => exact (Action.failsProperly_assign _ _).bind fun _ => Script.failsWith_pure _
  | error error => exact Action.failsProperly_throw nofun

theorem runResponse_failsProperly : FailsProperly (runResponse e raw) := by
  refine (Action.failsProperly_lift (exactlyOne_failsSingly _ raw)).bind fun argument => ?_
  refine (h.text argument).bind fun field => Script.failsWith_get.bind fun s => ?_
  dsimp only
  cases Json.member? (responseMembers s.env) field with
  | some member => exact Script.failsWith_pure _
  | none =>
    cases s.env.get? field with
    | some value => exact Script.failsWith_pure _
    | none => exact Action.failsProperly_throw nofun

theorem runSleep_failsProperly : FailsProperly (runSleep e raw) := by
  refine (Action.failsProperly_lift (exactlyOne_failsSingly _ raw)).bind fun argument => ?_
  exact (h.integer argument).bind fun _ => failsProperly_pass

theorem runFail_failsProperly : FailsProperly (runFail e raw) := by
  -- an argument without a value does not fail the call by itself
  apply (h.text raw).attempt_bind
  · exact fun message => Action.failsProperly_throw nofun
  · exact fun error _ => Action.failsProperly_throw nofun

theorem runEvaluate_failsProperly : FailsProperly (runEvaluate e raw) := by
  apply (h.text _).attempt_bind
  · exact fun path => (h.run path).bind fun _ => Script.failsWith_pure _
  · exact fun error _ => Script.failsWith_pure _

/-- Built-ins fail with proper errors if their arguments do. -/
theorem Builtin.run_failsProperly (host : Host) (limit : Nat) (b : Builtin) :
    FailsProperly (b.run host e limit raw) := by
  cases b with
  | set => exact runSet_failsProperly h raw
  | cond => exact runCond_failsProperly h raw
  | loop => exact runLoop_failsProperly h raw limit
  | assertEquals => exact runAssertEquals_failsProperly h raw
  | assertContains => exact runAssertContains_failsProperly h raw
  | assertLists => exact runAssertLists_failsProperly h raw
  | assertSuccess => exact runAssertSuccess_failsProperly
  | assertFailure => exact runAssertFailure_failsProperly h raw
  | post => exact runPost_failsProperly h raw host
  | get => exact runGet_failsProperly h raw host
  | parallelPost => exact runParallelPost_failsProperly h raw host
  | print => exact runPrint_failsProperly h raw
  | readFile => exact runReadFile_failsProperly h raw host
  | response => exact runResponse_failsProperly h raw
  | sleep => exact runSleep_failsProperly h raw
  | fail => exact runFail_failsProperly h raw
  | pass => exact failsProperly_pass
  | evaluate => exact runEvaluate_failsProperly h raw
  | truth => exact (h.truth raw).bind fun _ => Script.failsWith_pure _

end Builtins

/-! ### Lines and targets -/

section Lines

variable {e : Evaluator} (h : e.FailsProperly) (host : Host) (limit : Nat)
include h

theorem dispatch_failsProperly (name raw : String) :
    FailsProperly (dispatch host e limit name raw) := by
  unfold dispatch
  split
  · exact Builtin.run_failsProperly h raw host limit _
  · exact Action.failsProperly_throw nofun

theorem callFunction_failsProperly (name : String) (values : List Value) :
    FailsProperly (callFunction host e limit name values) := by
  intro s error t herror
  rw [callFunction_apply] at herror
  exact dispatch_failsProperly h host limit name _ _ error t herror

theorem sessionContext_failsWith :
    (sessionContext host e limit).FailsWith ScriptError.IsProper where
  single _ := .single
  lookup := Action.failsProperly_lookup
  call := callFunction_failsProperly h host limit

theorem evalSpan_failsProperly (span : String) :
    FailsProperly (evalSpan host e limit span) := by
  unfold evalSpan
  refine .ite ?_ (Expr.evalText_failsWith (sessionContext_failsWith h host limit) span)
  refine (Action.failsProperly_lift (Call.parse_failsSingly span)).bind fun call => ?_
  refine (Action.failsProperly_assign _ _).bind fun _ => ?_
  exact dispatch_failsProperly h host limit call.name call.raw

/-- Spans fail with proper errors, of which one is made after the last span, if those so far were
proper. -/
theorem evalSpans_failsProperly {errors : List ScriptError}
    (herrors : ∀ error ∈ errors, error.IsProper) (last : Value) (spans : List String) :
    FailsProperly (evalSpans host e limit errors last spans) := by
  induction spans generalizing errors last with
  | nil =>
    unfold evalSpans
    split
    · exact Script.failsWith_pure _
    next error hmade =>
      refine Script.failsWith_throw (ScriptError.IsProper.of_ofList? ?_ hmade)
      exact fun error hmem => herrors error (List.mem_reverse.mp hmem)
  | cons span rest ih =>
    -- what is collected from this span is proper, and a failure that is a value is a single one
    have hcollect {error : ScriptError} (herror : error.IsProper) :
        FailsProperly (evalSpans host e limit (error :: errors) last rest) :=
      ih (List.forall_mem_cons.mpr ⟨herror, herrors⟩) last
    unfold evalSpans
    apply (evalSpan_failsProperly h host limit span).attempt_bind
    · intro v
      cases v with
      | report tree => exact Script.failsWith_pure _
      | error message => exact hcollect (.single nofun)
      | pass => exact ih herrors _
      | _ => exact (Action.failsProperly_assign _ _).bind fun _ => ih herrors _
    · intro error herror
      exact hcollect herror

theorem evalLine_failsProperly (line : String) :
    FailsProperly (evalLine host e limit line) :=
  evalSpans_failsProperly h host limit (by simp) .pass _

end Lines

/-- Evaluation fails with proper errors only. -/
theorem evaluator_failsProperly (host : Host) (limit : Nat) :
    (evaluator host limit).FailsProperly := by
  -- what is nested in a line is evaluated within the limit before
  induction limit with
  | zero => exact ⟨fun _ => Action.failsProperly_cutOff, fun _ => Action.failsProperly_cutOff⟩
  | succ limit ih =>
    refine ⟨fun line => ?_, fun path => ?_⟩
    · rw [evaluator_succ_line]
      exact evalLine_failsProperly ih host limit line
    · exact ((evaluator_grows host (limit + 1)).run_succeeds path).failsProperly

namespace Session

variable {host : Host} {s t : Session} {step : Step} {error : ScriptError}

theorem Step.perform_failsProperly {e : Evaluator} (h : e.FailsProperly) (host : Host) (limit : Nat)
    (step : Step) : FailsProperly (step.perform host e limit) := by
  cases step with
  | eval line => exact h.line line
  | text line => exact (h.text line).bind fun _ => Script.failsWith_pure _
  | integer line => exact (h.integer line).bind fun _ => Script.failsWith_pure _
  | truth line => exact (h.truth line).bind fun _ => Script.failsWith_pure _
  | dispatch name raw => exact dispatch_failsProperly h host limit name raw
  | call name values => exact callFunction_failsProperly h host limit name values
  | run path => exact (h.run path).bind fun _ => Script.failsWith_pure _

/-- Whatever a session is asked for, the error that it gives is proper. -/
theorem Performs.isProper (h : Performs host step s (.error error) t) : error.IsProper := by
  obtain ⟨limit, hlimit⟩ := h
  exact step.perform_failsProperly (evaluator_failsProperly host limit) host limit s error t hlimit

/-- Whatever a session is asked for, no collection in the error that it gives, at any depth, has
less than two entries, and the error is worded as the single errors in it, one after the other with
commas between them. -/
theorem Performs.error_reads_flat (h : Performs host step s (.error error) t) :
    (∀ errors, Relation.ReflTransGen ScriptError.HasPart error (.cascade errors) →
      2 ≤ errors.length) ∧
    (∀ leaf, leaf ∈ error.leaves ↔ Relation.ReflTransGen ScriptError.HasPart error leaf ∧
      ∀ errors, leaf ≠ .cascade errors) ∧
    error.message = Text.joinWith ", " (error.leaves.map ScriptError.message) := by
  have hproper := h.isProper
  refine ⟨?_, fun leaf => hproper.mem_leaves_iff, hproper.message_eq_joinWith⟩
  intro errors hparts
  exact (hproper.of_reflTransGen hparts).two_le_length

/-- What a line fails with that has a failure and then two more in the body of a condition. -/
def nestedFailure : ScriptError := .cascade [.fail "a", .cascade [.fail "b", .fail "c"]]

/-- Whether an outcome is this failure. -/
def Outcome.isNestedFailure : Outcome → Bool
  | .error (.cascade [.fail a, .cascade [.fail b, .fail c]]) => a == "a" && b == "b" && c == "c"
  | _ => false

theorem Outcome.eq_of_isNestedFailure {outcome : Outcome} (h : outcome.isNestedFailure = true) :
    outcome = .error nestedFailure := by
  unfold isNestedFailure at h
  split at h
  · simp only [Bool.and_eq_true, beq_iff_eq] at h
    obtain ⟨⟨rfl, rfl⟩, rfl⟩ := h
    rfl
  · cases h

/-- A failure and a condition with two failures in its body read as three failures. -/
theorem error_reads_flat_nested :
    ∃ t, Performs (.ofFiles []) (.eval "[Fail(\"a\")][If(true,[Fail(\"b\")][Fail(\"c\")])]") {}
        (.error nestedFailure) t ∧
      (∀ errors, Relation.ReflTransGen ScriptError.HasPart nestedFailure (.cascade errors) →
        2 ≤ errors.length) ∧
      nestedFailure.message = Text.joinWith ", " ["a", "b", "c"] := by
  have htest : ((eval (.ofFiles []) 4 "[Fail(\"a\")][If(true,[Fail(\"b\")][Fail(\"c\")])]" {}).any
      fun result => Outcome.isNestedFailure result.1) = true := by
    decide +kernel
  obtain ⟨_, t, hline, houtcome⟩ := evaluates_of_any htest
  obtain rfl := Outcome.eq_of_isNestedFailure houtcome
  obtain ⟨hlength, -, hmessage⟩ := Performs.error_reads_flat (performs_eval_iff.mpr hline)
  exact ⟨t, hline, hlength, hmessage⟩

end Session

end BracketScript
