import BracketScript.Proofs.Growth

/-!
# Single failures

Nearly all errors are single ones: an argument is wrong, a request has no response, an assertion
does not hold. Errors are collected in one place only, at the end of a line. So what reads arguments
and what computes with values fails with single errors, and an expression fails with single errors
or with those of the functions that it calls.

## Main definitions

* `ScriptError.IsSingle`: an error that is no collection
* `FailsSingly`: a result that is a single error, if it is one
* `Script.FailsWith`: all errors of a computation have a property
* `Context.FailsWith`: so have those that expressions get from their context

## Main results

* `UnaryOp.apply_failsSingly`, `BinaryOp.apply_failsSingly`: operators fail with single errors
* `Script.FailsWith.bind`: computations one after the other fail as each of them does
* `Expr.evalText_failsWith`: expressions fail with single errors and as the calls in them do
-/

namespace BracketScript

/-- The error is no collection of errors. -/
def ScriptError.IsSingle (error : ScriptError) : Prop := ∀ errors, error ≠ .cascade errors

/-! ### Results that are single errors -/

/-- If the result is an error, then a single one. -/
def FailsSingly {α : Type} (result : Except ScriptError α) : Prop :=
  ∀ error, result = .error error → error.IsSingle

namespace FailsSingly

variable {α β ε : Type} {result : Except ScriptError α} {f : α → Except ScriptError β}

theorem ok (a : α) : FailsSingly (.ok a) := nofun

theorem error {error : ScriptError} (h : error.IsSingle) :
    FailsSingly (.error error : Except ScriptError α) := by
  intro other heq
  exact Except.error.inj heq ▸ h

theorem bind (h : FailsSingly result) (hf : ∀ a, FailsSingly (f a)) :
    FailsSingly (result >>= f) := by
  cases result with
  | ok a => exact hf a
  | error error => exact .error (h error rfl)

theorem map (h : FailsSingly result) (g : α → β) : FailsSingly (result.map g) := by
  cases result with
  | ok a => exact .ok _
  | error error => exact .error (h error rfl)

theorem mapError {x : Except ε α} {g : ε → ScriptError} (h : ∀ fault, (g fault).IsSingle) :
    FailsSingly (x.mapError g) := by
  cases x with
  | ok a => exact .ok a
  | error fault => exact .error (h fault)

theorem ite {p : Prop} [Decidable p] {other : Except ScriptError α} (h : FailsSingly result)
    (h' : FailsSingly other) : FailsSingly (if p then result else other) := by
  split
  · exact h
  · exact h'

theorem mapM (h : ∀ a, FailsSingly (f a)) (items : List α) : FailsSingly (items.mapM f) := by
  induction items with
  | nil => exact .ok []
  | cons item rest ih =>
    rw [List.mapM_cons]
    exact (h item).bind fun _ => ih.bind fun _ => .ok _

theorem foldlM {f : β → α → Except ScriptError β} (h : ∀ b a, FailsSingly (f b a)) (b : β)
    (items : List α) : FailsSingly (items.foldlM f b) := by
  induction items generalizing b with
  | nil => exact .ok b
  | cons item rest ih =>
    rw [List.foldlM_cons]
    exact (h b item).bind fun b => ih b

end FailsSingly

/-! ### Reading arguments -/

section Arguments

variable (name raw : String)

theorem exactlyOne_failsSingly : FailsSingly (exactlyOne name raw) := by
  unfold exactlyOne
  split
  · exact .ok _
  · exact .error nofun

theorem exactlyTwo_failsSingly : FailsSingly (exactlyTwo name raw) := by
  unfold exactlyTwo
  split
  · exact .ok _
  · exact .error nofun

theorem exactlyThree_failsSingly : FailsSingly (exactlyThree name raw) := by
  unfold exactlyThree
  split
  · exact .ok _
  · exact .error nofun

theorem exactlyFour_failsSingly : FailsSingly (exactlyFour name raw) := by
  unfold exactlyFour
  split
  · exact .ok _
  · exact .error nofun

theorem Call.parse_failsSingly : FailsSingly (Call.parse raw) := by
  unfold Call.parse
  split
  · exact .ok _
  · exact .error nofun

theorem jsonObject_failsSingly : FailsSingly (jsonObject raw) := by
  unfold jsonObject
  split
  · exact .ok _
  · exact .error nofun
  · exact .error nofun

theorem headersOf_failsSingly (separator pair format : String) :
    FailsSingly (headersOf separator pair format raw) := by
  refine .foldlM (fun headers entry => ?_) _ _
  split
  · exact .ok _
  · exact .error nofun

theorem headerSetsOf_failsSingly : FailsSingly (headerSetsOf raw) :=
  .ite (.ok _) (.mapM (fun _ => headersOf_failsSingly _ _ _ _) _)

theorem responseElements_failsSingly (env : Environment) : FailsSingly (responseElements env) := by
  unfold responseElements
  split
  · exact .error nofun
  · dsimp only
    refine .ite (.ok _) ?_
    split
    · exact .ok _
    · exact .ok _

theorem compareLists_failsSingly (ordered : Bool) (a b : List String) :
    FailsSingly (compareLists ordered a b) := by
  unfold compareLists
  refine .ite (.error nofun) (.ite ?_ ?_)
  · split
    · exact .error nofun
    · exact .ok _
  · split
    · exact .error nofun
    · split
      · exact .error nofun
      · exact .ok _

theorem parallelTasks_failsSingly (headerSets : List Headers) (bodies : List Json)
    (urls : List String) : FailsSingly (parallelTasks headerSets bodies urls) :=
  .ite (.error nofun) (.ite (.error nofun) (.ok _))

end Arguments

/-! ### Values and operators -/

namespace Value

variable (v : Value)

theorem asText_failsSingly : FailsSingly v.asText := by
  unfold asText
  split
  any_goals exact .ok _
  exact .error nofun

theorem asInteger_failsSingly : FailsSingly v.asInteger := by
  unfold asInteger
  split
  · exact .ok _
  · exact .error nofun

theorem asTruth_failsSingly : FailsSingly v.asTruth := by
  unfold asTruth
  split
  · exact .ok _
  · exact .error nofun

theorem truth_failsSingly : FailsSingly v.truth := by
  unfold truth
  split
  · exact .ok _
  · exact .error nofun

end Value

theorem Expr.parse_failsSingly (source : String) : FailsSingly (Expr.parse source) :=
  .mapError fun _ => nofun

theorem ofArithmetic_failsSingly (result : Except Value.Fault Value) :
    FailsSingly (ofArithmetic result) :=
  .mapError fun _ => nofun

theorem UnaryOp.apply_failsSingly (op : UnaryOp) (v : Value) : FailsSingly (op.apply v) := by
  cases op with
  | neg => exact ofArithmetic_failsSingly _
  | not => exact v.truth_failsSingly.map _

theorem BinaryOp.apply_failsSingly (op : BinaryOp) (a b : Value) : FailsSingly (op.apply a b) := by
  have hmatch : FailsSingly (a.matchesPattern b) := .mapError fun _ => nofun
  cases op with
  | add | sub | mul | div | rem => exact ofArithmetic_failsSingly _
  | and =>
    refine FailsSingly.bind ?_ fun _ => .ok _
    exact a.truth_failsSingly.bind fun _ => b.truth_failsSingly.ite (.ok _)
  | or =>
    refine FailsSingly.bind ?_ fun _ => .ok _
    exact a.truth_failsSingly.bind fun _ => .ite (.ok _) b.truth_failsSingly
  | matching | notMatching => exact hmatch.map _
  | _ => exact .ok _

/-! ### Computations that fail -/

namespace Script

variable {σ α β : Type} {E : ScriptError → Prop} {x y : Script σ α} {f : α → Script σ β}

/-- If the computation comes to an error, then the error has `E`. -/
def FailsWith (E : ScriptError → Prop) (x : Script σ α) : Prop :=
  ∀ s error t, x s = some (.error error, t) → E error

theorem failsWith_of_apply {result : σ → Except ScriptError α} {next : σ → σ}
    (hx : ∀ s, x s = some (result s, next s)) (h : ∀ s error, result s = .error error → E error) :
    FailsWith E x := by
  intro s error t herror
  rw [hx] at herror
  exact h s error (Prod.mk.inj (Option.some.inj herror)).1

theorem failsWith_pure (a : α) : FailsWith E (pure a : Script σ α) :=
  failsWith_of_apply (fun s => pure_apply a s) nofun

theorem failsWith_throw {error : ScriptError} (h : E error) :
    FailsWith E (throw error : Script σ α) :=
  failsWith_of_apply (fun s => throw_apply error s) fun _ _ heq => Except.error.inj heq ▸ h

theorem failsWith_get : FailsWith E (get : Script σ σ) := failsWith_of_apply get_apply nofun

theorem failsWith_modify (change : σ → σ) : FailsWith E (modify change : Script σ Unit) :=
  failsWith_of_apply (modify_apply change) nofun

theorem failsWith_liftExcept (hE : ∀ error : ScriptError, error.IsSingle → E error)
    {result : Except ScriptError α} (h : FailsSingly result) :
    FailsWith E (liftExcept result : Script σ α) :=
  failsWith_of_apply (liftExcept_apply result) fun _ error herror => hE error (h error herror)

theorem FailsWith.bind (hx : FailsWith E x) (hf : ∀ a, FailsWith E (f a)) :
    FailsWith E (x >>= f) := by
  intro s error t h
  rcases bind_eq_error_iff.mp h with h | ⟨a, u, -, h⟩
  · exact hx s error t h
  · exact hf a u error t h

theorem FailsWith.ite {p : Prop} [Decidable p] (hx : FailsWith E x) (hy : FailsWith E y) :
    FailsWith E (if p then x else y) := by
  split
  · exact hx
  · exact hy

end Script

/-! ### Expressions -/

/-- Looking up variables and calling functions fails with `E` only, and single errors have `E`. -/
structure Context.FailsWith {σ : Type} (E : ScriptError → Prop) (ctx : Context σ) : Prop where
  single : ∀ error : ScriptError, error.IsSingle → E error
  lookup : ∀ name, Script.FailsWith E (ctx.lookup name)
  call : ∀ name values, Script.FailsWith E (ctx.call name values)

namespace Expr

variable {σ : Type} {E : ScriptError → Prop} {ctx : Context σ}

mutual

/-- Evaluating an expression fails with `E` only if its context does. -/
theorem eval_failsWith (h : ctx.FailsWith E) : ∀ e : Expr, Script.FailsWith E (eval ctx e)
  | .int n => by
    rw [eval]
    exact Script.failsWith_pure _
  | .str s => by
    rw [eval]
    exact Script.failsWith_pure _
  | .bool b => by
    rw [eval]
    exact Script.failsWith_pure _
  | .var name => by
    rw [eval]
    refine (h.lookup name).bind fun found => ?_
    cases found with
    | none => exact Script.failsWith_throw (h.single _ nofun)
    | some v => exact Script.failsWith_pure v
  | .unary op e => by
    rw [eval]
    exact (eval_failsWith h e).bind fun v =>
      Script.failsWith_liftExcept h.single (op.apply_failsSingly v)
  | .binary op l r => by
    have hl := eval_failsWith h l
    have hr := eval_failsWith h r
    have htruth (v : Value) : Script.FailsWith E (liftExcept v.truth : Script σ Bool) :=
      Script.failsWith_liftExcept h.single v.truth_failsSingly
    -- the right operand as a truth value, for the operators that may not need it
    have hright : Script.FailsWith E (do return Value.bool (← liftExcept (← eval ctx r).truth)) :=
      hr.bind fun v => (htruth v).bind fun _ => Script.failsWith_pure _
    cases op with
    | and =>
      simp only [eval]
      exact hl.bind fun v => (htruth v).bind fun _ => hright.ite (Script.failsWith_pure _)
    | or =>
      simp only [eval]
      exact hl.bind fun v => (htruth v).bind fun _ => .ite (Script.failsWith_pure _) hright
    | _ =>
      simp only [eval]
      exact hl.bind fun a => hr.bind fun b =>
        Script.failsWith_liftExcept h.single (BinaryOp.apply_failsSingly _ a b)
  | .call name arguments => by
    rw [eval]
    exact (evalAll_failsWith h arguments).bind fun values => h.call name values

/-- Evaluating several expressions fails with `E` only, too. -/
theorem evalAll_failsWith (h : ctx.FailsWith E) :
    ∀ es : List Expr, Script.FailsWith E (evalAll ctx es)
  | [] => by
    rw [evalAll]
    exact Script.failsWith_pure _
  | e :: es => by
    rw [evalAll]
    exact (eval_failsWith h e).bind fun _ => (evalAll_failsWith h es).bind fun _ =>
      Script.failsWith_pure _

end

theorem evalText_failsWith (h : ctx.FailsWith E) (source : String) :
    Script.FailsWith E (evalText ctx source) :=
  (Script.failsWith_liftExcept h.single (parse_failsSingly source)).bind fun e =>
    eval_failsWith h e

end Expr

end BracketScript
