import BracketScript.Proofs.Script
import Mathlib.Data.List.Forall2

/-!
# Expressions that only read

An expression without calls changes nothing, and its value depends on the variables that it reads
and on nothing else: not on what answers requests, nor on how deep evaluation may nest. So it has
the same value, or the same error, in all sessions in which these variables have the same values.

## Main definitions

* `Script.Yields`: a computation that has a given result and changes nothing
* `Environment.AgreesOn`: two environments with the same values for certain names
* `Expr.ReadsOnly`: the expression has no call and reads certain variables only

## Main results

* `Expr.exists_yields_eval`: an expression without calls depends on its variables only
* `Expr.ReadsOnly.yields`: it has the same value wherever its variables have the same values
-/

namespace BracketScript

/-! ### Computations that change nothing -/

namespace Script

variable {σ α β : Type} {I : σ → Prop} {x : Script σ α} {f : α → Script σ β}
  {r : Except ScriptError α}

/-- From states with `I`, the computation has the result `r` and leaves the state as it is. -/
def Yields (I : σ → Prop) (x : Script σ α) (r : Except ScriptError α) : Prop :=
  ∀ s, I s → x s = some (r, s)

theorem yields_pure (a : α) : Yields I (pure a) (.ok a) := fun _ _ => rfl

theorem yields_liftExcept (r : Except ScriptError α) : Yields I (liftExcept r) r :=
  fun s _ => liftExcept_apply r s

theorem Yields.bind {g : α → Except ScriptError β} (h : Yields I x r)
    (hf : ∀ a, Yields I (f a) (g a)) : Yields I (x >>= f) (r.bind g) := by
  intro s hs
  cases r with
  | ok a =>
    rw [bind_of_ok (h s hs)]
    exact hf a s hs
  | error error => exact bind_of_error (h s hs)

theorem Yields.ite {p : Prop} [Decidable p] {y : Script σ α} {r' : Except ScriptError α}
    (h : Yields I x r) (h' : Yields I y r') :
    Yields I (if p then x else y) (if p then r else r') := by
  split
  · exact h
  · exact h'

end Script

/-- The two environments have the same values for all names with `P`. -/
def Environment.AgreesOn (P : String → Prop) (env other : Environment) : Prop :=
  ∀ name, P name → env.get? name = other.get? name

theorem Environment.AgreesOn.set {P : String → Prop} {env other : Environment}
    (h : env.AgreesOn P other) {name : String} (hname : ¬ P name) (v : Value) :
    env.AgreesOn P (other.set name v) := by
  intro read hread
  have hne : read ≠ name := fun heq => hname (heq ▸ hread)
  rw [get?_set_of_ne _ v hne, h read hread]

/-! ### Expressions without calls -/

namespace Expr

/-- The operators that need both of their operands. -/
theorem eval_binary {σ : Type} {ctx : Context σ} {l r : Expr} {a b : Value} {op : BinaryOp} {s : σ}
    (hand : op ≠ .and) (hor : op ≠ .or) (hl : eval ctx l s = some (.ok a, s))
    (hr : eval ctx r s = some (.ok b, s)) :
    eval ctx (.binary op l r) s = some (op.apply a b, s) := by
  have heval : eval ctx (.binary op l r) =
      (eval ctx l >>= fun a => eval ctx r >>= fun b => liftExcept (op.apply a b)) := by
    cases op with
    | and => exact absurd rfl hand
    | or => exact absurd rfl hor
    | _ => simp only [eval]
  rw [heval, Script.bind_of_ok hl, Script.bind_of_ok hr]
  exact Script.liftExcept_apply _ s

theorem eval_var {ctx : Context Session} (hctx : ctx.lookup = Action.lookup) {name : String}
    {v : Value} {s : Session} (h : s.env.get? name = some v) :
    eval ctx (.var name) s = some (.ok v, s) := by
  have hlookup : ctx.lookup name s = some (.ok (some v), s) := by
    rw [hctx, ← h]
    rfl
  rw [eval, Script.bind_of_ok hlookup]
  rfl

/-- A variable has its value wherever it keeps it. -/
theorem yields_var {ctx : Context Session} (hctx : ctx.lookup = Action.lookup) {name : String}
    {v : Value} {env : Environment} (h : env.get? name = some v) :
    Script.Yields (fun s => env.AgreesOn (· = name) s.env) (eval ctx (.var name)) (.ok v) :=
  fun _ hs => eval_var hctx ((hs name rfl).symm.trans h)

/-- The expression has no call, and reads variables with `P` only. -/
def ReadsOnly (P : String → Prop) : Expr → Prop
  | int _ | str _ | bool _ => True
  | var name => P name
  | unary _ e => ReadsOnly P e
  | binary _ l r => ReadsOnly P l ∧ ReadsOnly P r
  | call _ _ => False

/-- An expression without calls depends on the variables that it reads and on nothing else. -/
theorem exists_yields_eval {P : String → Prop} (env : Environment) : ∀ e : Expr, e.ReadsOnly P →
    ∃ r, ∀ ctx : Context Session, ctx.lookup = Action.lookup →
      Script.Yields (fun s => env.AgreesOn P s.env) (eval ctx e) r
  | .int n, _ => ⟨.ok (.int n), fun ctx _ => by
      rw [eval]
      exact Script.yields_pure _⟩
  | .str s, _ => ⟨.ok (.str s), fun ctx _ => by
      rw [eval]
      exact Script.yields_pure _⟩
  | .bool b, _ => ⟨.ok (.bool b), fun ctx _ => by
      rw [eval]
      exact Script.yields_pure _⟩
  | .var name, hname => by
    refine ⟨(env.get? name).elim (.error (.undefinedVariable name)) .ok, fun ctx hctx s hs => ?_⟩
    have hlookup : ctx.lookup name s = some (.ok (env.get? name), s) := by
      rw [hctx, hs name hname]
      rfl
    rw [eval, Script.bind_of_ok hlookup]
    cases env.get? name <;> rfl
  | .unary op e, he => by
    obtain ⟨r, hr⟩ := exists_yields_eval env e he
    refine ⟨r.bind op.apply, fun ctx hctx => ?_⟩
    rw [eval]
    exact (hr ctx hctx).bind fun v => Script.yields_liftExcept _
  | .binary op l r, ⟨hl, hr⟩ => by
    obtain ⟨left, hleft⟩ := exists_yields_eval env l hl
    obtain ⟨right, hright⟩ := exists_yields_eval env r hr
    -- the right operand as a truth value, for the operators that may not need it
    have htruth (ctx : Context Session) (hctx : ctx.lookup = Action.lookup) :
        Script.Yields (fun s => env.AgreesOn P s.env)
          (do return Value.bool (← liftExcept (← eval ctx r).truth))
          (right.bind fun v => v.truth.bind fun b => .ok (Value.bool b)) :=
      (hright ctx hctx).bind fun _ =>
        (Script.yields_liftExcept _).bind fun _ => Script.yields_pure _
    cases op with
    | and =>
      refine ⟨left.bind fun v => v.truth.bind fun b =>
        if b then right.bind fun v => v.truth.bind fun b => .ok (.bool b) else .ok (.bool false),
        fun ctx hctx => ?_⟩
      simp only [eval]
      refine (hleft ctx hctx).bind fun v => (Script.yields_liftExcept _).bind fun b => ?_
      exact (htruth ctx hctx).ite (Script.yields_pure _)
    | or =>
      refine ⟨left.bind fun v => v.truth.bind fun b =>
        if b then .ok (.bool true) else right.bind fun v => v.truth.bind fun b => .ok (.bool b),
        fun ctx hctx => ?_⟩
      simp only [eval]
      refine (hleft ctx hctx).bind fun v => (Script.yields_liftExcept _).bind fun b => ?_
      exact (Script.yields_pure _).ite (htruth ctx hctx)
    | _ =>
      exact ⟨_, fun ctx hctx => by
        simp only [eval]
        exact (hleft ctx hctx).bind fun a => (hright ctx hctx).bind fun b =>
          Script.yields_liftExcept _⟩
  | .call _ _, h => h.elim

/-- So it has the same value wherever these variables have the same values. -/
theorem ReadsOnly.yields {P : String → Prop} {e : Expr} (h : e.ReadsOnly P) {ctx : Context Session}
    (hctx : ctx.lookup = Action.lookup) {s t : Session} {v : Value}
    (heval : eval ctx e s = some (.ok v, t)) {ctx' : Context Session}
    (hctx' : ctx'.lookup = Action.lookup) :
    Script.Yields (fun u => s.env.AgreesOn P u.env) (eval ctx' e) (.ok v) := by
  obtain ⟨r, hr⟩ := exists_yields_eval s.env e h
  have hresult := (hr ctx hctx s fun _ _ => rfl).symm.trans heval
  obtain ⟨rfl, -⟩ := Prod.mk.inj (Option.some.inj hresult)
  exact hr ctx' hctx'

theorem yields_evalAll {I : Session → Prop} {ctx : Context Session} {es : List Expr}
    {values : List Value}
    (h : List.Forall₂ (fun e v => Script.Yields I (eval ctx e) (.ok v)) es values) :
    Script.Yields I (evalAll ctx es) (.ok values) := by
  induction h with
  | nil =>
    rw [evalAll]
    exact Script.yields_pure _
  | @cons e v es values he _ ih =>
    intro s hs
    rw [evalAll, Script.bind_of_ok (he s hs), Script.bind_of_ok (ih s hs)]
    rfl

end Expr

end BracketScript
