import BracketScript.Proofs.Except
import BracketScript.Session.Basic

/-!
# Computations that may be cut off

A computation on states gives a value or an error together with the state it leaves, or it is cut
off. This module says how computations run one after the other, and compares computations by what
they give: `x` is below `y` if `y` gives what `x` gives wherever `x` is not cut off. Often that
holds only from states with a property `I`, which is kept as well, and the values have a property
`Q`. Expressions keep what their context keeps.

## Main definitions

* `Script.Below`: the order of computations by where they are cut off
* `Script.Keeps`: the same order from states with a property, which is kept
* `Context.Keeps`: the same for contexts of expressions

## Main results

* `Script.bind_apply`: how computations run one after the other
* `Script.Keeps.bind`: what is kept one after the other is kept
* `UnaryOp.isScalar_of_apply`, `BinaryOp.isScalar_of_apply`: operators give scalars
* `Expr.evalText_keeps`: evaluating an expression keeps what its context keeps
-/

namespace BracketScript

namespace Script

variable {σ α β : Type} {x y : Script σ α} {f g : α → Script σ β} {s t : σ}

@[simp] theorem pure_apply (a : α) (s : σ) : (pure a : Script σ α) s = some (.ok a, s) := rfl

@[simp] theorem throw_apply (error : ScriptError) (s : σ) :
    (throw error : Script σ α) s = some (.error error, s) := rfl

@[simp] theorem liftExcept_apply (result : Except ScriptError α) (s : σ) :
    (liftExcept result : Script σ α) s = some (result, s) := by
  cases result <;> rfl

@[simp] theorem get_apply (s : σ) : (get : Script σ σ) s = some (.ok s, s) := rfl

@[simp] theorem modify_apply (change : σ → σ) (s : σ) :
    (modify change : Script σ Unit) s = some (.ok (), change s) := rfl

/-- The second computation runs on the value of the first, in the state that was left; it does not
run after an error. -/
theorem bind_apply (x : Script σ α) (f : α → Script σ β) (s : σ) :
    (x >>= f) s = (x s).bind fun result =>
      match result.1 with
      | .ok a => f a result.2
      | .error error => some (.error error, result.2) := by
  change (x s).bind _ = _
  congr 1
  funext ⟨r, t⟩
  cases r <;> rfl

theorem bind_of_ok {a : α} (h : x s = some (.ok a, t)) : (x >>= f) s = f a t := by
  rw [bind_apply, h]
  rfl

theorem bind_of_error {error : ScriptError} (h : x s = some (.error error, t)) :
    (x >>= f) s = some (.error error, t) := by
  rw [bind_apply, h]
  rfl

theorem bind_of_none (h : x s = none) : (x >>= f) s = none := by
  rw [bind_apply, h]
  rfl

@[simp] theorem get_bind_apply {f : σ → Script σ β} (s : σ) : (get >>= f) s = f s s :=
  bind_of_ok (get_apply s)

@[simp] theorem modify_bind_apply {f : Unit → Script σ β} (change : σ → σ) (s : σ) :
    (modify change >>= f) s = f () (change s) :=
  bind_of_ok (modify_apply change s)

/-- Two computations one after the other give what the second one gives after a value of the first,
or the error of the first. -/
theorem bind_eq_some_iff {outcome : Except ScriptError β × σ} :
    (x >>= f) s = some outcome ↔
      (∃ a t, x s = some (.ok a, t) ∧ f a t = some outcome) ∨
        ∃ error t, x s = some (.error error, t) ∧ outcome = (.error error, t) := by
  cases hx : x s with
  | none => simp [bind_of_none hx]
  | some result =>
    obtain ⟨r, t⟩ := result
    cases r with
    | ok a => simp [bind_of_ok hx, and_assoc]
    | error error => simp [bind_of_error hx, and_assoc, eq_comm]

/-- Two computations one after the other have a value if both have, and then it is that of the
second. -/
theorem bind_eq_ok_iff {b : β} : (x >>= f) s = some (.ok b, t) ↔
    ∃ a u, x s = some (.ok a, u) ∧ f a u = some (.ok b, t) := by
  simp [bind_eq_some_iff]

/-- Two computations one after the other have an error if one of them has. -/
theorem bind_eq_error_iff {error : ScriptError} : (x >>= f) s = some (.error error, t) ↔
    x s = some (.error error, t) ∨
      ∃ a u, x s = some (.ok a, u) ∧ f a u = some (.error error, t) := by
  rw [bind_eq_some_iff, or_comm]
  refine or_congr ?_ Iff.rfl
  constructor
  · rintro ⟨error', t', hx, hout⟩
    obtain ⟨herror, rfl⟩ := Prod.mk.inj hout
    rw [hx, Except.error.inj herror]
  · intro hx
    exact ⟨error, t, hx, rfl⟩

theorem pure_eq_ok_iff {a a' : α} :
    (pure a : Script σ α) s = some (.ok a', t) ↔ a = a' ∧ s = t := by
  rw [pure_apply, Option.some.injEq, Prod.mk.injEq, Except.ok.injEq]

theorem liftExcept_eq_some_iff {result result' : Except ScriptError α} :
    (liftExcept result : Script σ α) s = some (result', t) ↔ result = result' ∧ s = t := by
  rw [liftExcept_apply, Option.some.injEq, Prod.mk.injEq]

/-! ### The order by where computations are cut off -/

/-- Whatever `x` gives, `y` gives too. -/
def Below (x y : Script σ α) : Prop :=
  ∀ s outcome, x s = some outcome → y s = some outcome

theorem Below.refl (x : Script σ α) : x.Below x := fun _ _ h => h

/-- Running computations one after the other keeps the order. -/
theorem Below.bind (h : x.Below y) (hf : ∀ a, (f a).Below (g a)) :
    (x >>= f).Below (y >>= g) := by
  intro s outcome hx
  rw [bind_eq_some_iff] at hx ⊢
  rcases hx with ⟨a, t, hxs, hfa⟩ | ⟨error, t, hxs, hout⟩
  · exact .inl ⟨a, t, h s _ hxs, hf a t _ hfa⟩
  · exact .inr ⟨error, t, h s _ hxs, hout⟩

/-! ### Properties that are kept -/

variable {I : σ → Prop} {Q : α → Prop} {R : β → Prop}

/-- From a state with `I`, whatever `x` comes to, `y` comes to as well; the state that is left has
`I` again, and a value has `Q`. -/
def Keeps (I : σ → Prop) (Q : α → Prop) (x y : Script σ α) : Prop :=
  ∀ s result t, I s → x s = some (result, t) →
    y s = some (result, t) ∧ I t ∧ ∀ a, result = .ok a → Q a

/-- A computation that leaves the state as it is. -/
theorem keeps_of_apply {result : σ → Except ScriptError α}
    (h : ∀ s, x s = some (result s, s)) (hQ : ∀ s, I s → ∀ a, result s = .ok a → Q a) :
    Keeps I Q x x := by
  intro s r t hs hx
  obtain ⟨rfl, rfl⟩ := Prod.mk.inj (Option.some.inj ((h s).symm.trans hx))
  exact ⟨hx, hs, hQ s hs⟩

theorem keeps_pure {a : α} (ha : Q a) : Keeps I Q (pure a) (pure a) :=
  keeps_of_apply (pure_apply a) fun _ _ _ h => Except.ok.inj h ▸ ha

theorem keeps_throw (error : ScriptError) : Keeps I Q (throw error) (throw error) :=
  keeps_of_apply (throw_apply error) fun _ _ _ h => nomatch h

theorem keeps_liftExcept {result : Except ScriptError α} (h : ∀ a, result = .ok a → Q a) :
    Keeps I Q (liftExcept result) (liftExcept result) :=
  keeps_of_apply (liftExcept_apply result) fun _ _ => h

theorem keeps_get : Keeps I I get get :=
  keeps_of_apply get_apply fun _ hs _ h => Except.ok.inj h ▸ hs

theorem keeps_modify {change : σ → σ} (h : ∀ s, I s → I (change s)) :
    Keeps I (fun _ => True) (modify change) (modify change) := by
  intro s r t hs hx
  obtain ⟨rfl, rfl⟩ := Prod.mk.inj (Option.some.inj hx)
  exact ⟨hx, h s hs, fun _ _ => trivial⟩

/-- Running computations one after the other. -/
theorem Keeps.bind (hx : Keeps I Q x y) (hf : ∀ a, Q a → Keeps I R (f a) (g a)) :
    Keeps I R (x >>= f) (y >>= g) := by
  intro s r t hs h
  rcases bind_eq_some_iff.mp h with ⟨a, u, hxs, hfa⟩ | ⟨error, u, hxs, hout⟩
  · obtain ⟨hys, hu, ha⟩ := hx s _ u hs hxs
    rw [bind_of_ok hys]
    exact hf a (ha a rfl) u r t hu hfa
  · obtain ⟨hys, hu, -⟩ := hx s _ u hs hxs
    obtain ⟨rfl, rfl⟩ := Prod.mk.inj hout
    exact ⟨bind_of_error hys, hu, fun _ h => nomatch h⟩

theorem Keeps.ite {p : Prop} [Decidable p] {x' y' : Script σ α} (h : Keeps I Q x y)
    (h' : Keeps I Q x' y') : Keeps I Q (if p then x else x') (if p then y else y') := by
  split
  · exact h
  · exact h'

end Script

/-! ### Operators give scalars -/

theorem ofArithmetic_eq_ok_iff {result : Except Value.Fault Value} {v : Value} :
    ofArithmetic result = .ok v ↔ result = .ok v := by
  cases result with
  | ok w =>
    change Except.ok w = Except.ok v ↔ Except.ok w = Except.ok v
    rw [Except.ok.injEq, Except.ok.injEq]
  | error fault => exact ⟨nofun, nofun⟩

/-- The value of an operator with one operand is a scalar. -/
theorem UnaryOp.isScalar_of_apply {op : UnaryOp} {v w : Value} (h : op.apply v = .ok w) :
    w.isScalar = true := by
  cases op with
  | neg =>
    rw [apply, ofArithmetic_eq_ok_iff, Value.neg] at h
    split at h <;> cases h
    rfl
  | not =>
    obtain ⟨b, -, rfl⟩ := exceptMap_eq_ok_iff.mp h
    rfl

theorem Value.isScalar_of_add {a b w : Value} (h : a.add b = .ok w) : w.isScalar = true := by
  unfold Value.add at h
  split at h
  · cases h
    rfl
  · split at h
    · cases h
      rfl
    · obtain ⟨n, -, rfl⟩ := exceptMap_eq_ok_iff.mp h
      rfl

theorem Value.isScalar_of_div {a b w : Value} (h : a.div b = .ok w) : w.isScalar = true := by
  unfold Value.div at h
  split at h
  · split at h <;> cases h
    rfl
  · cases h

theorem Value.isScalar_of_rem {a b w : Value} (h : a.rem b = .ok w) : w.isScalar = true := by
  unfold Value.rem at h
  split at h
  · split at h <;> cases h
    rfl
  · cases h

/-- The value of an operator with two operands is a scalar. -/
theorem BinaryOp.isScalar_of_apply {op : BinaryOp} {a b w : Value} (h : op.apply a b = .ok w) :
    w.isScalar = true := by
  cases op with
  | add => exact Value.isScalar_of_add (ofArithmetic_eq_ok_iff.mp h)
  | div => exact Value.isScalar_of_div (ofArithmetic_eq_ok_iff.mp h)
  | rem => exact Value.isScalar_of_rem (ofArithmetic_eq_ok_iff.mp h)
  | sub | mul =>
    obtain ⟨n, -, rfl⟩ := exceptMap_eq_ok_iff.mp (ofArithmetic_eq_ok_iff.mp h)
    rfl
  | and | or | matching | notMatching =>
    obtain ⟨n, -, rfl⟩ := exceptMap_eq_ok_iff.mp h
    rfl
  | _ =>
    cases h
    rfl

/-! ### Expressions -/

/-- Looking up variables and calling functions keeps `I`, with values that have `V`. -/
structure Context.Keeps {σ : Type} (I : σ → Prop) (V : Value → Prop) (c d : Context σ) : Prop where
  lookup : ∀ name, Script.Keeps I (fun found => ∀ v, found = some v → V v) (c.lookup name)
    (d.lookup name)
  call : ∀ name {values : List Value}, (∀ v ∈ values, V v) →
    Script.Keeps I V (c.call name values) (d.call name values)

namespace Expr

variable {σ : Type} {I : σ → Prop} {V : Value → Prop} {c d : Context σ}

mutual

/-- Evaluating an expression keeps `I` if its context does, with values that have `V` if scalars
do. -/
theorem eval_keeps (h : c.Keeps I V d) (hV : ∀ v, v.isScalar = true → V v) :
    ∀ e : Expr, Script.Keeps I V (eval c e) (eval d e)
  | .int n => by simpa only [eval] using Script.keeps_pure (hV _ rfl)
  | .str s => by simpa only [eval] using Script.keeps_pure (hV _ rfl)
  | .bool b => by simpa only [eval] using Script.keeps_pure (hV _ rfl)
  | .var name => by
    simp only [eval]
    refine (h.lookup name).bind fun found hfound => ?_
    cases found with
    | none => exact Script.keeps_throw _
    | some v => exact Script.keeps_pure (hfound v rfl)
  | .unary op e => by
    simp only [eval]
    refine (eval_keeps h hV e).bind fun v _ => Script.keeps_liftExcept fun w hw => ?_
    exact hV w (UnaryOp.isScalar_of_apply hw)
  | .binary op l r => by
    have hl := eval_keeps h hV l
    have hr := eval_keeps h hV r
    have hbool (b : Bool) : Script.Keeps I V (pure (.bool b)) (pure (.bool b)) :=
      Script.keeps_pure (hV _ rfl)
    -- the right operand as a truth value, for the operators that may not need it
    have htruth : Script.Keeps I V (do return .bool (← liftExcept (← eval c r).truth))
        (do return .bool (← liftExcept (← eval d r).truth)) :=
      hr.bind fun _ _ => (Script.keeps_liftExcept fun _ _ => trivial).bind fun b _ => hbool b
    cases op with
    | and =>
      simp only [eval]
      refine hl.bind fun _ _ => (Script.keeps_liftExcept fun _ _ => trivial).bind fun b _ => ?_
      exact htruth.ite (hbool false)
    | or =>
      simp only [eval]
      refine hl.bind fun _ _ => (Script.keeps_liftExcept fun _ _ => trivial).bind fun b _ => ?_
      exact (hbool true).ite htruth
    | _ =>
      simp only [eval]
      refine hl.bind fun _ _ => hr.bind fun _ _ => Script.keeps_liftExcept fun w hw => ?_
      exact hV w (BinaryOp.isScalar_of_apply hw)
  | .call name arguments => by
    simp only [eval]
    exact (evalAll_keeps h hV arguments).bind fun values hvalues => h.call name hvalues

/-- Evaluating several expressions keeps `I`, too. -/
theorem evalAll_keeps (h : c.Keeps I V d) (hV : ∀ v, v.isScalar = true → V v) :
    ∀ es : List Expr, Script.Keeps I (fun values => ∀ v ∈ values, V v) (evalAll c es) (evalAll d es)
  | [] => by simpa only [evalAll] using Script.keeps_pure (by simp)
  | e :: es => by
    simp only [evalAll]
    refine (eval_keeps h hV e).bind fun v hv => (evalAll_keeps h hV es).bind fun vs hvs => ?_
    exact Script.keeps_pure (List.forall_mem_cons.mpr ⟨hv, hvs⟩)

end

theorem evalText_keeps (h : c.Keeps I V d) (hV : ∀ v, v.isScalar = true → V v) (source : String) :
    Script.Keeps I V (evalText c source) (evalText d source) :=
  (Script.keeps_liftExcept fun _ _ => trivial).bind fun e _ => eval_keeps h hV e

end Expr

end BracketScript
