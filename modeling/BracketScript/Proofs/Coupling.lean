import BracketScript.Proofs.Names
import BracketScript.Proofs.Script
import BracketScript.Session.Dispatch
import Mathlib.Data.List.Forall2

/-!
# Coupled computations

Two computations are coupled if neither is cut off, and from related states they come to related
values, or to the same error, and to related states again. The built-ins that evaluate their
arguments and nothing else are coupled with themselves for two argument texts if the arguments are:
they then see the same values in the same order, and the sessions that they leave differ at most in
the names that calls assign. It does not matter why the arguments have the same values.

## Main definitions

* `Script.Couples`: computations that come to related results
* `Session.Alike`: sessions that differ at most in the names that calls assign
* `Evaluator.Couples`: argument texts that have the same value
* `Builtin.isEager`: the built-ins that evaluate each of their arguments once, in order

## Main results

* `Script.Couples.bind`: what is coupled one after the other is coupled
* `Builtin.run_couples`: an eager built-in does the same for arguments that have the same values
-/

namespace BracketScript

namespace Script

variable {σ α β γ δ : Type} {P Q S : σ → σ → Prop} {R : α → β → Prop} {T : γ → δ → Prop}
  {x : Script σ α} {y : Script σ β}

/-- The results are related values or the same error. -/
inductive Matches (R : α → β → Prop) : Except ScriptError α → Except ScriptError β → Prop
  | ok {a : α} {b : β} : R a b → Matches R (.ok a) (.ok b)
  | error (error : ScriptError) : Matches R (.error error) (.error error)

theorem matches_eq (result : Except ScriptError α) : Matches Eq result result := by
  cases result with
  | ok a => exact .ok rfl
  | error error => exact .error error

theorem Matches.eq {r r' : Except ScriptError α} (h : Matches Eq r r') : r = r' := by
  cases h with
  | ok hab => rw [hab]
  | error error => rfl

/-- From states related by `P`, both computations have a result and leave states related by `Q`; the
results are values related by `R`, or the same error. -/
def Couples (P Q : σ → σ → Prop) (R : α → β → Prop) (x : Script σ α) (y : Script σ β) : Prop :=
  ∀ s s', P s s' → ∃ r t r' t', x s = some (r, t) ∧ y s' = some (r', t') ∧ Q t t' ∧ Matches R r r'

theorem couples_pure {a : α} {b : β} (hPQ : ∀ s s', P s s' → Q s s') (h : R a b) :
    Couples P Q R (pure a : Script σ α) (pure b : Script σ β) :=
  fun s s' hs => ⟨_, s, _, s', rfl, rfl, hPQ s s' hs, .ok h⟩

theorem couples_throw (hPQ : ∀ s s', P s s' → Q s s') (error : ScriptError) :
    Couples P Q R (throw error : Script σ α) (throw error : Script σ β) :=
  fun s s' hs => ⟨_, s, _, s', rfl, rfl, hPQ s s' hs, .error error⟩

theorem couples_liftExcept {r : Except ScriptError α} {r' : Except ScriptError β}
    (h : Matches R r r') :
    Couples P P R (liftExcept r : Script σ α) (liftExcept r' : Script σ β) :=
  fun s s' hs => ⟨r, s, r', s', liftExcept_apply r s, liftExcept_apply r' s', hs, h⟩

/-- A computed result is the same on both sides. -/
theorem couples_lift (result : Except ScriptError α) :
    Couples P P Eq (liftExcept result : Script σ α) (liftExcept result) :=
  couples_liftExcept (matches_eq result)

/-- The states themselves are related. -/
theorem couples_get : Couples P P P (get : Script σ σ) get :=
  fun s s' hs => ⟨_, s, _, s', rfl, rfl, hs, .ok hs⟩

theorem couples_modify {change change' : σ → σ}
    (h : ∀ s s', P s s' → Q (change s) (change' s')) :
    Couples P Q Eq (modify change : Script σ Unit) (modify change') :=
  fun s s' hs => ⟨_, _, _, _, rfl, rfl, h s s' hs, .ok rfl⟩

theorem Couples.of_imp (h : Couples Q S R x y) (hPQ : ∀ s s', P s s' → Q s s') :
    Couples P S R x y :=
  fun s s' hs => h s s' (hPQ s s' hs)

/-- What is coupled one after the other is coupled. An error of the first leaves states that the
relation between the two admits. -/
theorem Couples.bind {f : α → Script σ γ} {g : β → Script σ δ} (h : Couples P Q R x y)
    (hQS : ∀ s s', Q s s' → S s s') (hfg : ∀ a b, R a b → Couples Q S T (f a) (g b)) :
    Couples P S T (x >>= f) (y >>= g) := by
  intro s s' hs
  obtain ⟨r, t, r', t', hx, hy, ht, hr⟩ := h s s' hs
  cases hr with
  | ok hab =>
    rw [bind_of_ok hx, bind_of_ok hy]
    exact hfg _ _ hab t t' ht
  | error error =>
    exact ⟨_, t, _, t', bind_of_error hx, bind_of_error hy, hQS t t' ht, .error error⟩

theorem Matches.imp {R' : α → β → Prop} {r : Except ScriptError α} {r' : Except ScriptError β}
    (h : Matches R r r') (hR : ∀ a b, R a b → R' a b) : Matches R' r r' := by
  cases h with
  | ok hab => exact .ok (hR _ _ hab)
  | error error => exact .error error

theorem Couples.imp {R' : α → β → Prop} (h : Couples P Q R x y) (hR : ∀ a b, R a b → R' a b) :
    Couples P Q R' x y := by
  intro s s' hs
  obtain ⟨r, t, r', t', hx, hy, ht, hr⟩ := h s s' hs
  exact ⟨r, t, r', t', hx, hy, ht, hr.imp hR⟩

/-- The same, where the first two come to the same value. -/
theorem Couples.bind_eq {x y : Script σ α} {f : α → Script σ γ} {g : α → Script σ δ}
    (h : Couples P Q Eq x y) (hQS : ∀ s s', Q s s' → S s s')
    (hfg : ∀ a, Couples Q S T (f a) (g a)) : Couples P S T (x >>= f) (y >>= g) := by
  refine h.bind hQS ?_
  rintro a _ rfl
  exact hfg a

theorem Couples.ite {p : Prop} [Decidable p] {x' : Script σ α} {y' : Script σ β}
    (h : Couples P Q R x y) (h' : Couples P Q R x' y') :
    Couples P Q R (if p then x else x') (if p then y else y') := by
  split
  · exact h
  · exact h'

end Script

/-! ### Sessions that calls leave alike -/

namespace Session

/-- The sessions have printed and sent the same and run the same targets, and their variables differ
at most in the names that calls assign. -/
structure Alike (s t : Session) : Prop where
  output : s.output = t.output
  sent : s.sent = t.sent
  active : s.active = t.active
  env : ∀ name, ¬ Environment.IsCallName name → s.env.get? name = t.env.get? name

variable {s t : Session}

theorem Alike.assign (h : Alike s t) (name : String) (v : Value) :
    Alike { s with env := s.env.set name v } { t with env := t.env.set name v } where
  output := h.output
  sent := h.sent
  active := h.active
  env other hother := by
    by_cases hname : other = name
    · simp only [hname, Environment.get?_set_self]
    · simp only [Environment.get?_set_of_ne _ v hname, h.env other hother]

theorem Alike.response? (h : Alike s t) : s.env.response? = t.env.response? :=
  h.env responseName (Environment.not_isCallName (by decide))

theorem Alike.responseElements (h : Alike s t) :
    responseElements s.env = responseElements t.env := by
  rw [BracketScript.responseElements, h.response?]
  rfl

theorem Alike.responseMembers (h : Alike s t) : responseMembers s.env = responseMembers t.env := by
  rw [BracketScript.responseMembers, h.response?]
  rfl

end Session

open Session (Alike)

/-- What is done to both of two alike sessions leaves them alike. -/
abbrev Action.KeepsAlike {α : Type} (x y : Action α) : Prop := Script.Couples Alike Alike Eq x y

namespace Action

theorem assign_keepsAlike (name : String) (v : Value) :
    KeepsAlike (assign name v) (assign name v) :=
  Script.couples_modify fun _ _ h => h.assign name v

theorem print_keepsAlike (line : String) : KeepsAlike (print line) (print line) :=
  Script.couples_modify fun _ _ h => { h with output := by rw [h.output] }

theorem send_keepsAlike (host : Host) (request : Request) (simultaneous : Bool) :
    KeepsAlike (send host request simultaneous) (send host request simultaneous) := by
  intro s t h
  -- what answers sees the requests sent before, and these are the same
  have hanswer : host.transport (s.sent.toList.map (·.request)) request =
      host.transport (t.sent.toList.map (·.request)) request := by rw [h.sent]
  exact ⟨_, _, _, _, rfl, rfl, { h with sent := by rw [h.sent] }, .ok hanswer⟩

end Action

theorem exchangeOne_keepsAlike (host : Host) (request : Request) :
    Action.KeepsAlike (exchangeOne host request) (exchangeOne host request) := by
  refine (Action.send_keepsAlike host request false).bind_eq (fun _ _ h => h) fun answer => ?_
  cases answer with
  | ok response =>
    refine (Action.assign_keepsAlike _ _).bind_eq (fun _ _ h => h) fun _ => ?_
    exact Script.couples_pure (fun _ _ h => h) rfl
  | error error => exact Script.couples_throw (fun _ _ h => h) _

theorem sendTasks_keepsAlike (host : Host) (tasks : List (Nat × Request)) :
    Action.KeepsAlike (sendTasks host tasks) (sendTasks host tasks) := by
  induction tasks with
  | nil => exact Script.couples_pure (fun _ _ h => h) rfl
  | cons task rest ih =>
    refine (Action.send_keepsAlike host task.2 true).bind_eq (fun _ _ h => h) fun outcome => ?_
    exact (Action.assign_keepsAlike _ _).bind_eq (fun _ _ h => h) fun _ => ih

/-! ### Built-ins that evaluate their arguments -/

/-- From sessions related by `K` the two argument texts have the same value, which has `V`, and
leave sessions related by `K`. -/
def Evaluator.Couples (K : Session → Session → Prop) (V : Value → Prop) (e : Evaluator)
    (source source' : String) : Prop :=
  Script.Couples K K (fun v w => v = w ∧ V v) (e.line source) (e.line source')

theorem Value.asText_eq_ok {v : Value} {text : String} (h : v.asText = .ok text) :
    text = v.display := by
  unfold asText at h
  split at h <;> cases h
  all_goals rfl

/-- The built-in cuts its argument text into arguments, and evaluates each of them once,
in order. -/
def Builtin.isEager : Builtin → Bool
  | .assertEquals | .assertContains | .assertLists | .assertFailure | .post | .get | .parallelPost
  | .print | .readFile | .response | .sleep => true
  | _ => false

section Builtins

variable {K : Session → Session → Prop} {V : Value → Prop} {e : Evaluator}

/-- The texts of the two arguments are the same, that of a value which has `V`. -/
theorem Evaluator.Couples.text_display {source source' : String}
    (h : e.Couples K V source source') :
    Script.Couples K K (fun text text' => text = text' ∧ ∃ v, V v ∧ text = v.display)
      (e.text source) (e.text source') := by
  refine Script.Couples.bind h (fun _ _ h => h) ?_
  rintro v _ ⟨rfl, hv⟩
  refine Script.couples_liftExcept ?_
  cases htext : v.asText with
  | ok text => exact .ok ⟨rfl, v, hv, Value.asText_eq_ok htext⟩
  | error error => exact .error error

theorem Evaluator.Couples.text {source source' : String} (h : e.Couples K V source source') :
    Script.Couples K K Eq (e.text source) (e.text source') :=
  h.text_display.imp fun _ _ h => h.1

theorem Evaluator.Couples.truth {source source' : String} (h : e.Couples K V source source') :
    Script.Couples K K Eq (e.truth source) (e.truth source') := by
  refine Script.Couples.bind h (fun _ _ h => h) ?_
  rintro v _ ⟨rfl, -⟩
  exact Script.couples_lift _

theorem Evaluator.Couples.integer {source source' : String} (h : e.Couples K V source source') :
    Script.Couples K K Eq (e.integer source) (e.integer source') := by
  refine Script.Couples.bind h (fun _ _ h => h) ?_
  rintro v _ ⟨rfl, -⟩
  exact Script.couples_lift _

section Arity

variable {R : String → String → Prop} {raw raw' : String}
  (h : List.Forall₂ R (Brackets.arguments raw) (Brackets.arguments raw'))
include h

theorem exactlyOne_matches (name : String) :
    Script.Matches (fun a a' => R a a' ∧ Brackets.arguments raw = [a]) (exactlyOne name raw)
      (exactlyOne name raw') := by
  unfold exactlyOne
  generalize Brackets.arguments raw = sources, Brackets.arguments raw' = sources' at h
  rcases h with _ | ⟨ha, _ | ⟨_, hrest⟩⟩
  · exact .error _
  · exact .ok ⟨ha, rfl⟩
  · simp only [List.length_cons, hrest.length_eq]
    exact .error _

theorem exactlyTwo_matches (name : String) :
    Script.Matches (fun p q => R p.1 q.1 ∧ R p.2 q.2) (exactlyTwo name raw)
      (exactlyTwo name raw') := by
  unfold exactlyTwo
  generalize Brackets.arguments raw = sources, Brackets.arguments raw' = sources' at h
  rcases h with _ | ⟨ha, _ | ⟨hb, _ | ⟨_, hrest⟩⟩⟩
  · exact .error _
  · exact .error _
  · exact .ok ⟨ha, hb⟩
  · simp only [List.length_cons, hrest.length_eq]
    exact .error _

theorem exactlyThree_matches (name : String) :
    Script.Matches (fun p q => R p.1 q.1 ∧ R p.2.1 q.2.1 ∧ R p.2.2 q.2.2) (exactlyThree name raw)
      (exactlyThree name raw') := by
  unfold exactlyThree
  generalize Brackets.arguments raw = sources, Brackets.arguments raw' = sources' at h
  rcases h with _ | ⟨ha, _ | ⟨hb, _ | ⟨hc, _ | ⟨_, hrest⟩⟩⟩⟩
  · exact .error _
  · exact .error _
  · exact .error _
  · exact .ok ⟨ha, hb, hc⟩
  · simp only [List.length_cons, hrest.length_eq]
    exact .error _

theorem exactlyFour_matches (name : String) :
    Script.Matches (fun p q => R p.1 q.1 ∧ R p.2.1 q.2.1 ∧ R p.2.2.1 q.2.2.1 ∧
      R p.2.2.2 q.2.2.2) (exactlyFour name raw) (exactlyFour name raw') := by
  unfold exactlyFour
  generalize Brackets.arguments raw = sources, Brackets.arguments raw' = sources' at h
  rcases h with _ | ⟨ha, _ | ⟨hb, _ | ⟨hc, _ | ⟨hd, _ | ⟨_, hrest⟩⟩⟩⟩⟩
  · exact .error _
  · exact .error _
  · exact .error _
  · exact .error _
  · exact .ok ⟨ha, hb, hc, hd⟩
  · simp only [List.length_cons, hrest.length_eq]
    exact .error _

end Arity

variable {raw raw' : String}
  (hargs : List.Forall₂ (e.Couples K V) (Brackets.arguments raw) (Brackets.arguments raw'))
  (hK : ∀ s t, K s t → Alike s t)
include hargs hK

theorem runAssertEquals_couples :
    Script.Couples K Alike Eq (runAssertEquals e raw) (runAssertEquals e raw') := by
  refine (Script.couples_liftExcept (exactlyTwo_matches hargs _)).bind hK ?_
  rintro ⟨first, second⟩ ⟨first', second'⟩ ⟨hfirst, hsecond⟩
  refine hfirst.text.bind_eq hK fun got => hsecond.text.bind_eq hK fun expected => ?_
  exact (Script.couples_pure hK rfl).ite (Script.couples_throw hK _)

theorem runAssertContains_couples :
    Script.Couples K Alike Eq (runAssertContains e raw) (runAssertContains e raw') := by
  refine (Script.couples_liftExcept (exactlyTwo_matches hargs _)).bind hK ?_
  rintro ⟨first, second⟩ ⟨first', second'⟩ ⟨hfirst, hsecond⟩
  refine hfirst.text.bind_eq hK fun haystack => hsecond.text.bind_eq hK fun needle => ?_
  exact (Script.couples_pure hK rfl).ite (Script.couples_throw hK _)

theorem runAssertLists_couples :
    Script.Couples K Alike Eq (runAssertLists e raw) (runAssertLists e raw') := by
  refine (Script.couples_liftExcept (exactlyThree_matches hargs _)).bind hK ?_
  rintro ⟨first, second, third⟩ ⟨first', second', third'⟩ ⟨hfirst, hsecond, hthird⟩
  refine hfirst.text.bind_eq hK fun a => hsecond.text.bind_eq hK fun b => ?_
  refine hthird.truth.bind_eq hK fun ordered => ?_
  exact (Script.couples_lift _).bind_eq hK fun _ => Script.couples_pure hK rfl

theorem runAssertFailure_couples :
    Script.Couples K Alike Eq (runAssertFailure e raw) (runAssertFailure e raw') := by
  refine (Script.couples_liftExcept (exactlyOne_matches hargs _)).bind hK ?_
  rintro argument argument' ⟨hargument, -⟩
  refine hargument.text.bind_eq hK fun code => ?_
  refine Script.couples_get.bind hK fun s t hst => ?_
  rw [(hK s t hst).responseElements]
  refine (Script.couples_lift _).bind_eq hK fun elements => ?_
  cases elements with
  | nil => exact Script.couples_throw hK _
  | cons first rest => exact (Script.couples_pure hK rfl).ite (Script.couples_throw hK _)

theorem runPost_couples (host : Host) :
    Script.Couples K Alike Eq (runPost host e raw) (runPost host e raw') := by
  refine (Script.couples_liftExcept (exactlyThree_matches hargs _)).bind hK ?_
  rintro ⟨url, body, headers⟩ ⟨url', body', headers'⟩ ⟨hurl, hbody, hheaders⟩
  refine hurl.text.bind_eq hK fun _ => hbody.text.bind_eq hK fun _ => ?_
  refine (Script.couples_lift _).bind_eq hK fun _ => hheaders.text.bind_eq hK fun _ => ?_
  refine (Script.couples_lift _).bind_eq hK fun _ => ?_
  exact (exchangeOne_keepsAlike host _).of_imp hK

theorem runGet_couples (host : Host) :
    Script.Couples K Alike Eq (runGet host e raw) (runGet host e raw') := by
  refine (Script.couples_liftExcept (exactlyTwo_matches hargs _)).bind hK ?_
  rintro ⟨url, headers⟩ ⟨url', headers'⟩ ⟨hurl, hheaders⟩
  refine hurl.text.bind_eq hK fun _ => hheaders.text.bind_eq hK fun _ => ?_
  refine (Script.couples_lift _).bind_eq hK fun _ => ?_
  exact (exchangeOne_keepsAlike host _).of_imp hK

theorem runParallelPost_couples (host : Host) :
    Script.Couples K Alike Eq (runParallelPost host e raw) (runParallelPost host e raw') := by
  refine (Script.couples_liftExcept (exactlyFour_matches hargs _)).bind hK ?_
  rintro ⟨files, headers, bodies, urls⟩ ⟨files', headers', bodies', urls'⟩
    ⟨hfiles, hheaders, hbodies, hurls⟩
  refine hfiles.text.bind_eq hK fun _ => hheaders.text.bind_eq hK fun _ => ?_
  refine (Script.couples_lift _).bind_eq hK fun _ => hbodies.text.bind_eq hK fun _ => ?_
  refine (Script.couples_lift _).bind_eq hK fun _ => hurls.text.bind_eq hK fun _ => ?_
  refine (Script.couples_lift _).bind_eq hK fun tasks => ?_
  refine ((sendTasks_keepsAlike host tasks).of_imp hK).bind_eq (fun _ _ h => h) fun _ => ?_
  exact Script.couples_pure (fun _ _ h => h) rfl

omit hargs hK in
theorem evalTexts_couples {sources sources' : List String}
    (h : List.Forall₂ (e.Couples K V) sources sources') :
    Script.Couples K K Eq (evalTexts e sources) (evalTexts e sources') := by
  induction h with
  | nil => exact Script.couples_pure (fun _ _ h => h) rfl
  | cons hsource _ ih =>
    refine hsource.text.bind_eq (fun _ _ h => h) fun text => ?_
    refine ih.bind_eq (fun _ _ h => h) fun texts => ?_
    exact Script.couples_pure (fun _ _ h => h) rfl

theorem runPrint_couples : Script.Couples K Alike Eq (runPrint e raw) (runPrint e raw') := by
  refine (evalTexts_couples hargs).bind_eq hK fun texts => ?_
  cases texts with
  | nil => exact Script.couples_pure hK rfl
  | cons format arguments =>
    refine ((Action.print_keepsAlike _).of_imp hK).bind_eq (fun _ _ h => h) fun _ => ?_
    exact Script.couples_pure (fun _ _ h => h) rfl

theorem runReadFile_couples (host : Host) :
    Script.Couples K Alike Eq (runReadFile host e raw) (runReadFile host e raw') := by
  refine (Script.couples_liftExcept (exactlyTwo_matches hargs _)).bind hK ?_
  rintro ⟨name, path⟩ ⟨name', path'⟩ ⟨hname, hpath⟩
  refine hname.text.bind_eq hK fun name => hpath.text.bind_eq hK fun path => ?_
  cases host.scripts.read path with
  | ok data =>
    refine ((Action.assign_keepsAlike _ _).of_imp hK).bind_eq (fun _ _ h => h) fun _ => ?_
    exact Script.couples_pure (fun _ _ h => h) rfl
  | error error => exact Script.couples_throw hK _

/-- The variable that is looked up must not be one that calls assign. -/
theorem runResponse_couples
    (hfield : (Brackets.arguments raw).length = 1 →
      ∀ v, V v → ¬ Environment.IsCallName v.display) :
    Script.Couples K Alike Eq (runResponse e raw) (runResponse e raw') := by
  refine (Script.couples_liftExcept (exactlyOne_matches hargs _)).bind hK ?_
  rintro argument argument' ⟨hargument, hone⟩
  refine hargument.text_display.bind hK ?_
  rintro field _ ⟨rfl, v, hv, rfl⟩
  refine Script.couples_get.bind hK fun s t hst => ?_
  -- the response is the same, and so is the variable that the field names
  have hlookup : s.env.get? v.display = t.env.get? v.display :=
    (hK s t hst).env _ (hfield (by rw [hone]; rfl) v hv)
  dsimp only
  rw [(hK s t hst).responseMembers, hlookup]
  split
  · exact Script.couples_pure hK rfl
  · split
    · exact Script.couples_pure hK rfl
    · exact Script.couples_throw hK _

theorem runSleep_couples : Script.Couples K Alike Eq (runSleep e raw) (runSleep e raw') := by
  refine (Script.couples_liftExcept (exactlyOne_matches hargs _)).bind hK ?_
  rintro argument argument' ⟨hargument, -⟩
  exact hargument.integer.bind_eq hK fun _ => Script.couples_pure hK rfl

/-- An eager built-in does the same for arguments that have the same values. -/
theorem Builtin.run_couples (host : Host) (limit : Nat) {b : Builtin} (hb : b.isEager = true)
    (hfield : b = .response → (Brackets.arguments raw).length = 1 →
      ∀ v, V v → ¬ Environment.IsCallName v.display) :
    Script.Couples K Alike Eq (b.run host e limit raw) (b.run host e limit raw') := by
  cases b with
  | assertEquals => exact runAssertEquals_couples hargs hK
  | assertContains => exact runAssertContains_couples hargs hK
  | assertLists => exact runAssertLists_couples hargs hK
  | assertFailure => exact runAssertFailure_couples hargs hK
  | post => exact runPost_couples hargs hK host
  | get => exact runGet_couples hargs hK host
  | parallelPost => exact runParallelPost_couples hargs hK host
  | print => exact runPrint_couples hargs hK
  | readFile => exact runReadFile_couples hargs hK host
  | response => exact runResponse_couples hargs hK (hfield rfl)
  | sleep => exact runSleep_couples hargs hK
  | _ => cases hb

end Builtins

end BracketScript
