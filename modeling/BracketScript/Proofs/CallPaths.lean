import BracketScript.Proofs.Control
import BracketScript.Proofs.Coupling
import BracketScript.Proofs.Identifiers
import BracketScript.Proofs.Reading

/-!
# Calls in brackets and calls in expressions

A call can be written in brackets or as an expression. In brackets the built-in gets the text of its
arguments and evaluates them itself. In an expression the arguments are evaluated first, and the
built-in gets text that is written for the values: literals where there are any, and names of
variables for all other values. For built-ins that evaluate their arguments once and in order, and
arguments that only read variables, it makes no difference how the call is written.

## Main definitions

* `Value.IsArgument`: the values that can be written for a call
* `Value.outcome`: what a line with a value comes to
* `Session.Answers`: a text that has a value as long as certain variables keep theirs
* `Session.Prepared`: two sessions in which arguments have the same values

## Main results

* `Session.Answers.couples`: two texts for the same value can stand for each other
* `Session.forall₂_isWritten_callTexts`, `Session.arguments_callText`: the text that is written for
  values
* `Session.call_paths_agree`: a call does the same in brackets and as an expression
-/

namespace BracketScript

/-! ### Texts that have a value -/

/-- The values that can be written for a call: texts, truth values, JSON objects, and all integers
but the least one. -/
def Value.IsArgument : Value → Prop
  | str _ | bool _ | json _ => True
  | int n => n ≠ Int64.minValue
  | _ => False

theorem Value.IsArgument.ne_minValue {v : Value} (h : v.IsArgument) : v ≠ .int Int64.minValue := by
  rintro rfl
  exact h rfl

/-- What a line comes to whose only span has a value: the value, or the failure that it keeps. -/
def Value.outcome : Value → Session.Outcome
  | error message => .error (.fail message)
  | v => .ok v

namespace Session

open Environment (AgreesOn IsCallName)

/-- The text is plain, and it has the value `v` as long as the variables with `P` have the values
that they have in `env`. -/
structure Answers (P : String → Prop) (env : Environment) (source : String) (v : Value) :
    Prop where
  isPlain : Brackets.IsPlain source
  yields : ∀ ctx : Context Session, ctx.lookup = Action.lookup →
    Script.Yields (fun s => env.AgreesOn P s.env) (Expr.evalText ctx source) (.ok v)

variable {P P' : String → Prop} {env env' : Environment} {source source' : String} {v : Value}
  {host : Host} {limit : Nat} {s t : Session}

/-- A line without brackets comes to the value of the expression that it is, or to the failure that
this value keeps. -/
theorem line_of_evalText (hbracket : source.toList.any Brackets.isBracket = false)
    (h : Expr.evalText (sessionContext host (evaluator host limit) limit) source s =
      some (.ok v, t)) :
    (evaluator host (limit + 1)).line source s = some (v.outcome, Outcome.keep t (.ok v)) := by
  have hspan : evalSpan host (evaluator host limit) limit source s = some (.ok v, t) := by
    rw [evalSpan, if_neg (Bool.eq_false_iff.mp hbracket)]
    exact h
  rw [evaluator_succ_line, evalLine, Brackets.spans_of_any_isBracket hbracket,
    evalSpans_cons, hspan]
  cases v <;> rfl

/-- Evaluating the text as a line comes to the value, or to the failure that it keeps. -/
theorem Answers.line_outcome (h : Answers P env source v) (host : Host) (limit : Nat)
    (hs : env.AgreesOn P s.env) : (evaluator host (limit + 1)).line source s =
      some (v.outcome, Outcome.keep s (.ok v)) :=
  line_of_evalText h.isPlain.any_isBracket (h.yields _ rfl s hs)

/-- So it is with the text itself, in a session with these variables, if the value is no failure. -/
theorem Answers.line_self (h : Answers P s.env source v) (hv : v.outcome = .ok v) (host : Host) :
    (evaluator host 1).line source s = some (.ok v, Outcome.keep s (.ok v)) :=
  hv ▸ h.line_outcome host 0 fun _ _ => rfl

/-- Evaluating the text as a line keeps the value as the most recent one. -/
theorem Answers.line (h : Answers P env source v) (hv : v.IsArgument) (host : Host) (limit : Nat)
    (hs : env.AgreesOn P s.env) : (evaluator host (limit + 1)).line source s =
      some (.ok v, { s with env := s.env.set valueName v }) := by
  rw [h.line_outcome host limit hs]
  cases v with
  | str | int | bool | json => rfl
  | _ => exact hv.elim

theorem answers_of_parse {e : Expr} (hplain : Brackets.IsPlain source)
    (hparse : Expr.parse source = .ok e)
    (heval : ∀ ctx : Context Session, ctx.lookup = Action.lookup →
      Script.Yields (fun s => env.AgreesOn P s.env) (Expr.eval ctx e) (.ok v)) :
    Answers P env source v :=
  ⟨hplain, fun ctx hctx s hs => (Expr.evalText_of_parse hparse).trans (heval ctx hctx s hs)⟩

/-- The name of a variable has its value. -/
theorem answers_var {name : String} (hplain : Brackets.IsPlain source)
    (hparse : Expr.parse source = .ok (.var name)) (h : env.get? name = some v) :
    Answers (· = name) env source v :=
  answers_of_parse hplain hparse fun _ hctx => Expr.yields_var hctx h

/-- A text in quotes has this text as its value. -/
theorem answers_quote {blanks text : String} (hblanks : ∀ b ∈ blanks.toList, Text.isBlank b = true)
    (hplain : Brackets.IsPlain (blanks ++ Token.quote text)) :
    Answers P env (blanks ++ Token.quote text) (.str text) :=
  answers_of_parse hplain (Expr.parse_quote hblanks text) fun _ _ => Script.yields_pure _

/-- Two sessions in which arguments have the same values: those that calls leave alike, with the
variables that the arguments of each read. -/
structure Prepared (P P' : String → Prop) (base base' : Environment) (s t : Session) : Prop extends
    Alike s t where
  left : base.AgreesOn P s.env
  right : base'.AgreesOn P' t.env

/-- Two texts for the same value can stand for each other, for arguments that do not read the most
recent value. -/
theorem Answers.couples (h : Answers P env source v) (h' : Answers P' env' source' v)
    (hv : v.IsArgument) (hP : ¬ P valueName) (hP' : ¬ P' valueName) (host : Host) (limit : Nat)
    {V : Value → Prop} (hV : V v) :
    (evaluator host (limit + 1)).Couples (Prepared P P' env env') V source source' := by
  intro s t hst
  refine ⟨_, _, _, _, h.line hv host limit hst.left, h'.line hv host limit hst.right, ?_,
    .ok ⟨rfl, hV⟩⟩
  exact ⟨hst.toAlike.assign valueName v, hst.left.set hP v, hst.right.set hP' v⟩

theorem forall₂_couples {sources sources' : List String} {values : List Value}
    (h : List.Forall₂ (Answers P env) sources values)
    (h' : List.Forall₂ (Answers P' env') sources' values) (hP : ¬ P valueName)
    (hP' : ¬ P' valueName) (host : Host) (limit : Nat) {V : Value → Prop}
    (hvalues : ∀ v ∈ values, v.IsArgument ∧ V v) :
    List.Forall₂ ((evaluator host (limit + 1)).Couples (Prepared P P' env env') V) sources
      sources' := by
  induction h generalizing sources' with
  | nil =>
    cases h'
    exact .nil
  | cons hsource _ ih =>
    cases h' with
    | cons hsource' hrest' =>
      obtain ⟨⟨hv, hV⟩, hvs⟩ := List.forall_mem_cons.mp hvalues
      exact .cons (hsource.couples hsource' hv hP hP' host limit hV) (ih hrest' hvs)

/-! ### The text that is written for values -/

/-- The text is a literal for the value, or the name of an argument that holds it. -/
def IsWritten (env : Environment) (text : String) (v : Value) : Prop :=
  literal? v = some text ∨ ∃ index, text = argumentName index ∧ env.get? text = some v

/-- Writing values changes only the names of arguments from the given index on. -/
theorem get?_callTexts {values : List Value} {index : Nat} {name : String}
    (hname : ∀ i, index ≤ i → name ≠ argumentName i) :
    (callTexts env index values).2.get? name = env.get? name := by
  induction values generalizing env index with
  | nil => rfl
  | cons v rest ih =>
    have hrest : ∀ i, index + 1 ≤ i → name ≠ argumentName i :=
      fun i hi => hname i (Nat.le_of_succ_le hi)
    unfold callTexts
    split
    · exact ih hrest
    · exact (ih hrest).trans (env.get?_set_of_ne v (hname index (Nat.le_refl index)))

/-- Each value is written as a literal or under a name that holds it to the end. -/
theorem forall₂_isWritten_callTexts (env : Environment) (index : Nat) (values : List Value) :
    List.Forall₂ (IsWritten (callTexts env index values).2) (callTexts env index values).1
      values := by
  induction values generalizing env index with
  | nil => exact .nil
  | cons v rest ih =>
    unfold callTexts
    split
    · next text htext => exact .cons (.inl htext) (ih env (index + 1))
    · refine .cons (.inr ⟨index, rfl, ?_⟩) (ih _ (index + 1))
      -- the names that follow have larger numbers
      have hname : ∀ i, index + 1 ≤ i → argumentName index ≠ argumentName i := by
        intro i hi heq
        exact absurd (argumentName_injective heq) (by omega)
      exact (get?_callTexts hname).trans (Environment.get?_set_self _ _ _)

/-- What is written for a value has the value, with or without white space before it. -/
theorem IsWritten.answers {text blanks : String} (h : IsWritten env text v)
    (hv : v ≠ .int Int64.minValue) (hblanks : ∀ b ∈ blanks.toList, Text.isBlank b = true)
    (hplain : Brackets.IsPlain blanks) (hP : ∀ index, P (argumentName index)) :
    Answers P env (blanks ++ text) v := by
  rcases h with hliteral | ⟨index, rfl, hget⟩
  · refine ⟨hplain.append (isPlain_literal hliteral), fun ctx _ s _ => ?_⟩
    exact Expr.evalText_literal hblanks hliteral hv
  · refine ⟨hplain.append (isPlain_argumentName index), fun ctx hctx s hs => ?_⟩
    rw [Expr.evalText_of_parse (Expr.parse_argumentName hblanks index)]
    exact Expr.eval_var hctx ((hs _ (hP index)).symm.trans hget)

theorem forall₂_answers {texts : List String} {values : List Value} {blanks : String}
    (h : List.Forall₂ (IsWritten env) texts values)
    (hvalues : ∀ v ∈ values, v ≠ .int Int64.minValue)
    (hblanks : ∀ b ∈ blanks.toList, Text.isBlank b = true) (hplain : Brackets.IsPlain blanks)
    (hP : ∀ index, P (argumentName index)) :
    List.Forall₂ (Answers P env) (texts.map fun text => blanks ++ text) values := by
  rw [List.forall₂_map_left_iff]
  induction h with
  | nil => exact .nil
  | cons htext _ ih =>
    obtain ⟨hv, hvs⟩ := List.forall_mem_cons.mp hvalues
    exact .cons (htext.answers hv hblanks hplain hP) (ih hvs)

theorem IsWritten.isPlain {text : String} (h : IsWritten env text v) : Brackets.IsPlain text := by
  rcases h with hliteral | ⟨index, rfl, -⟩
  · exact isPlain_literal hliteral
  · exact isPlain_argumentName index

/-- The text that is written for values is cut into the texts of the values again. All but the first
have the space of the separator before them. -/
theorem arguments_callText (env : Environment) {values : List Value} (hne : values ≠ []) :
    ∃ text texts, (callTexts env 0 values).1 = text :: texts ∧
      Brackets.arguments (callText env values).1 =
        text :: texts.map fun text => " " ++ text := by
  have hwritten := forall₂_isWritten_callTexts env 0 values
  simp only [callText]
  generalize callTexts env 0 values = written at hwritten ⊢
  obtain ⟨texts, env'⟩ := written
  cases hwritten with
  | nil => exact absurd rfl hne
  | @cons text v texts values htext htexts =>
    have hplain : ∀ piece ∈ text :: texts.map fun text => " " ++ text, Brackets.IsPlain piece := by
      refine List.forall_mem_cons.mpr ⟨htext.isPlain, List.forall_mem_map.mpr ?_⟩
      have htexts := ((List.forall₂_and_left _ _).mp (htexts.imp fun _ _ h => ⟨h.isPlain, h⟩)).1
      exact fun text h => Brackets.IsPlain.append (by decide) (htexts text h)
    refine ⟨text, texts, rfl, ?_⟩
    exact (congrArg Brackets.arguments (Text.joinWith_append "," " " text texts)).trans
      (Brackets.arguments_joinWith_of_isPlain (List.cons_ne_nil _ _) hplain)

/-- The arguments of the text that is written for values have these values. -/
theorem forall₂_answers_callText (env : Environment) {values : List Value} (hne : values ≠ [])
    (hvalues : ∀ v ∈ values, v ≠ .int Int64.minValue) (hP : ∀ index, P (argumentName index)) :
    List.Forall₂ (Answers P (callText env values).2) (Brackets.arguments (callText env values).1)
      values := by
  have hwritten := forall₂_isWritten_callTexts env 0 values
  obtain ⟨text, texts, hsplit, harguments⟩ := arguments_callText env hne
  rw [hsplit] at hwritten
  rw [harguments]
  cases hwritten with
  | @cons _ v _ values htext htexts =>
    obtain ⟨hv, hvs⟩ := List.forall_mem_cons.mp hvalues
    have hfirst : Answers P (callTexts env 0 (v :: values)).2 ("" ++ text) v :=
      htext.answers hv (by simp) (by decide) hP
    rw [String.empty_append] at hfirst
    exact .cons hfirst (forall₂_answers htexts hvs (List.all_eq_true.mp (by decide)) (by decide) hP)

/-! ### A line made of one span -/

/-- A line of one span comes to what the span comes to. -/
theorem SpanEvaluates.evaluates {line span : String} {o : Outcome}
    (h : SpanEvaluates host span s o t) (hspans : Brackets.spans line = [span]) :
    Evaluates host line s (Outcome.ofSpans [o]) (o.keep t) := by
  refine RunsSpans.evaluates ?_
  rw [hspans]
  cases hreport : o.report? with
  | none => exact .cons h hreport (.nil _)
  | some tree =>
    obtain rfl := Outcome.report?_eq_some_iff.mp hreport
    exact .report h

theorem Alike.keep (h : Alike s t) (o : Outcome) : Alike (o.keep s) (o.keep t) := by
  rcases o with error | v
  · exact h
  · cases v with
    | error | report | pass => exact h
    | _ => exact h.assign valueName _

end Session

/-! ### Names of built-ins -/

namespace Builtin

theorem name_ne_empty (b : Builtin) : b.name ≠ "" := by cases b <;> decide

theorem trim_name (b : Builtin) : Text.trim b.name = b.name := by cases b <;> decide

theorem paren_not_mem_name (b : Builtin) : '(' ∉ b.name.toList := by cases b <;> decide

theorem isInner_name (b : Builtin) : Brackets.IsInner b.name.toList := by cases b <;> decide

end Builtin

/-- A call of a built-in in brackets comes to what the built-in comes to. -/
theorem Session.spanEvaluates_bracketed {host : Host} {s t : Session} {b : Builtin} {raw : String}
    {o : Outcome} (hraw : Brackets.IsInner raw.toList)
    (h : Dispatches host b.name raw (s.withArguments raw) o t) :
    SpanEvaluates host ("[" ++ b.name ++ "(" ++ raw ++ ")]") s o t := by
  have hbracket : ("[" ++ b.name ++ "(" ++ raw ++ ")]").toList.any Brackets.isBracket = true := by
    rw [Call.toList_bracketed]
    rfl
  have hcall := Call.parse_bracketed b.isInner_name hraw b.name_ne_empty b.trim_name
    b.paren_not_mem_name
  exact (spanEvaluates_iff_dispatches hbracket hcall).mpr h

/-- A line that is such a call is made of this call alone. -/
theorem Session.isCall_bracketed {b : Builtin} {raw : String}
    (hraw : Brackets.IsInner raw.toList) :
    IsCall ("[" ++ b.name ++ "(" ++ raw ++ ")]") b.name raw := by
  refine ⟨_, Call.spans_bracketed b.isInner_name hraw, ?_,
    Call.parse_bracketed b.isInner_name hraw b.name_ne_empty b.trim_name b.paren_not_mem_name⟩
  rw [Call.toList_bracketed]
  rfl

/-- A line that is such a call comes to what the call comes to. -/
theorem Session.evaluates_bracketed {host : Host} {s t : Session} {b : Builtin} {raw : String}
    {o : Outcome} (hraw : Brackets.IsInner raw.toList)
    (h : Dispatches host b.name raw (s.withArguments raw) o t) :
    Evaluates host ("[" ++ b.name ++ "(" ++ raw ++ ")]") s (Outcome.ofSpans [o]) (o.keep t) :=
  (spanEvaluates_bracketed hraw h).evaluates (Call.spans_bracketed b.isInner_name hraw)

/-! ### Calls in brackets and in expressions -/

namespace Session

open Environment (AgreesOn IsCallName)

variable {host : Host} {s t : Session}

/-- The variables that arguments may read: all but the most recent value and the names that calls
assign. -/
def IsReadable (name : String) : Prop := name ≠ valueName ∧ ¬ IsCallName name

/-- An argument of a call: a plain text, the expression that it is, and the value that this has in
the session. -/
structure Argument (host : Host) (s : Session) where
  source : String
  expr : Expr
  value : Value
  isPlain : Brackets.IsPlain source
  parse : Expr.parse source = .ok expr
  readsOnly : expr.ReadsOnly IsReadable
  eval : ∃ limit t, Expr.eval (sessionContext host (evaluator host limit) limit) expr s =
    some (.ok value, t)
  isArgument : value.IsArgument

namespace Argument

theorem yields (a : Argument host s) {ctx : Context Session} (hctx : ctx.lookup = Action.lookup) :
    Script.Yields (fun t => s.env.AgreesOn IsReadable t.env) (Expr.eval ctx a.expr)
      (.ok a.value) := by
  obtain ⟨limit, t, heval⟩ := a.eval
  exact a.readsOnly.yields rfl heval hctx

theorem answers (a : Argument host s) : Answers IsReadable s.env a.source a.value where
  isPlain := a.isPlain
  yields _ hctx t ht := (Expr.evalText_of_parse a.parse).trans (a.yields hctx t ht)

/-- The text of the arguments of a call. -/
def raw (arguments : List (Argument host s)) : String :=
  Text.joinWith "," (arguments.map Argument.source)

variable {arguments : List (Argument host s)}

theorem isPlain_sources (arguments : List (Argument host s)) :
    ∀ source ∈ arguments.map Argument.source, Brackets.IsPlain source :=
  List.forall_mem_map.mpr fun a _ => a.isPlain

theorem isInner_raw (arguments : List (Argument host s)) :
    Brackets.IsInner (raw arguments).toList :=
  Brackets.isInner_joinWith (isPlain_sources arguments)

theorem arguments_raw (hne : arguments ≠ []) :
    Brackets.arguments (raw arguments) = arguments.map Argument.source :=
  Brackets.arguments_joinWith_of_isPlain (by simpa using hne) (isPlain_sources arguments)

/-- The arguments of the argument text have their values. -/
theorem forall₂_answers_raw (hne : arguments ≠ []) :
    List.Forall₂ (Answers IsReadable s.env) (Brackets.arguments (raw arguments))
      (arguments.map value) := by
  rw [arguments_raw hne, List.forall₂_map_left_iff, List.forall₂_map_right_iff, List.forall₂_same]
  exact fun a _ => a.answers

theorem any_isBracket_call (b : Builtin) (arguments : List (Argument host s)) :
    (b.name ++ "(" ++ raw arguments ++ ")").toList.any Brackets.isBracket = false := by
  have hname : b.name.toList.any Brackets.isBracket = false := by cases b <;> decide
  have hraw : (raw arguments).toList.any Brackets.isBracket = false :=
    Brackets.any_isBracket_joinWith (isPlain_sources arguments)
  rw [String.toList_append, String.toList_append, String.toList_append, List.any_append,
    List.any_append, List.any_append, hname, hraw]
  rfl

/-- The session in which a call with evaluated arguments is made. -/
def written (arguments : List (Argument host s)) : Session :=
  let (raw, env) := callText s.env (arguments.map value)
  { s with env := env.set paramsName (.str raw) }

/-- The sessions in which the two calls are made are prepared for the arguments. -/
theorem prepared (arguments : List (Argument host s)) :
    Prepared IsReadable (fun name => name ≠ valueName ∧ name ≠ paramsName) s.env
      (callText s.env (arguments.map value)).2 (s.withArguments (raw arguments))
      (written arguments) where
  output := rfl
  sent := rfl
  active := rfl
  env name hname := by
    have hparams : name ≠ paramsName := fun h => hname (.inl h)
    have hargument : ∀ i, 0 ≤ i → name ≠ argumentName i := fun i _ h => hname (.inr ⟨i, h⟩)
    exact (s.env.get?_set_of_ne _ hparams).trans
      ((get?_callTexts hargument).symm.trans (Environment.get?_set_of_ne _ _ hparams).symm)
  left := AgreesOn.set (fun _ _ => rfl) (fun h => h.2 (.inl rfl)) _
  right := AgreesOn.set (fun _ _ => rfl) (fun h => h.2 rfl) _

end Argument

/-- A call as an expression is made in the session in which its arguments have been written. -/
theorem dispatches_of_call {line name : String} {arguments : List (Argument host s)} {o : Outcome}
    (hbracket : line.toList.any Brackets.isBracket = false)
    (hparse : Expr.parse line = .ok (.call name (arguments.map Argument.expr)))
    (hcall : Dispatches host name (callText s.env (arguments.map Argument.value)).1
      (Argument.written arguments) o t) : SpanEvaluates host line s o t := by
  obtain ⟨limit, hlimit⟩ := hcall
  refine ⟨limit, ?_⟩
  have hvalues : List.Forall₂ (fun e v => Script.Yields (fun t => s.env.AgreesOn IsReadable t.env)
      (Expr.eval (sessionContext host (evaluator host limit) limit) e) (.ok v))
      (arguments.map Argument.expr) (arguments.map Argument.value) := by
    rw [List.forall₂_map_left_iff, List.forall₂_map_right_iff, List.forall₂_same]
    exact fun a _ => a.yields rfl
  rw [evalSpan, if_neg (Bool.eq_false_iff.mp hbracket), Expr.evalText_of_parse hparse, Expr.eval,
    Script.bind_of_ok (Expr.yields_evalAll hvalues s fun _ _ => rfl)]
  exact (callFunction_apply _ _ _ _ _ _).trans hlimit

/-- The two calls of the built-in, each with its own argument text, do the same. -/
theorem dispatches_alike {b : Builtin} (hb : b.isEager = true)
    {arguments : List (Argument host s)} (hne : arguments ≠ [])
    (hfield : b = .response → ∀ a, arguments = [a] → ¬ IsCallName a.value.display) : ∃ o t t',
    Dispatches host b.name (Argument.raw arguments) (s.withArguments (Argument.raw arguments)) o t ∧
    Dispatches host b.name (callText s.env (arguments.map Argument.value)).1
      (Argument.written arguments) o t' ∧
    Alike t t' := by
  have hvalues : ∀ v ∈ arguments.map Argument.value, v.IsArgument :=
    List.forall_mem_map.mpr fun a _ => a.isArgument
  have hwritten := forall₂_answers_callText s.env (by simpa using hne)
    (fun v hv => (hvalues v hv).ne_minValue)
    (P := fun name => name ≠ valueName ∧ name ≠ paramsName)
    fun i => ⟨argumentName_ne_valueName i, argumentName_ne_paramsName i⟩
  have hcouples := forall₂_couples (Argument.forall₂_answers_raw hne) hwritten (fun h => h.1 rfl)
    (fun h => h.1 rfl) host 0 fun v hv => ⟨hvalues v hv, hv⟩
  -- a field is looked up only if it is the only argument
  have hlookup : b = .response → (Brackets.arguments (Argument.raw arguments)).length = 1 →
      ∀ v ∈ arguments.map Argument.value, ¬ IsCallName v.display := by
    intro hresponse hone
    rw [Argument.arguments_raw hne, List.length_map] at hone
    obtain ⟨a, rfl⟩ := List.length_eq_one_iff.mp hone
    simpa using hfield hresponse a rfl
  obtain ⟨r, t, r', t', hrun, hrun', halike, hresult⟩ :=
    Builtin.run_couples hcouples (fun _ _ h => h.toAlike) host 1 hb hlookup _ _
      (Argument.prepared arguments)
  obtain rfl := hresult.eq
  refine ⟨r, t, t', ⟨1, ?_⟩, ⟨1, ?_⟩, halike⟩
  · rw [dispatch_name]
    exact hrun
  · rw [dispatch_name]
    exact hrun'

/-- A call does the same in brackets and as an expression. For a built-in that evaluates each of its
arguments once, and arguments without brackets, commas and calls that read neither the most recent
value nor the names that calls assign, both lines come to the same value or the same error, and
leave sessions that have printed and sent the same and that differ at most in the names that calls
assign. A field of a response must not have such a name, since it may be looked up as a variable. -/
theorem call_paths_agree {b : Builtin} (hb : b.isEager = true)
    {arguments : List (Argument host s)} (hne : arguments ≠ [])
    (hfield : b = .response → ∀ a, arguments = [a] → ¬ IsCallName a.value.display)
    (hparse : Expr.parse (b.name ++ "(" ++ Argument.raw arguments ++ ")") =
      .ok (.call b.name (arguments.map Argument.expr))) :
    ∃ outcome t t',
      Evaluates host ("[" ++ b.name ++ "(" ++ Argument.raw arguments ++ ")]") s outcome t ∧
      Evaluates host (b.name ++ "(" ++ Argument.raw arguments ++ ")") s outcome t' ∧
      Alike t t' := by
  obtain ⟨o, t, t', hdispatch, hdispatch', halike⟩ := dispatches_alike hb hne hfield
  have hraw := Argument.isInner_raw arguments
  have hbracket : ("[" ++ b.name ++ "(" ++ Argument.raw arguments ++ ")]").toList.any
      Brackets.isBracket = true := by
    rw [Call.toList_bracketed]
    rfl
  have hcall := Call.parse_bracketed b.isInner_name hraw b.name_ne_empty b.trim_name
    b.paren_not_mem_name
  have hspan : SpanEvaluates host ("[" ++ b.name ++ "(" ++ Argument.raw arguments ++ ")]") s o t :=
    (spanEvaluates_iff_dispatches hbracket hcall).mpr hdispatch
  have hplain := Argument.any_isBracket_call b arguments
  have hspan' : SpanEvaluates host (b.name ++ "(" ++ Argument.raw arguments ++ ")") s o t' :=
    dispatches_of_call hplain hparse hdispatch'
  -- what a span comes to is kept in the same way after both
  exact ⟨_, _, _, hspan.evaluates (Call.spans_bracketed b.isInner_name hraw),
    hspan'.evaluates (Brackets.spans_of_any_isBracket hplain), halike.keep o⟩

/-- A session with a text in which there are a comma and brackets, so that no literal is written for
it. -/
def separatedSession : Session := { env := Environment.empty.set "x" (.str "a,[b]") }

/-- A format, the text and a sum, as arguments in that session. -/
def separatedArguments : List (Argument (.ofFiles []) separatedSession) :=
  [⟨"\"%v %v\"", .str "%v %v", .str "%v %v", by decide,
      Expr.parse_eq_ok (show Token.scan _ = [.str "%v %v"] by decide +kernel) rfl, trivial,
      ⟨0, _, rfl⟩, trivial⟩,
    ⟨" x", .var "x", .str "a,[b]", by decide,
      Expr.parse_eq_ok (show Token.scan _ = [.ident "x"] by decide +kernel) rfl,
      ⟨by decide, Environment.not_isCallName (by decide)⟩, ⟨0, _, rfl⟩, trivial⟩,
    ⟨" 1 + 2", .binary .add (.int 1) (.int 2), .int 3, by decide,
      Expr.parse_eq_ok (show Token.scan _ = [.int 1, .plus, .int 2] by decide +kernel) rfl,
      ⟨trivial, trivial⟩, ⟨0, _, rfl⟩, show (3 : Int64) ≠ Int64.minValue by decide⟩]

/-- Both calls print the text, which one of them finds in a variable of its own. -/
theorem call_paths_agree_print_separated :
    separatedArguments ≠ [] ∧ Builtin.isEager .print = true ∧
      Expr.parse "PrintF(\"%v %v\", x, 1 + 2)" =
        .ok (.call "PrintF" (separatedArguments.map Argument.expr)) ∧
      ∃ outcome t t',
        Evaluates (.ofFiles []) "[PrintF(\"%v %v\", x, 1 + 2)]" separatedSession outcome t ∧
        Evaluates (.ofFiles []) "PrintF(\"%v %v\", x, 1 + 2)" separatedSession outcome t' ∧
        Alike t t' ∧ t'.output = #["a,[b] 3"] := by
  have hscan : Token.scan "PrintF(\"%v %v\", x, 1 + 2)" = [.ident "PrintF", .leftParen,
      .str "%v %v", .comma, .ident "x", .comma, .int 1, .plus, .int 2, .rightParen] := by
    decide +kernel
  have hparse : Expr.parse "PrintF(\"%v %v\", x, 1 + 2)" =
      .ok (.call "PrintF" (separatedArguments.map Argument.expr)) := Expr.parse_eq_ok hscan rfl
  have hraw : Argument.raw separatedArguments = "\"%v %v\", x, 1 + 2" := by decide +kernel
  have hfield : Builtin.print = .response → ∀ a, separatedArguments = [a] →
      ¬ IsCallName a.value.display := nofun
  have hagree := @call_paths_agree (.ofFiles []) separatedSession .print rfl separatedArguments
    (List.cons_ne_nil _ _) hfield (hraw ▸ hparse)
  rw [hraw] at hagree
  obtain ⟨outcome, t, t', hline, hline', halike⟩ := hagree
  -- the call in brackets is evaluated to see what is printed
  have htest : ((Session.eval (.ofFiles []) 2 "[PrintF(\"%v %v\", x, 1 + 2)]"
      separatedSession).any fun r => r.2.output == #["a,[b] 3"]) = true := by
    decide +kernel
  obtain ⟨_, u, hline₂, houtput⟩ := evaluates_of_any htest
  obtain ⟨-, rfl⟩ := hline.unique hline₂
  have hprinted : t.output = #["a,[b] 3"] := by simpa using houtput
  exact ⟨List.cons_ne_nil _ _, rfl, hparse, outcome, t, t', hline, hline', halike,
    halike.output.symm.trans hprinted⟩

end Session

end BracketScript
