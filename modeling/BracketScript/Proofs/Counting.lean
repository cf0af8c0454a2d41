import BracketScript.Proofs.CallPaths
import BracketScript.Proofs.Comparison

/-!
# Counting loops

A line that sets a counter to one integer and counts it up to another in a loop, printing it in each
round, prints exactly the integers from the first one on that are below the second. Condition and
body are taken apart and evaluated again in each round, in the session that the round before has
left. One round prints the counter and increases it, and nothing else is touched but the names that
lines and calls assign.

## Main definitions

* `Session.Counting`: what a counting line changes
* `Session.countingLine`: a line that counts from one integer up to another

## Main results

* `Session.exists_evaluates_countingBody`: one round of the loop
* `Session.exists_rounds`: all rounds of the loop
* `Session.counting_exact`: what a counting line comes to
-/

namespace BracketScript

/-! ### Calls that read the counter -/

section Calls

variable {e : Evaluator} {s t u : Session} {raw source format : String} {n : Int64}

/-- Setting the counter to the integer that a text comes to. -/
theorem runSet_counter (h : Brackets.arguments raw = ["i", source, " int"])
    (hsource : e.line source s = some (.ok (.int n), t)) :
    runSet e raw s = some (.ok .pass, { t with env := t.env.set "i" (.int n) }) := by
  have hname : bareName "i" = "i" := by decide
  have htype : bareName " int" = "int" := by decide
  have hinteger : e.integer source s = some (.ok n, t) := by
    rw [Evaluator.integer, Script.bind_of_ok hsource]
    exact Script.liftExcept_apply _ t
  rw [runSet, h]
  simp only [List.getLast_singleton, hname, htype]
  rw [if_neg (by decide), if_pos trivial]
  exact Script.bind_of_ok hinteger

/-- Printing the integer that a text comes to. -/
theorem runPrint_counter (h : Brackets.arguments raw = [format, source])
    (hformat : e.line format s = some (.ok (.str "%v"), t))
    (hsource : e.line source t = some (.ok (.int n), u)) :
    runPrint e raw s =
      some (.ok .pass, { u with output := u.output.push (Value.intText n) }) := by
  have htexts : evalTexts e [format, source] s = some (.ok ["%v", Value.intText n], u) := by
    rw [evalTexts, Script.bind_of_ok (Evaluator.text_of_line hformat rfl), evalTexts,
      bind_assoc, Script.bind_of_ok (Evaluator.text_of_line hsource rfl)]
    rfl
  have hfill : Placeholders.fill "%v" [Value.intText n] = Value.intText n := by
    simp [Placeholders.fill, Placeholders.fillChars, Placeholders.isVerb]
  rw [runPrint, h, Script.bind_of_ok htexts]
  dsimp only
  rw [hfill]
  rfl

end Calls

/-! ### Texts that read the counter -/

theorem Value.compare_int (m n : Int64) :
    (compare (.int m) (.int n) == .lt) = decide (m < n) := by
  rw [compare_of_integers rfl rfl, Bool.eq_iff_iff, beq_iff_eq, compareInt_eq_lt_iff,
    decide_eq_true_iff]

namespace Session

open Environment (AgreesOn)

variable {P : String → Prop} {env : Environment} {source : String} {k b : Int64}

theorem answers_format : Answers P env "\"%v\"" (.str "%v") := by
  have hquote : Answers P env ("" ++ Token.quote "%v") (.str "%v") :=
    answers_quote (by simp) (by decide)
  exact hquote

theorem answers_intText (hk : k ≠ Int64.minValue) :
    Answers P env (" " ++ Value.intText k) (.int k) := by
  refine ⟨Brackets.IsPlain.append (by decide) (isPlain_intText k.toInt), fun _ _ _ _ => ?_⟩
  exact Expr.evalText_intText (List.all_eq_true.mp (by decide)) hk

section Counter

variable (hcounter : env.get? "i" = some (.int k))
include hcounter

theorem answers_counter : Answers (· = "i") env " i" (.int k) := by
  have hscan : Token.scan " i" = [.ident "i"] := by decide +kernel
  exact answers_var (by decide) (Expr.parse_eq_ok hscan rfl) hcounter

theorem answers_next : Answers (· = "i") env " i + 1" (.int (k + 1)) := by
  have hscan : Token.scan " i + 1" = [.ident "i", .plus, .int 1] := by decide +kernel
  have hparse : Expr.parse " i + 1" = .ok (.binary .add (.var "i") (.int 1)) :=
    Expr.parse_eq_ok hscan rfl
  refine answers_of_parse (by decide) hparse fun ctx hctx s hs => ?_
  have hvalue := Expr.yields_var hctx hcounter s hs
  exact (Expr.eval_binary (by decide) (by decide) hvalue rfl).trans rfl

/-- The condition of the loop. -/
theorem answers_below (hb : b ≠ Int64.minValue) :
    Answers (· = "i") env ("(i < " ++ Value.intText b ++ ")") (.bool (k < b)) := by
  have hplain : Brackets.IsPlain ("(i < " ++ Value.intText b ++ ")") :=
    Brackets.IsPlain.append (Brackets.IsPlain.append (by decide) (isPlain_intText b.toInt))
      (by decide)
  have hscan : Token.scan ("(i < " ++ Value.intText b ++ ")") =
      [.leftParen, .ident "i", .less] ++ Token.ofInt b.toInt ++ [.rightParen] := by
    have hchars : ("(i < " ++ Value.intText b ++ ")").toList =
        '(' :: 'i' :: ([' '] ++ '<' :: ([' '] ++ ((Value.intText b).toList ++ [')']))) := by simp
    have hblank : ∀ c ∈ [' '], Text.isBlank c = true := List.all_eq_true.mp (by decide)
    have hclose : ∀ c ∈ [')'].head?, Text.isAsciiDigit c = false := by
      intro c hc
      obtain rfl := Option.some.inj hc
      decide
    have hopen (cs : List Char) : Token.next '(' cs = (.leftParen, cs) := rfl
    have hname (cs : List Char) : Token.next 'i' ([' '] ++ cs) = (.ident "i", [' '] ++ cs) := rfl
    have hless (cs : List Char) : Token.next '<' ([' '] ++ cs) = (.less, [' '] ++ cs) := rfl
    rw [Token.scan, hchars, Token.scanChars_cons (by decide), hopen,
      Token.scanChars_cons (by decide), hname, Token.scanChars_append hblank (by decide), hless,
      Token.scanChars_intText hb hblank hclose]
    rfl
  have hparse : Expr.parse ("(i < " ++ Value.intText b ++ ")") =
      .ok (.binary .lt (.var "i") (.ofInt b.toInt)) :=
    Expr.parse_eq_ok hscan (by cases b.toInt <;> rfl)
  refine answers_of_parse hplain hparse fun ctx hctx s hs => ?_
  refine (Expr.eval_binary (by decide) (by decide) (Expr.yields_var hctx hcounter s hs)
    (Expr.eval_ofInt b)).trans ?_
  rw [BinaryOp.apply, Value.compare_int]

end Counter

/-! ### Sessions that only count -/

variable {host : Host} {s t u : Session} {printed : List String} {n : Int64}

/-- What a counting line changes: the lines are printed, and the counter and the two names that
lines and calls assign may have other values. -/
structure Counting (s t : Session) (printed : List String) : Prop where
  output : t.output.toList = s.output.toList ++ printed
  sent : t.sent = s.sent
  active : t.active = s.active
  env : ∀ name, name ≠ "i" → name ≠ paramsName → name ≠ valueName →
    t.env.get? name = s.env.get? name

namespace Counting

theorem refl (s : Session) : Counting s s [] :=
  ⟨(List.append_nil _).symm, rfl, rfl, fun _ _ _ _ => rfl⟩

theorem assign (h : Counting s t printed) {name : String}
    (hname : name = "i" ∨ name = paramsName ∨ name = valueName) (v : Value) :
    Counting s { t with env := t.env.set name v } printed where
  output := h.output
  sent := h.sent
  active := h.active
  env other hi hparams hvalue := by
    have hne : other ≠ name := by
      rcases hname with rfl | rfl | rfl
      · exact hi
      · exact hparams
      · exact hvalue
    exact (Environment.get?_set_of_ne _ v hne).trans (h.env other hi hparams hvalue)

theorem print (h : Counting s t printed) (line : String) :
    Counting s { t with output := t.output.push line } (printed ++ [line]) where
  output := by
    rw [Array.toList_push, h.output, List.append_assoc]
  sent := h.sent
  active := h.active
  env := h.env

end Counting

/-! ### One round -/

/-- The arguments of a call that sets the counter. -/
theorem arguments_counter (hplain : Brackets.IsPlain source) :
    Brackets.arguments ("i," ++ source ++ ", int") = ["i", source, " int"] ∧
      Brackets.IsInner ("i," ++ source ++ ", int").toList := by
  have htext : Text.joinWith "," ["i", source, " int"] = "i," ++ source ++ ", int" := by
    apply String.toList_injective
    simp [Text.joinWith]
  have hplains : ∀ text ∈ ["i", source, " int"], Brackets.IsPlain text :=
    List.forall_mem_cons.mpr ⟨by decide, List.forall_mem_cons.mpr ⟨hplain, by decide⟩⟩
  rw [← htext]
  exact ⟨Brackets.arguments_joinWith_of_isPlain (List.cons_ne_nil _ _) hplains,
    Brackets.isInner_joinWith hplains⟩

/-- A call that sets the counter to the integer that a text comes to. -/
theorem exists_spanEvaluates_set (host : Host) (hplain : Brackets.IsPlain source)
    (hsource : ∀ env : Environment, env.get? "i" = s.env.get? "i" →
      Answers (· = "i") env source (.int n)) :
    ∃ t, SpanEvaluates host
        ("[" ++ Builtin.set.name ++ "(" ++ ("i," ++ source ++ ", int") ++ ")]") s (.ok .pass) t ∧
      t.env.get? "i" = some (.int n) ∧
      ∀ s₀ printed, Counting s₀ s printed → Counting s₀ t printed := by
  obtain ⟨harguments, hinner⟩ := arguments_counter hplain
  have hline := (hsource (s.withArguments ("i," ++ source ++ ", int")).env
    (s.env.get?_set_of_ne _ (by decide))).line_self rfl host
  have hset := runSet_counter harguments hline
  refine ⟨_, spanEvaluates_bracketed hinner ⟨1, hset⟩, ?_, fun s₀ printed h => ?_⟩
  · exact Environment.get?_set_self _ _ _
  · exact ((h.assign (.inr (.inl rfl)) _).assign (.inr (.inr rfl)) _).assign (.inl rfl) _

/-- The call that prints the counter. -/
theorem exists_spanEvaluates_print (host : Host) (hcounter : s.env.get? "i" = some (.int n)) :
    ∃ t, SpanEvaluates host " [PrintF(\"%v\", i)]" s (.ok .pass) t ∧
      t.env.get? "i" = some (.int n) ∧
      ∀ s₀ printed, Counting s₀ s printed → Counting s₀ t (printed ++ [Value.intText n]) := by
  have hparse : Call.ofChars? " [PrintF(\"%v\", i)]".toList =
      some ("PrintF".toList, "\"%v\", i".toList) := by decide +kernel
  have hcall : Call.parse " [PrintF(\"%v\", i)]" = .ok ⟨"PrintF", "\"%v\", i"⟩ := by
    rw [Call.parse, hparse]
    simp
  have harguments : Brackets.arguments "\"%v\", i" = ["\"%v\"", " i"] := by decide +kernel
  -- neither the argument text nor the format, which is kept as a value, is the counter
  have hcalled : (s.withArguments "\"%v\", i").env.get? "i" = some (.int n) :=
    (s.env.get?_set_of_ne _ (by decide)).trans hcounter
  have hkept := (Environment.get?_set_of_ne _ (.str "%v")
    (show "i" ≠ valueName by decide)).trans hcalled
  have hformat : (evaluator host 1).line "\"%v\"" (s.withArguments "\"%v\", i") = _ :=
    (answers_format : Answers (· = "i") _ _ _).line_self rfl host
  have hsource : (evaluator host 1).line " i" (Outcome.keep _ (.ok (.str "%v"))) = _ :=
    (answers_counter hkept).line_self rfl host
  have hprint := runPrint_counter harguments hformat hsource
  refine ⟨_, (spanEvaluates_iff_dispatches (by decide) hcall).mpr ⟨1, hprint⟩, ?_,
    fun s₀ printed h => ?_⟩
  · exact (Environment.get?_set_of_ne _ _ (by decide)).trans hkept
  · exact (((h.assign (.inr (.inl rfl)) _).assign (.inr (.inr rfl)) _).assign
      (.inr (.inr rfl)) _).print _

/-- The condition of a loop that counts up to `b`. -/
def counterBelow (b : Int64) : String := "(i < " ++ Value.intText b ++ ")"

/-- The body of a counting loop. -/
def countingBody : String := " [PrintF(\"%v\", i)][Set(i, i + 1, int)]"

theorem evaluates_counterBelow (host : Host) (hcounter : s.env.get? "i" = some (.int k))
    (hb : b ≠ Int64.minValue) : Evaluates host (counterBelow b) s (.ok (.bool (k < b)))
      (Outcome.keep s (.ok (.bool (k < b)))) :=
  ⟨1, (answers_below hcounter hb).line_self rfl host⟩

/-- The body prints the counter and increases it. -/
theorem exists_evaluates_countingBody (host : Host) (hcounter : s.env.get? "i" = some (.int k)) :
    ∃ t, Evaluates host countingBody s (.ok .pass) t ∧ t.env.get? "i" = some (.int (k + 1)) ∧
      ∀ s₀ printed, Counting s₀ s printed → Counting s₀ t (printed ++ [Value.intText k]) := by
  have hspans : Brackets.spans countingBody =
      [" [PrintF(\"%v\", i)]",
        "[" ++ Builtin.set.name ++ "(" ++ ("i," ++ " i + 1" ++ ", int") ++ ")]"] := by
    decide +kernel
  obtain ⟨t, hprint, ht, hprinted⟩ := exists_spanEvaluates_print host hcounter
  obtain ⟨u, hset, hu, hcounted⟩ := exists_spanEvaluates_set (s := t) host
    (show Brackets.IsPlain " i + 1" by decide) fun env henv => answers_next (henv.trans ht)
  have hrun : RunsSpans host s (Brackets.spans countingBody) [.ok .pass, .ok .pass] u := by
    rw [hspans]
    exact .cons hprint rfl (.cons hset rfl (.nil _))
  exact ⟨u, hrun.evaluates, hu, fun s₀ printed h => hcounted _ _ (hprinted _ _ h)⟩

/-! ### All rounds -/

/-- Below another integer there is no overflow. -/
theorem toInt_add_one (h : k < b) : (k + 1).toInt = k.toInt + 1 := by
  -- what is below another integer is not the greatest one
  have hlt := Int64.lt_iff_toInt_lt.mp h
  have hlower := k.le_toInt
  have hupper := b.toInt_lt
  rw [Int64.toInt_add, show (1 : Int64).toInt = 1 from rfl]
  exact Int.bmod_eq_of_le (by omega) (by omega)

theorem toInt_max (k b : Int64) : (max k b).toInt = max k.toInt b.toInt := by
  rw [show max k b = if k ≤ b then b else k from rfl]
  split
  next hle =>
    have := Int64.le_iff_toInt_le.mp hle
    omega
  next hle =>
    have := mt Int64.le_iff_toInt_le.mpr hle
    omega

/-- The decimal texts of `count` integers, from `first` on. -/
def decimalsFrom (first : Int) (count : Nat) : List String :=
  (List.range count).map fun index : Nat => Text.intText (first + index)

theorem decimalsFrom_succ (first : Int) (count : Nat) :
    decimalsFrom first (count + 1) = Text.intText first :: decimalsFrom (first + 1) count := by
  have hnext (index : Nat) : first + (index.succ : Nat) = first + 1 + index := by
    push_cast
    omega
  rw [decimalsFrom, List.range_succ_eq_map, List.map_cons, List.map_map, Int.natCast_zero,
    Int.add_zero]
  simp only [decimalsFrom, Function.comp_def, hnext]

/-- The rounds of a loop that counts up to `b` print what is below, and leave the counter where it
is no longer below. -/
theorem exists_rounds (host : Host) (hb : b ≠ Int64.minValue) {count : Nat}
    (hcount : (b.toInt - k.toInt).toNat = count) (hcounter : s.env.get? "i" = some (.int k)) :
    ∃ vs t, Rounds host (counterBelow b) countingBody s vs t ∧
      t.env.get? "i" = some (.int (max k b)) ∧
      ∀ s₀ printed, Counting s₀ s printed →
        Counting s₀ t (printed ++ decimalsFrom k.toInt count) := by
  -- on the distance to the bound; each round starts in the session that the one before has left
  induction count generalizing k s with
  | zero =>
    -- the counter is not below the bound, and there is no round
    have hmax : max k b = k := by
      rw [← Int64.toInt_inj, toInt_max]
      omega
    refine ⟨[], s, .nil s, hmax.symm ▸ hcounter, fun s₀ printed h => ?_⟩
    rwa [show decimalsFrom k.toInt 0 = [] from rfl, List.append_nil]
  | succ count ih =>
    have hlt : k < b := Int64.lt_iff_toInt_lt.mpr (by omega)
    have hnext := toInt_add_one hlt
    have hcondition := evaluates_counterBelow host hcounter hb
    have hkept : (Outcome.keep s (.ok (.bool (k < b)))).env.get? "i" = some (.int k) :=
      (s.env.get?_set_of_ne _ (by decide)).trans hcounter
    obtain ⟨u, hbody, hu, hprinted⟩ := exists_evaluates_countingBody host hkept
    obtain ⟨vs, t, hrounds, ht, hcounted⟩ := ih (by omega) hu
    have hmax : max (k + 1) b = max k b := by
      rw [← Int64.toInt_inj, toInt_max, toInt_max]
      omega
    refine ⟨_, t, .cons hcondition ?_ hbody hrounds, hmax ▸ ht, fun s₀ printed h => ?_⟩
    · rw [decide_eq_true hlt]
      rfl
    · have hround := hcounted _ _ (hprinted _ _ (h.assign (.inr (.inr rfl)) _))
      rw [hnext, List.append_assoc] at hround
      rw [decimalsFrom_succ]
      exact hround

/-! ### The line -/

/-- A line that sets a counter to `a` and counts it up to `b`. -/
def countingLine (a b : Int64) : String :=
  "[Set(i, " ++ Value.intText a ++ ", int)][For((i < " ++ Value.intText b ++
    "), [PrintF(\"%v\", i)][Set(i, i + 1, int)])]"

theorem isPlain_counterBelow (b : Int64) : Brackets.IsPlain (counterBelow b) :=
  Brackets.IsPlain.append (Brackets.IsPlain.append (by decide) (isPlain_intText b.toInt))
    (by decide)

/-- The arguments of the loop of a counting line. -/
theorem arguments_loop (b : Int64) :
    Brackets.arguments (counterBelow b ++ "," ++ countingBody) = [counterBelow b, countingBody] ∧
      Brackets.IsInner (counterBelow b ++ "," ++ countingBody).toList := by
  have hplain := isPlain_counterBelow b
  have hchars : (counterBelow b ++ "," ++ countingBody).toList =
      (counterBelow b).toList ++ ',' :: countingBody.toList := by simp
  have hbody : Brackets.argumentsOf countingBody.toList = [countingBody.toList] := by decide +kernel
  have hinner : Brackets.IsInner (',' :: countingBody.toList) := by decide +kernel
  rw [Brackets.arguments, hchars, hplain.undivided.argumentsOf_append hplain.isInner.closed, hbody]
  refine ⟨?_, hplain.isInner.append hinner⟩
  simp only [List.map_cons, List.map_nil, String.ofList_toList]

/-- The loop of a counting line. -/
theorem exists_spanEvaluates_loop (host : Host) (hb : b ≠ Int64.minValue)
    (hcounter : s.env.get? "i" = some (.int k)) :
    ∃ t, SpanEvaluates host
        ("[" ++ Builtin.loop.name ++ "(" ++ (counterBelow b ++ "," ++ countingBody) ++ ")]") s
        (.ok .pass) t ∧
      t.env.get? "i" = some (.int (max k b)) ∧
      ∀ s₀ printed, Counting s₀ s printed →
        Counting s₀ t (printed ++ decimalsFrom k.toInt (b.toInt - k.toInt).toNat) := by
  obtain ⟨harguments, hinner⟩ := arguments_loop b
  have hcalled : (s.withArguments (counterBelow b ++ "," ++ countingBody)).env.get? "i" =
      some (.int k) := (s.env.get?_set_of_ne _ (by decide)).trans hcounter
  obtain ⟨vs, t, hrounds, ht, hcounted⟩ := exists_rounds host hb rfl hcalled
  -- the counter has become the larger one of the two, so the condition fails once
  have hend := evaluates_counterBelow host ht hb
  have hfalse : ¬ max k b < b := by
    rw [Int64.lt_iff_toInt_lt, toInt_max]
    omega
  rw [decide_eq_false hfalse] at hend
  have hloop := (dispatches_loop_pass_iff harguments).mpr
    (loopsTo_ok_iff.mpr ⟨vs, t, _, hrounds, hend, rfl⟩)
  refine ⟨_, spanEvaluates_bracketed hinner hloop, ?_, fun s₀ printed h => ?_⟩
  · exact (Environment.get?_set_of_ne _ _ (by decide)).trans ht
  · exact (hcounted _ _ (h.assign (.inr (.inl rfl)) _)).assign (.inr (.inr rfl)) _

theorem spans_countingLine (a b : Int64) : Brackets.spans (countingLine a b) =
    ["[" ++ Builtin.set.name ++ "(" ++ ("i," ++ (" " ++ Value.intText a) ++ ", int") ++ ")]",
      "[" ++ Builtin.loop.name ++ "(" ++ (counterBelow b ++ "," ++ countingBody) ++ ")]"] := by
  have hline : countingLine a b =
      "[" ++ Builtin.set.name ++ "(" ++ ("i," ++ (" " ++ Value.intText a) ++ ", int") ++ ")]" ++
        ("[" ++ Builtin.loop.name ++ "(" ++ (counterBelow b ++ "," ++ countingBody) ++ ")]") := by
    apply String.toList_injective
    simp [countingLine, counterBelow, countingBody, Builtin.name]
  have hplain : Brackets.IsPlain (" " ++ Value.intText a) :=
    Brackets.IsPlain.append (by decide) (isPlain_intText a.toInt)
  rw [hline]
  exact Call.spans_bracketed_append (Builtin.isInner_name _) (arguments_counter hplain).2
    (Builtin.isInner_name _) (arguments_loop b).2

/-- Counting is exact. Neither integer can be the least one, of which the text is not read back. -/
theorem counting_exact (host : Host) (s : Session) {a b : Int64} (ha : a ≠ Int64.minValue)
    (hb : b ≠ Int64.minValue) : ∃ t, Evaluates host (countingLine a b) s (.ok .pass) t ∧
      t.env.get? "i" = some (.int (max a b)) ∧
      Counting s t (decimalsFrom a.toInt (b.toInt - a.toInt).toNat) := by
  obtain ⟨t, hset, ht, hcounted⟩ := exists_spanEvaluates_set (s := s) host
    (Brackets.IsPlain.append (by decide) (isPlain_intText a.toInt)) fun _ _ => answers_intText ha
  obtain ⟨u, hloop, hu, hprinted⟩ := exists_spanEvaluates_loop host hb ht
  have hrun : RunsSpans host s (Brackets.spans (countingLine a b)) [.ok .pass, .ok .pass] u := by
    rw [spans_countingLine]
    exact .cons hset rfl (.cons hloop rfl (.nil _))
  exact ⟨u, hrun.evaluates, hu, hprinted _ _ (hcounted _ _ (.refl s))⟩

/-- Counting from below zero to above. -/
theorem counting_exact_through_zero :
    (-1 : Int64) ≠ Int64.minValue ∧ (2 : Int64) ≠ Int64.minValue ∧
    ∃ t, Evaluates (.ofFiles [])
        "[Set(i, -1, int)][For((i < 2), [PrintF(\"%v\", i)][Set(i, i + 1, int)])]" {}
        (.ok .pass) t ∧
      t.env.get? "i" = some (.int 2) ∧ t.output.toList = ["-1", "0", "1"] := by
  have hfirst : (-1 : Int64) ≠ Int64.minValue := by decide
  have hlast : (2 : Int64) ≠ Int64.minValue := by decide
  obtain ⟨t, hline, hcounter, hcounting⟩ := counting_exact (.ofFiles []) {} hfirst hlast
  have htext : countingLine (-1) 2 =
      "[Set(i, -1, int)][For((i < 2), [PrintF(\"%v\", i)][Set(i, i + 1, int)])]" := by
    decide +kernel
  have hprinted : decimalsFrom (-1 : Int64).toInt ((2 : Int64).toInt - (-1 : Int64).toInt).toNat =
      ["-1", "0", "1"] := by decide +kernel
  exact ⟨hfirst, hlast, t, htext ▸ hline, hcounter, hprinted ▸ hcounting.output⟩

end Session

end BracketScript
