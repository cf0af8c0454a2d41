import BracketScript.Proofs.CallPaths

/-!
# Assigning texts

A call that assigns a variable has the name, the value and the type as its arguments. Commas in the
value cut it into pieces, quotes around it or not, since quotes do not count for the scanner. The
pieces are put together again between the first and the last argument, so a text that is written as
a literal is assigned as it is, whatever commas, parentheses, quotes and backslashes are in it. Only
brackets are read before anything else.

## Main definitions

* `Session.assignment`: the argument text of a call that assigns a text
* `Session.assigned`: the session that such a call leaves

## Main results

* `runSet_string`: an assignment evaluates the pieces between the first and the last argument
* `Session.arguments_assignment`: the arguments of an assignment
* `Session.dispatches_assignment`: an assignment passes and assigns the text
* `Session.assigns_text`: a text is assigned as it is
-/

namespace BracketScript

/-- An assignment evaluates everything between the first and the last argument, with the commas that
it has been cut at. -/
theorem runSet_string {e : Evaluator} {s t : Session} {raw first last text : String}
    {pieces : List String} (harguments : Brackets.arguments raw = first :: (pieces ++ [last]))
    (hne : pieces ≠ []) (htype : bareName last = "string")
    (hvalue : e.text (Text.joinWith "," pieces) s = some (.ok text, t)) :
    runSet e raw s =
      some (.ok .pass, { t with env := t.env.set (bareName first) (.str text) }) := by
  obtain ⟨second, rest, rfl⟩ := List.exists_cons_of_ne_nil hne
  -- there are three arguments at least
  obtain ⟨third, others, hrest⟩ := List.exists_cons_of_ne_nil (List.concat_ne_nil last rest)
  have hmiddle : (third :: others).dropLast = rest := by
    rw [← hrest, List.dropLast_concat]
  have hlast : (third :: others).getLast (List.cons_ne_nil _ _) = last := by
    simp only [← hrest, List.getLast_concat]
  rw [List.cons_append, hrest] at harguments
  rw [runSet, harguments]
  simp only [hmiddle, hlast, htype, if_true]
  rw [Script.bind_of_ok hvalue]
  rfl

namespace Session

variable {host : Host} {s : Session}

/-- Quoting a text adds no bracket to it. -/
theorem quote_not_isBracket {text : String} (hopen : '[' ∉ text.toList)
    (hclose : ']' ∉ text.toList) :
    ∀ c ∈ (Token.quote text).toList, Brackets.isBracket c = false := by
  intro c hc
  rcases Token.mem_quote hc with hc | rfl | rfl | rfl | rfl
  · have hne : c ≠ '[' ∧ c ≠ ']' := ⟨fun h => hopen (h ▸ hc), fun h => hclose (h ▸ hc)⟩
    simp [Brackets.isBracket, hne]
  all_goals rfl

/-- The first argument of an assignment is the name and the last one is the type. The value between
them may have been cut, but it is there as a whole. -/
theorem arguments_assignment (x : Identifier) {value type : String}
    (hvalue : Brackets.IsInner value.toList) (htype : Brackets.IsPlain type) :
    Brackets.arguments (x.text ++ "," ++ value ++ "," ++ type) =
        x.text :: (Brackets.arguments value ++ [type]) ∧
      Brackets.IsInner (x.text ++ "," ++ value ++ "," ++ type).toList := by
  have hcomma : Brackets.IsInner [','] := by decide
  have hchars : (x.text ++ "," ++ value ++ "," ++ type).toList =
      x.text.toList ++ ',' :: (value.toList ++ ',' :: type.toList) := by simp
  constructor
  · rw [Brackets.arguments, hchars,
      x.isPlain.undivided.argumentsOf_append x.isPlain.isInner.closed,
      Brackets.argumentsOf_append_comma hvalue.closed, htype.undivided.argumentsOf_eq,
      Brackets.arguments]
    simp
  · rw [hchars]
    exact x.isPlain.isInner.append (hcomma.append (hvalue.append (hcomma.append htype.isInner)))

/-- The argument text of a call that assigns a text, which is written as a literal. -/
def assignment (x : Identifier) (text : String) : String :=
  x.text ++ "," ++ (" " ++ Token.quote text) ++ "," ++ " string"

/-- The session that is left when a call has assigned a text: the value of a line is kept for the
literal, before the variable is assigned. -/
def assigned (s : Session) (x : Identifier) (text : String) : Session :=
  { s with
    env := ((s.withArguments (assignment x text)).env.set valueName (.str text)).set x.text
      (.str text) }

/-- An assignment of a text without brackets passes, and assigns the text. -/
theorem dispatches_assignment (host : Host) (s : Session) (x : Identifier) {text : String}
    (hopen : '[' ∉ text.toList) (hclose : ']' ∉ text.toList) :
    Brackets.IsInner (assignment x text).toList ∧
      Dispatches host Builtin.set.name (assignment x text) (s.withArguments (assignment x text))
        (.ok .pass) (s.assigned x text) := by
  have hblank : ∀ b ∈ " ".toList, Text.isBlank b = true := List.all_eq_true.mp (by decide)
  have hquote : ∀ c ∈ (" " ++ Token.quote text).toList, Brackets.isBracket c = false := by
    rw [String.toList_append]
    exact List.forall_mem_append.mpr
      ⟨by simp [Brackets.isBracket], quote_not_isBracket hopen hclose⟩
  obtain ⟨harguments, hinner⟩ := arguments_assignment x
    (Brackets.isInner_of_not_isBracket hquote) (show Brackets.IsPlain " string" by decide)
  -- the pieces that the value has been cut into are one literal again
  have hline : (evaluator host 1).line (" " ++ Token.quote text)
      (s.withArguments (assignment x text)) = _ := line_of_evalText
    (List.any_eq_false.mpr fun c hc => Bool.eq_false_iff.mp (hquote c hc))
    (Expr.evalText_of_parse (Expr.parse_quote hblank text))
  have htext := Evaluator.text_of_line hline rfl
  rw [← Brackets.joinWith_arguments (" " ++ Token.quote text)] at htext
  have hset := runSet_string harguments (Brackets.arguments_ne_nil _) (by decide) htext
  rw [x.bareName_eq] at hset
  exact ⟨hinner, 1, hset⟩

/-- A text without brackets that is assigned as a literal is the value of the variable from then on,
whatever else it holds. Apart from the variable, only the two names that lines and calls assign may
change. -/
theorem assigns_text (host : Host) (s : Session) (x : Identifier) {text : String}
    (hopen : '[' ∉ text.toList) (hclose : ']' ∉ text.toList) :
    ∃ env : Environment,
      Evaluates host ("[Set(" ++ x.text ++ ", " ++ Token.quote text ++ ", string)]") s (.ok .pass)
        { s with env } ∧
      env.get? x.text = some (.str text) ∧
      ∀ name, name ≠ x.text → name ≠ paramsName → name ≠ valueName →
        env.get? name = s.env.get? name := by
  obtain ⟨hinner, hcall⟩ := dispatches_assignment host s x hopen hclose
  have hsource : "[Set(" ++ x.text ++ ", " ++ Token.quote text ++ ", string)]" =
      "[" ++ Builtin.set.name ++ "(" ++ assignment x text ++ ")]" := by
    apply String.toList_injective
    simp [assignment, Builtin.name]
  rw [hsource]
  refine ⟨(s.assigned x text).env, evaluates_bracketed hinner hcall, ?_, ?_⟩
  · exact Environment.get?_set_self _ _ _
  · intro name hname hparams hvalue
    rw [assigned, Environment.get?_set_of_ne _ _ hname]
    exact (Environment.get?_set_of_ne _ _ hvalue).trans (Environment.get?_set_of_ne _ _ hparams)

/-- A text that looks like the end of the call is assigned like any other one. -/
theorem assigns_text_with_commas : ∃ env : Environment,
    Evaluates (.ofFiles []) "[Set(x, \"1, int)\\n # \\\"\\\\,\", string)]" {} (.ok .pass) { env } ∧
      env.get? "x" = some (.str "1, int)\n # \"\\,") := by
  let x : Identifier := ⟨"x", by decide, by decide⟩
  obtain ⟨env, heval, hx, -⟩ := assigns_text (.ofFiles []) {} x
    (show '[' ∉ "1, int)\n # \"\\,".toList by decide) (by decide)
  have hline : "[Set(" ++ x.text ++ ", " ++ Token.quote "1, int)\n # \"\\," ++ ", string)]" =
      "[Set(x, \"1, int)\\n # \\\"\\\\,\", string)]" := by
    decide +kernel
  rw [hline] at heval
  exact ⟨env, heval, hx⟩

end Session

end BracketScript
