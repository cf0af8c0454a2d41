import BracketScript.Proofs.CallPaths
import BracketScript.Proofs.TargetPath

/-!
# Integers written as texts

A text value that is the text of an integer is seen as this integer. As an expression, the text is
read back as the integer too, in any context, unless that is the least one. The sign is no part of a
literal: it negates what the digits after it stand for. The digits of the least integer exceed the
largest one, so they stand for a text, and since this text is no integer either, it cannot be
negated. A call in an expression passes its arguments on as text, so what is called in this way does
not get the least integer either.

## Main definitions

* `Expr.ofIntText`: what the text of an integer comes to

## Main results

* `Value.toInt?_intText`: the text of an integer as a value
* `Expr.evalText_intText_eq`: the value of the text of an integer, with white space before it
* `Session.getElem?_arguments_callText`: where an integer stands in the text of a call
* `Session.integer_read_back`: integers as texts, and as arguments of calls
-/

namespace BracketScript

/-! ### Integers as texts -/

namespace Text.Chars

/-- The text of an integer is read back. -/
theorem readInt?_ofInt {n : Int} (h : isInt64 n = true) : readInt? (ofInt n) = some n := by
  simp only [isInt64, Bool.and_eq_true, decide_eq_true_eq] at h
  cases n with
  | ofNat k => exact readInt?_ofNat (by simpa using h.2)
  | negSucc k =>
    have hk : k + 1 ≤ maxInt64 + 1 := by omega
    rw [ofInt, readInt?, readMagnitude_ofNat hk]
    rfl

/-- There is no white space in the text of an integer. -/
theorem isBlank_of_mem_ofInt {n : Int} {c : Char} (h : c ∈ ofInt n) : isBlank c = false := by
  cases n with
  | ofNat k => exact isBlank_of_isAsciiDigit (isAsciiDigit_of_mem_ofNat h)
  | negSucc k =>
    rcases List.mem_cons.mp h with rfl | h
    · decide
    · exact isBlank_of_isAsciiDigit (isAsciiDigit_of_mem_ofNat h)

theorem trim_ofInt (n : Int) : trim (ofInt n) = ofInt n :=
  trim_eq_self_iff.mpr
    ⟨fun _ h => isBlank_of_mem_ofInt (List.mem_of_mem_head? h),
      fun _ h => isBlank_of_mem_ofInt (List.mem_of_mem_getLast? h)⟩

end Text.Chars

/-- A text value that is the text of an integer is seen as the integer, also if it is the least
one. -/
theorem Value.toInt?_intText (n : Int64) : (str (intText n)).toInt? = some n := by
  have hn : Text.isInt64 n.toInt = true := by
    have hlower := n.le_toInt
    have hupper := n.toInt_lt
    rw [Text.isInt64, Bool.and_eq_true, decide_eq_true_iff, decide_eq_true_iff, Text.maxInt64]
    omega
  have htrim : Text.trim (intText n) = intText n := by
    rw [intText, Text.trim, Text.intText, String.toList_ofList, Text.Chars.trim_ofInt]
  have hread : Text.Chars.readInt? (intText n).toList = some n.toInt := by
    rw [intText, Text.intText, String.toList_ofList, Text.Chars.readInt?_ofInt hn]
  rw [toInt?, htrim, Text.readInt64?, hread, Option.map_some, Int64.ofInt_toInt]

namespace Expr

variable {σ : Type} {ctx : Context σ} {s : σ}

/-- What the text of an integer comes to: the integer, but for the least one the error that a text
cannot be negated. -/
def ofIntText (n : Int64) : Except ScriptError Value :=
  if n = Int64.minValue then .error (.expression (Value.Fault.negation "string").message)
  else .ok (.int n)

/-- The text of an integer with white space before it. -/
theorem evalText_intText_eq {blanks : String} (hblanks : ∀ b ∈ blanks.toList, Text.isBlank b = true)
    (n : Int64) : evalText ctx (blanks ++ Value.intText n) s = some (ofIntText n, s) := by
  rw [ofIntText]
  split
  next hn =>
    have htext : (Value.intText n).toList = '-' :: "9223372036854775808".toList := by
      rw [hn]
      decide +kernel
    have hsign : Token.next '-' "9223372036854775808".toList =
        (.minus, "9223372036854775808".toList) := by decide +kernel
    -- no integer is that large, so the digits are a text
    have hdigits : Token.scanChars "9223372036854775808".toList =
        [.str "9223372036854775808"] := by decide +kernel
    have hscan : Token.scan (blanks ++ Value.intText n) =
        [.minus, .str "9223372036854775808"] := by
      rw [Token.scan, String.toList_append, htext, Token.scanChars_append hblanks (by decide),
        hsign, hdigits]
    have hnone : (Value.str "9223372036854775808").toInt? = none := by decide +kernel
    rw [evalText_of_parse (parse_eq_ok hscan rfl), eval, eval, pure_bind, UnaryOp.apply, Value.neg,
      hnone]
    rfl
  next hn => exact evalText_intText hblanks hn

end Expr

/-! ### Integers as arguments of calls -/

/-- A value with a literal is passed on as its literal. -/
theorem getElem?_callTexts {v : Value} {text : String} (h : literal? v = some text)
    (env : Environment) (index : Nat) (before after : List Value) :
    (callTexts env index (before ++ v :: after)).1[before.length]? = some text := by
  induction before generalizing env index with
  | nil =>
    rw [List.nil_append, callTexts, h]
    rfl
  | cons first rest ih =>
    rw [List.cons_append, callTexts]
    split
    · exact ih env (index + 1)
    · exact ih _ (index + 1)

namespace Session

/-- Among the arguments of a call a value with a literal is its literal again, with at most a space
before it. -/
theorem getElem?_arguments_callText {v : Value} {text : String} (h : literal? v = some text)
    (env : Environment) (before after : List Value) :
    ∃ blanks, (∀ b ∈ blanks.toList, Text.isBlank b = true) ∧ Brackets.IsPlain blanks ∧
      (Brackets.arguments (callText env (before ++ v :: after)).1)[before.length]? =
        some (blanks ++ text) := by
  have hne : before ++ v :: after ≠ [] := by simp
  obtain ⟨first, rest, htexts, harguments⟩ := arguments_callText env hne
  have htext := getElem?_callTexts h env 0 before after
  rw [htexts] at htext
  rw [harguments]
  cases before with
  | nil =>
    refine ⟨"", by simp, by decide, ?_⟩
    rw [String.empty_append]
    exact htext
  | cons v before =>
    refine ⟨" ", List.all_eq_true.mp (by decide), by decide, ?_⟩
    rw [List.length_cons, List.getElem?_cons_succ] at htext ⊢
    rw [List.getElem?_map, htext]
    rfl

/-- A text value that is the text of an integer is seen as the integer. Evaluated as an expression,
the text has the integer as its value unless that is the least one, and cannot be evaluated if it
is. The same holds for the argument that a call in an expression passes on for the integer. -/
theorem integer_read_back (n : Int64) :
    (Value.str (Value.intText n)).toInt? = some n ∧
    (∀ {σ : Type} (ctx : Context σ) (s : σ),
      Expr.evalText ctx (Value.intText n) s = some (Expr.ofIntText n, s)) ∧
    ∀ (env : Environment) (before after : List Value), ∃ argument,
      (Brackets.arguments (callText env (before ++ .int n :: after)).1)[before.length]? =
        some argument ∧
      ∀ host s,
        Evaluates host argument s (Expr.ofIntText n) (Outcome.keep s (Expr.ofIntText n)) := by
  refine ⟨Value.toInt?_intText n, fun ctx s => ?_, fun env before after => ?_⟩
  · have htext : Expr.evalText ctx ("" ++ Value.intText n) s = _ :=
      Expr.evalText_intText_eq (by simp) n
    rwa [String.empty_append] at htext
  · obtain ⟨blanks, hblanks, hplain, hargument⟩ :=
      getElem?_arguments_callText (v := .int n) rfl env before after
    refine ⟨_, hargument, fun host s => ?_⟩
    have hbracket : (blanks ++ Value.intText n).toList.any Brackets.isBracket = false :=
      (hplain.append (isPlain_intText n.toInt)).any_isBracket
    have hspan : SpanEvaluates host (blanks ++ Value.intText n) s (Expr.ofIntText n) s := by
      refine ⟨0, ?_⟩
      rw [evalSpan, if_neg (Bool.eq_false_iff.mp hbracket)]
      exact Expr.evalText_intText_eq hblanks n
    have houtcome : Outcome.ofSpans [Expr.ofIntText n] = Expr.ofIntText n := by
      rw [Expr.ofIntText]
      split <;> rfl
    have hline := hspan.evaluates (Brackets.spans_of_any_isBracket hbracket)
    rwa [houtcome] at hline

end Session

end BracketScript
