import BracketScript.Proofs.Calls
import BracketScript.Proofs.Decimals
import BracketScript.Proofs.Names
import BracketScript.Proofs.Script
import BracketScript.Session.Arguments
import Mathlib.Data.List.TakeWhile

/-!
# Literals are read back

An evaluated argument is given to a built-in as text: as a literal if it has one, and otherwise as
the name of a variable that holds it. Literals are read back as the values they were written for,
whatever the context. The one exception is the least integer, the digits of which exceed the largest
integer.

## Main results

* `Token.scanChars_append`: the token after white space is the first one
* `Token.scanChars_digits`, `Token.next_ident`: rows of digits and identifiers are tokens
* `Token.scanChars_intText`: the tokens of the text of an integer
* `Expr.evalText_literal`: a literal has the value it was written for
-/

namespace BracketScript

/-! ### Tokens -/

namespace Token

variable {blanks cs : List Char} {c : Char}

theorem length_readText_le (reversed cs : List Char) :
    (readText reversed cs).2.length ≤ cs.length := by
  fun_induction readText reversed cs with
  | case1 => simp
  | case2 => simp
  | case3 => simp
  | case4 reversed e cs _ ih => exact Nat.le_trans ih (by simp; omega)
  | case5 reversed c cs _ _ ih => exact Nat.le_trans ih (by simp)

theorem length_operator_le (c : Char) (cs : List Char) :
    (operator c cs).2.length ≤ cs.length := by
  fun_cases operator c cs <;> simp

/-- What is left after a token is no longer than what was behind its first character. -/
theorem length_next_le (c : Char) (cs : List Char) : (next c cs).2.length ≤ cs.length := by
  unfold next
  split
  · exact (List.dropWhile_sublist _).length_le
  · split
    · exact length_readText_le [] cs
    · split
      · exact (List.dropWhile_sublist _).length_le
      · exact length_operator_le c cs

/-- Any limit that the number of characters does not exceed gives the same tokens. -/
theorem scanWithin_eq {count count' : Nat} (hcount : cs.length ≤ count)
    (hcount' : cs.length ≤ count') : scanWithin count cs = scanWithin count' cs := by
  induction count generalizing count' cs with
  | zero =>
    obtain rfl := List.eq_nil_of_length_eq_zero (Nat.le_zero.mp hcount)
    cases count' <;> rfl
  | succ count ih =>
    cases count' with
    | zero =>
      obtain rfl := List.eq_nil_of_length_eq_zero (Nat.le_zero.mp hcount')
      rfl
    | succ count' =>
      have hdrop := (List.dropWhile_sublist (l := cs) Text.isBlank).length_le
      unfold scanWithin
      cases hcs : cs.dropWhile Text.isBlank with
      | nil => rfl
      | cons c rest =>
        rw [hcs, List.length_cons] at hdrop
        have hnext := length_next_le c rest
        have hrest : scanWithin count (next c rest).2 = scanWithin count' (next c rest).2 :=
          ih (by omega) (by omega)
        exact congrArg ((next c rest).1 :: ·) hrest

/-- The token after white space is the first one, and the others are those of what is left. -/
theorem scanChars_append (hblanks : ∀ b ∈ blanks, Text.isBlank b = true)
    (hc : Text.isBlank c = false) :
    scanChars (blanks ++ c :: cs) = (next c cs).1 :: scanChars (next c cs).2 := by
  have hdrop : (blanks ++ c :: cs).dropWhile Text.isBlank = c :: cs := by
    rw [List.dropWhile_append_of_pos hblanks, List.dropWhile_cons_of_neg (by simp [hc])]
  have hlength : (blanks ++ c :: cs).length ≤ blanks.length + cs.length + 1 := by
    simp
    omega
  have hnext := length_next_le c cs
  rw [scanChars, scanWithin_eq (Nat.le_refl _) hlength, scanWithin, hdrop, scanChars]
  simp only
  rw [scanWithin_eq (Nat.le_refl _) (Nat.le_trans hnext (Nat.le_add_left _ _))]

theorem scanChars_cons (hc : Text.isBlank c = false) :
    scanChars (c :: cs) = (next c cs).1 :: scanChars (next c cs).2 :=
  scanChars_append (List.forall_mem_nil _) hc

/-- A text of white space and one token. -/
theorem scan_eq_singleton {text : String} {token : Token} (htext : text.toList = blanks ++ c :: cs)
    (hblanks : ∀ b ∈ blanks, Text.isBlank b = true) (hc : Text.isBlank c = false)
    (hnext : next c cs = (token, [])) : scan text = [token] := by
  rw [scan, htext, scanChars_append hblanks hc, hnext]
  rfl

/-! ### Rows of characters of one kind -/

section Rows

variable {p : Char → Bool} {rest : List Char}

/-- A row of characters of one kind ends where a character of another kind follows, or nothing. -/
theorem takeWhile_row (hcs : ∀ d ∈ cs, p d = true) (hrest : ∀ d ∈ rest.head?, p d = false) :
    (cs ++ rest).takeWhile p = cs := by
  have hstop : rest.takeWhile p = [] := by
    cases rest with
    | nil => rfl
    | cons d rest => exact List.takeWhile_cons_of_neg (by simp [hrest d rfl])
  rw [List.takeWhile_append_of_pos hcs, hstop, List.append_nil]

theorem dropWhile_row (hcs : ∀ d ∈ cs, p d = true) (hrest : ∀ d ∈ rest.head?, p d = false) :
    (cs ++ rest).dropWhile p = rest := by
  rw [List.dropWhile_append_of_pos hcs]
  cases rest with
  | nil => rfl
  | cons d rest => exact List.dropWhile_cons_of_neg (by simp [hrest d rfl])

/-- A row of digits is one token. -/
theorem next_digits (hc : Text.isAsciiDigit c = true)
    (hcs : ∀ d ∈ cs, Text.isAsciiDigit d = true)
    (hrest : ∀ d ∈ rest.head?, Text.isAsciiDigit d = false) :
    next c (cs ++ rest) = (ofDigits (c :: cs), rest) := by
  rw [next, if_pos hc, takeWhile_row hcs hrest, dropWhile_row hcs hrest]

end Rows

theorem scanChars_digits {digits rest : List Char} (hne : digits ≠ [])
    (hdigits : ∀ c ∈ digits, Text.isAsciiDigit c = true)
    (hblanks : ∀ b ∈ blanks, Text.isBlank b = true)
    (hrest : ∀ d ∈ rest.head?, Text.isAsciiDigit d = false) :
    scanChars (blanks ++ (digits ++ rest)) = ofDigits digits :: scanChars rest := by
  obtain ⟨c, cs, rfl⟩ := List.exists_cons_of_ne_nil hne
  obtain ⟨hc, hcs⟩ := List.forall_mem_cons.mp hdigits
  rw [List.cons_append, scanChars_append hblanks (Text.Chars.isBlank_of_isAsciiDigit hc),
    next_digits hc hcs hrest]

theorem scanChars_ofNat {n : Nat} {rest : List Char}
    (hblanks : ∀ b ∈ blanks, Text.isBlank b = true)
    (hrest : ∀ d ∈ rest.head?, Text.isAsciiDigit d = false) :
    scanChars (blanks ++ (Text.Chars.ofNat n ++ rest)) =
      ofDigits (Text.Chars.ofNat n) :: scanChars rest :=
  scanChars_digits (by simp [Text.Chars.ofNat]) (fun _ => Text.Chars.isAsciiDigit_of_mem_ofNat)
    hblanks hrest

theorem ofDigits_ofNat {n : Nat} (h : n ≤ Text.maxInt64) :
    ofDigits (Text.Chars.ofNat n) = .int (Int64.ofNat n) := by
  rw [ofDigits, Text.Chars.readInt?_ofNat h]
  rfl

/-- The tokens of the text of an integer. -/
def ofInt : Int → List Token
  | .ofNat n => [.int (Int64.ofNat n)]
  | .negSucc n => [.minus, .int (Int64.ofNat (n + 1))]

/-- The text of an integer is one token, or two with a sign, unless it is the least one. -/
theorem scanChars_intText {n : Int64} (hn : n ≠ Int64.minValue) {rest : List Char}
    (hblanks : ∀ b ∈ blanks, Text.isBlank b = true)
    (hrest : ∀ d ∈ rest.head?, Text.isAsciiDigit d = false) :
    scanChars (blanks ++ ((Value.intText n).toList ++ rest)) =
      ofInt n.toInt ++ scanChars rest := by
  have hmin : n.toInt ≠ -2 ^ 63 := fun h => hn (Int64.toInt_inj.mp h)
  have hlower := n.le_toInt
  have hupper := n.toInt_lt
  rw [Value.intText]
  cases htoInt : n.toInt with
  | ofNat k =>
    rw [htoInt, Int.ofNat_eq_natCast] at hupper
    have hk : k ≤ Text.maxInt64 := by
      simp only [Text.maxInt64]
      omega
    rw [show (Text.intText (.ofNat k)).toList = Text.Chars.ofNat k from String.toList_ofList,
      scanChars_ofNat hblanks hrest, ofDigits_ofNat hk]
    rfl
  | negSucc k =>
    rw [htoInt] at hlower hmin
    have hk : k + 1 ≤ Text.maxInt64 := by
      simp only [Text.maxInt64]
      omega
    have hsign (cs : List Char) : next '-' cs = (.minus, cs) := by
      simp [next, Text.isAsciiDigit, isIdentStart, Text.isAlphabetic, Text.isAsciiLetter, operator]
    have hchars : (Text.intText (.negSucc k)).toList = '-' :: Text.Chars.ofNat (k + 1) := by
      simp [Text.intText_negSucc, Text.natText]
    rw [hchars, List.cons_append, scanChars_append hblanks (by decide), hsign,
      ← List.nil_append (Text.Chars.ofNat (k + 1) ++ rest),
      scanChars_ofNat (List.forall_mem_nil _) hrest,
      ofDigits_ofNat hk]
    rfl

/-- A text in quotes is one token, whatever follows. -/
theorem next_quote (s : String) (rest : List Char) :
    next '"' (s.toList.flatMap quoteChar ++ '"' :: rest) = (.str s, rest) := by
  have hread := readText_flatMap_quoteChar s.toList rest []
  simp [next, hread, Text.isAsciiDigit]

theorem isIdentPart_of_isIdentStart (h : isIdentStart c = true) : isIdentPart c = true := by
  rw [isIdentStart, Bool.or_eq_true] at h
  rw [isIdentPart, Text.isAlphanumeric, Bool.or_eq_true, Bool.or_eq_true]
  exact h.imp_left .inl

theorem isIdentPart_of_isAsciiDigit (h : Text.isAsciiDigit c = true) : isIdentPart c = true := by
  have hnumeric : Text.isNumeric c = true := by
    rw [Text.isNumeric, h, ite_eq_left_iff]
    intro hlarge
    simp only [Text.isAsciiDigit, Bool.and_eq_true, decide_eq_true_eq] at h
    omega
  rw [isIdentPart, Text.isAlphanumeric, hnumeric, Bool.or_true, Bool.true_or]

/-- No identifier starts with a digit. -/
theorem isAsciiDigit_of_isIdentStart (h : isIdentStart c = true) : Text.isAsciiDigit c = false := by
  by_contra hdigit
  simp only [Text.isAsciiDigit, Bool.and_eq_true, decide_eq_true_eq, Bool.not_eq_false] at hdigit
  have hascii : c.toNat < 128 := by omega
  rw [isIdentStart, Text.isAlphabetic, if_pos hascii, Bool.or_eq_true, beq_iff_eq] at h
  rcases h with h | rfl
  · simp only [Text.isAsciiLetter, Bool.or_eq_true, Bool.and_eq_true, decide_eq_true_eq] at h
    omega
  · exact absurd hdigit (by decide)

/-- An identifier is one token. -/
theorem next_ident (hc : isIdentStart c = true) (hcs : ∀ d ∈ cs, isIdentPart d = true)
    (rest : List Char) (hrest : ∀ d ∈ rest.head?, isIdentPart d = false) :
    next c (cs ++ rest) = (.ident (String.ofList (c :: cs)), rest) := by
  have hquote : c ≠ '"' := by
    rintro rfl
    exact absurd hc (by decide)
  rw [next, if_neg (Bool.eq_false_iff.mp (isAsciiDigit_of_isIdentStart hc)), if_neg hquote,
    if_pos hc, takeWhile_row hcs hrest, dropWhile_row hcs hrest]

end Token

namespace Expr

variable {σ : Type} {ctx : Context σ} {source : String} {e : Expr} {v : Value} {s : σ}

theorem parse_eq_ok {ts : List Token} (hscan : Token.scan source = ts) (hts : ofTokens ts = .ok e) :
    parse source = .ok e := by
  rw [parse, hscan, hts]
  rfl

theorem evalText_of_parse (h : parse source = .ok e) : evalText ctx source s = eval ctx e s := by
  rw [evalText, h]
  exact Script.bind_of_ok (Script.liftExcept_apply _ s)

/-- The expression that the text of an integer is. -/
def ofInt : Int → Expr
  | .ofNat n => .int (Int64.ofNat n)
  | .negSucc n => .unary .neg (.int (Int64.ofNat (n + 1)))

theorem eval_ofInt (n : Int64) : eval ctx (ofInt n.toInt) s = some (.ok (.int n), s) := by
  have hvalue : Int64.ofInt n.toInt = n := Int64.ofInt_toInt n
  cases htoInt : n.toInt with
  | ofNat k =>
    rw [htoInt] at hvalue
    rw [ofInt, eval, ← hvalue]
    rfl
  | negSucc k =>
    have hneg : -Int64.ofNat (k + 1) = n := by
      rw [← hvalue, htoInt, Int.negSucc_eq, Int64.ofInt_neg]
      rfl
    rw [ofInt, eval, eval, ← hneg]
    rfl

section Literal

variable {blanks : String} (hblanks : ∀ b ∈ blanks.toList, Text.isBlank b = true)
include hblanks

/-- The text of an integer has the value of the integer, unless that is the least one. -/
theorem evalText_intText {n : Int64} (hn : n ≠ Int64.minValue) :
    evalText ctx (blanks ++ Value.intText n) s = some (.ok (.int n), s) := by
  have hscan : Token.scan (blanks ++ Value.intText n) = Token.ofInt n.toInt := by
    have hchars : Token.scanChars (blanks.toList ++ ((Value.intText n).toList ++ [])) = _ :=
      Token.scanChars_intText hn hblanks nofun
    rwa [List.append_nil, ← String.toList_append, ← Token.scan,
      show Token.scanChars [] = [] from rfl, List.append_nil] at hchars
  have hparse : parse (blanks ++ Value.intText n) = .ok (ofInt n.toInt) :=
    parse_eq_ok hscan (by cases n.toInt <;> rfl)
  rw [evalText_of_parse hparse, eval_ofInt]

theorem parse_boolText (b : Bool) : parse (blanks ++ Value.boolText b) = .ok (.bool b) := by
  cases b with
  | true =>
    have hnext : Token.next 't' ['r', 'u', 'e'] = (.ident "true", []) := by decide
    exact parse_eq_ok (Token.scan_eq_singleton (by simp [Value.boolText]) hblanks (by decide) hnext)
      rfl
  | false =>
    have hnext : Token.next 'f' ['a', 'l', 's', 'e'] = (.ident "false", []) := by decide
    exact parse_eq_ok (Token.scan_eq_singleton (by simp [Value.boolText]) hblanks (by decide) hnext)
      rfl

theorem parse_quote (t : String) : parse (blanks ++ Token.quote t) = .ok (.str t) :=
  parse_eq_ok (Token.scan_eq_singleton (by simp [Token.quote]) hblanks (by decide)
    (Token.next_quote t [])) rfl

/-- A literal has the value it was written for, unless that is the least integer. -/
theorem evalText_literal {text : String} (h : literal? v = some text)
    (hv : v ≠ .int Int64.minValue) : evalText ctx (blanks ++ text) s = some (.ok v, s) := by
  cases v with
  | int n =>
    cases h
    exact evalText_intText hblanks fun hn => hv (hn ▸ rfl)
  | bool b =>
    cases h
    rw [evalText_of_parse (parse_boolText hblanks b), eval]
    rfl
  | str t =>
    simp only [literal?, Option.ite_none_left_eq_some, Option.some.injEq] at h
    obtain ⟨-, rfl⟩ := h
    rw [evalText_of_parse (parse_quote hblanks t), eval]
    rfl
  | _ => cases h

end Literal

end Expr

/-! ### Literals have no commas and brackets -/

open Brackets (IsPlain)

theorem isPlain_natText (n : Nat) : IsPlain (Text.natText n) := by
  intro c hc
  rw [Text.natText, String.toList_ofList] at hc
  have hdigit := Text.Chars.isAsciiDigit_of_mem_ofNat hc
  refine ⟨?_, ?_, ?_⟩ <;> rintro rfl <;> exact absurd hdigit (by decide)

theorem isPlain_intText (n : Int) : IsPlain (Text.intText n) := by
  cases n with
  | ofNat n => exact isPlain_natText n
  | negSucc n =>
    rw [Text.intText_negSucc]
    exact IsPlain.append (by decide) (isPlain_natText (n + 1))

/-- Quoting adds backslashes and two letters only. -/
theorem Token.mem_quoteChar {c d : Char} (h : c ∈ quoteChar d) :
    c = d ∨ c = '\\' ∨ c = 'n' ∨ c = 't' := by
  unfold quoteChar at h
  grind

/-- A literal has the characters of the text, quotes, backslashes and two letters. -/
theorem Token.mem_quote {c : Char} {t : String} (h : c ∈ (quote t).toList) :
    c ∈ t.toList ∨ c = '"' ∨ c = '\\' ∨ c = 'n' ∨ c = 't' := by
  simp only [quote, String.toList_ofList, List.mem_append, List.mem_flatMap,
    List.mem_singleton] at h
  rcases h with (rfl | ⟨d, hd, hc⟩) | rfl
  · exact .inr (.inl rfl)
  · rcases mem_quoteChar hc with rfl | hc
    · exact .inl hd
    · exact .inr (.inr hc)
  · exact .inr (.inl rfl)

theorem isPlain_quote {t : String} (h : IsPlain t) : IsPlain (Token.quote t) := by
  intro c hc
  rcases Token.mem_quote hc with hc | rfl | rfl | rfl | rfl
  · exact h c hc
  all_goals decide

theorem isPlain_literal {v : Value} {text : String} (h : literal? v = some text) :
    IsPlain text := by
  cases v with
  | int n =>
    cases h
    exact isPlain_intText n.toInt
  | bool b =>
    cases h
    cases b <;> decide
  | str t =>
    simp only [literal?, Option.ite_none_left_eq_some, Option.some.injEq] at h
    obtain ⟨hplain, rfl⟩ := h
    refine isPlain_quote fun c hc => ?_
    have hc := List.any_eq_false.mp (Bool.eq_false_iff.mpr hplain) c hc
    simp only [Bool.or_eq_true, beq_iff_eq, not_or] at hc
    exact ⟨hc.1.2, hc.2, hc.1.1⟩
  | _ => cases h

end BracketScript
