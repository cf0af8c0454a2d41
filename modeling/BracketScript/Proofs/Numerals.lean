import BracketScript.Proofs.CallPaths
import BracketScript.Proofs.Comparison
import BracketScript.Proofs.Decimals
import BracketScript.Proofs.Reading
import BracketScript.Proofs.TargetPath
import Mathlib.Data.String.Basic

/-!
# Numerals and how they compare

A numeral is a row of digits. It stands for the integer that it writes if 64 bits hold this integer,
and for itself, as a text, if they do not. Two numerals are compared as numbers if both stand for
integers; as soon as one of them is too large, they are compared as texts. Then the longer one is
not always the greater one, and zeros in front of a number that is too large count.

## Main definitions

* `Numeral`: a row of digits of any length
* `Numeral.number`: the number that it writes
* `Numeral.Fits`: it stands for an integer
* `Numeral.shown`: the text of what it stands for

## Main results

* `Numeral.evalText_relation`: a comparison of two numerals compares what they stand for
* `Numeral.compares`: what comparing two numerals comes to
-/

namespace BracketScript

/-! ### Numerals -/

/-- A row of digits of any length. -/
structure Numeral where
  /-- The digits. -/
  text : String
  ne_empty : text ≠ ""
  digits : ∀ c ∈ text.toList, Text.isAsciiDigit c = true

namespace Numeral

variable (m n : Numeral)

/-- The number that a numeral writes. -/
def number : Nat := Nat.ofDigitChars 10 m.text.toList 0

/-- The number is no larger than the largest integer of 64 bits. -/
def Fits : Prop := m.number ≤ Text.maxInt64

instance : Decidable m.Fits := inferInstanceAs (Decidable (_ ≤ _))

/-- The text of what a numeral stands for: without zeros in front if it stands for an integer, and
as it is written if it does not. -/
def shown : String := if m.Fits then Text.natText m.number else m.text

/-- What a numeral stands for. -/
def value : Value := if m.Fits then .int (Int64.ofNat m.number) else .str m.text

/-- The token that a numeral is. -/
def token : Token := Token.ofDigits m.text.toList

/-- The literal that a numeral is. -/
def literal : Expr := if m.Fits then .int (Int64.ofNat m.number) else .str m.text

theorem toList_ne_nil : m.text.toList ≠ [] := fun h => m.ne_empty (String.toList_eq_nil_iff.mp h)

theorem readInt?_text :
    Text.Chars.readInt? m.text.toList = if m.Fits then some (m.number : Int) else none :=
  Text.Chars.readInt?_digits m.toList_ne_nil m.digits

theorem token_eq :
    m.token = if m.Fits then .int (Int64.ofNat m.number) else .str m.text := by
  rw [token, Token.ofDigits, readInt?_text]
  by_cases hm : m.Fits
  · rw [if_pos hm, if_pos hm]
    rfl
  · rw [if_neg hm, if_neg hm, String.ofList_toList]

theorem toInt_ofNat {k : Nat} (hk : k ≤ Text.maxInt64) : (Int64.ofNat k).toInt = k := by
  rw [Text.maxInt64] at hk
  rw [← Int64.ofInt_eq_ofNat, Int64.toInt_ofInt_of_le]
  · simp
  · simp
    omega

/-- A numeral that is too large is a text that is not seen as an integer. -/
theorem toInt?_value :
    m.value.toInt? = if m.Fits then some (Int64.ofNat m.number) else none := by
  rw [value]
  by_cases hm : m.Fits
  · rw [if_pos hm, if_pos hm]
    rfl
  · have htrim : Text.Chars.trim m.text.toList = m.text.toList := by
      rw [Text.Chars.trim_eq_self_iff]
      constructor
      · intro c hc
        exact Text.Chars.isBlank_of_isAsciiDigit (m.digits c (List.mem_of_mem_head? hc))
      · intro c hc
        exact Text.Chars.isBlank_of_isAsciiDigit (m.digits c (List.mem_of_mem_getLast? hc))
    rw [if_neg hm, if_neg hm, Value.toInt?, Text.readInt64?, Text.trim, String.toList_ofList, htrim,
      readInt?_text, if_neg hm]
    rfl

theorem display_value : m.value.display = m.shown := by
  rw [value, shown]
  by_cases hm : m.Fits
  · rw [if_pos hm, if_pos hm, Value.display, Value.intText, toInt_ofNat hm]
    rfl
  · rw [if_neg hm, if_neg hm, Value.display]

/-- What a numeral shows is a numeral for the same number. -/
theorem shown_digits :
    (∀ c ∈ m.shown.toList, Text.isAsciiDigit c = true) ∧
      Nat.ofDigitChars 10 m.shown.toList 0 = m.number := by
  rw [shown]
  by_cases hm : m.Fits
  · rw [if_pos hm, Text.natText, String.toList_ofList]
    exact ⟨fun _ => Text.Chars.isAsciiDigit_of_mem_ofNat, Text.Chars.ofDigitChars_ofNat _⟩
  · rw [if_neg hm]
    exact ⟨m.digits, rfl⟩

variable {m n}

/-- What is shown is the same if the number is, and is written in the same way if it
does not fit. -/
theorem shown_inj : m.shown = n.shown ↔ m.number = n.number ∧ (m.Fits ∨ m.text = n.text) := by
  constructor
  · intro h
    have hnumber : m.number = n.number := by rw [← m.shown_digits.2, h, n.shown_digits.2]
    refine ⟨hnumber, ?_⟩
    by_cases hm : m.Fits
    · exact .inl hm
    · have hn : ¬ n.Fits := by rwa [Fits, ← hnumber]
      rw [shown, if_neg hm, shown, if_neg hn] at h
      exact .inr h
  · rintro ⟨hnumber, htext⟩
    have hfits : m.Fits ↔ n.Fits := by rw [Fits, hnumber, Fits]
    by_cases hm : m.Fits
    · rw [shown, if_pos hm, shown, if_pos (hfits.mp hm), hnumber]
    · rw [shown, if_neg hm, shown, if_neg (hfits.not.mp hm)]
      exact htext.resolve_left hm

/-- Shown texts of one length are ordered like the numbers. -/
theorem shown_lt_iff (h : m.shown.length = n.shown.length) :
    m.shown < n.shown ↔ m.number < n.number := by
  rw [← String.length_toList, ← String.length_toList] at h
  rw [String.lt_iff_toList_lt, Text.Chars.lt_iff_ofDigitChars_lt h m.shown_digits.1
    n.shown_digits.1, m.shown_digits.2, n.shown_digits.2]

/-! ### Comparing numerals -/

theorem ofNat_lt_iff (hm : m.Fits) (hn : n.Fits) :
    Int64.ofNat m.number < Int64.ofNat n.number ↔ m.number < n.number := by
  rw [Int64.lt_iff_toInt_lt, toInt_ofNat hm, toInt_ofNat hn, Int.ofNat_lt]

theorem ofNat_eq_iff (hm : m.Fits) (hn : n.Fits) :
    Int64.ofNat m.number = Int64.ofNat n.number ↔ m.number = n.number := by
  rw [← Int64.toInt_inj, toInt_ofNat hm, toInt_ofNat hn, Int.ofNat_inj]

/-- Two numerals that fit are compared as numbers, any others as texts. -/
theorem compare_value (m n : Numeral) : m.value.compare n.value =
    if m.Fits ∧ n.Fits then Value.compareInt (Int64.ofNat m.number) (Int64.ofNat n.number)
    else Value.compareText m.shown n.shown := by
  rw [Value.compare, m.toInt?_value, n.toInt?_value, m.display_value, n.display_value]
  by_cases hm : m.Fits
  · by_cases hn : n.Fits
    · rw [if_pos hm, if_pos hn, if_pos ⟨hm, hn⟩]
    · rw [if_pos hm, if_neg hn, if_neg (show ¬ (m.Fits ∧ n.Fits) from fun h => hn h.2)]
  · rw [if_neg hm, if_neg (show ¬ (m.Fits ∧ n.Fits) from fun h => hm h.1)]

theorem compare_value_eq_lt_iff (m n : Numeral) : m.value.compare n.value = .lt ↔
    if m.Fits ∧ n.Fits then m.number < n.number else m.shown < n.shown := by
  rw [compare_value]
  by_cases h : m.Fits ∧ n.Fits
  · rw [if_pos h, if_pos h, Value.compareInt_eq_lt_iff, ofNat_lt_iff h.1 h.2]
  · rw [if_neg h, if_neg h, Value.compareText_eq_lt_iff]

/-- Numerals that fit show the same text if their numbers are the same, so this is what makes any
two numerals equal. -/
theorem compare_value_eq_eq_iff (m n : Numeral) : m.value.compare n.value = .eq ↔
    m.number = n.number ∧ (m.Fits ∨ m.text = n.text) := by
  rw [compare_value]
  by_cases h : m.Fits ∧ n.Fits
  · rw [if_pos h, Value.compareInt_eq_eq_iff, ofNat_eq_iff h.1 h.2]
    exact ⟨fun hnumber => ⟨hnumber, .inl h.1⟩, And.left⟩
  · rw [if_neg h, Value.compareText_eq_eq_iff, shown_inj]

/-- Two numerals with a sign between them are three tokens. -/
theorem scanChars_sign {c : Char} {cs : List Char} {operator : Token}
    (hc : Text.isBlank c = false)
    (hnext : ∀ rest, Token.next c (cs ++ ' ' :: rest) = (operator, ' ' :: rest)) :
    Token.scanChars (m.text.toList ++ ' ' :: c :: (cs ++ ' ' :: n.text.toList)) =
      [m.token, operator, n.token] := by
  have hblank : ∀ b ∈ [' '], Text.isBlank b = true := List.all_eq_true.mp (by decide)
  have hn : Token.scanChars (' ' :: (n.text.toList ++ [])) = [n.token] :=
    Token.scanChars_digits n.toList_ne_nil n.digits hblank nofun
  rw [List.append_nil] at hn
  have hsign : Token.scanChars ([' '] ++ c :: (cs ++ ' ' :: n.text.toList)) =
      operator :: Token.scanChars (' ' :: n.text.toList) := by
    rw [Token.scanChars_append hblank hc, hnext]
  calc Token.scanChars (m.text.toList ++ ' ' :: c :: (cs ++ ' ' :: n.text.toList))
      = m.token :: Token.scanChars (' ' :: c :: (cs ++ ' ' :: n.text.toList)) :=
        Token.scanChars_digits m.toList_ne_nil m.digits (List.forall_mem_nil _)
          (by simp [Text.isAsciiDigit])
    _ = m.token :: operator :: Token.scanChars (' ' :: n.text.toList) :=
        congrArg (m.token :: ·) hsign
    _ = [m.token, operator, n.token] := by rw [hn]

theorem eval_literal {σ : Type} (ctx : Context σ) (s : σ) :
    Expr.eval ctx m.literal s = some (.ok m.value, s) := by
  rw [literal, value]
  split <;> rw [Expr.eval] <;> rfl

theorem ofTokens_relation {operator : Token} {op : BinaryOp}
    (hop : Expr.relationOp? operator = some op) :
    Expr.ofTokens [m.token, operator, n.token] = .ok (.binary op m.literal n.literal) := by
  rw [m.token_eq, n.token_eq, literal, literal]
  split <;> split <;> cases operator <;> cases hop <;> rfl

/-- A comparison of two numerals compares what they stand for, whatever the context. -/
theorem evalText_relation {source : String} {operator : Token} {op : BinaryOp}
    (hscan : Token.scan source = [m.token, operator, n.token])
    (hop : Expr.relationOp? operator = some op) {σ : Type} (ctx : Context σ) (s : σ) :
    Expr.evalText ctx source s = some (op.apply m.value n.value, s) := by
  have hand : op ≠ .and := by
    rintro rfl
    cases operator <;> cases hop
  have hor : op ≠ .or := by
    rintro rfl
    cases operator <;> cases hop
  rw [Expr.evalText_of_parse (Expr.parse_eq_ok hscan (ofTokens_relation hop)),
    Expr.eval_binary hand hor (eval_literal ctx s) (eval_literal ctx s)]

theorem scan_less (m n : Numeral) :
    Token.scan (m.text ++ " < " ++ n.text) = [m.token, .less, n.token] := by
  have hchars : (m.text ++ " < " ++ n.text).toList =
      m.text.toList ++ ' ' :: '<' :: ([] ++ ' ' :: n.text.toList) := by simp
  rw [Token.scan, hchars, scanChars_sign (by decide) fun _ => rfl]

theorem scan_equal (m n : Numeral) :
    Token.scan (m.text ++ " == " ++ n.text) = [m.token, .equal, n.token] := by
  have hchars : (m.text ++ " == " ++ n.text).toList =
      m.text.toList ++ ' ' :: '=' :: (['='] ++ ' ' :: n.text.toList) := by simp
  rw [Token.scan, hchars, scanChars_sign (by decide) fun _ => rfl]

/-- Comparing two numerals never fails. The order is that of the numbers if both numerals fit, and
also if the texts of what they stand for have the same length; otherwise these texts are compared.
The numerals are equal if their numbers are, and if they do not fit they must be written in the same
way, too. -/
theorem compares {σ : Type} (ctx : Context σ) (s : σ) (m n : Numeral) :
    (∃ less, Expr.evalText ctx (m.text ++ " < " ++ n.text) s = some (.ok (.bool less), s) ∧
      (less = true ↔ if m.Fits ∧ n.Fits then m.number < n.number else m.shown < n.shown) ∧
      ((m.Fits ∧ n.Fits) ∨ m.shown.length = n.shown.length →
        (less = true ↔ m.number < n.number))) ∧
    ∃ same, Expr.evalText ctx (m.text ++ " == " ++ n.text) s = some (.ok (.bool same), s) ∧
      (same = true ↔ m.number = n.number ∧ (m.Fits ∨ m.text = n.text)) := by
  have hless : (m.value.compare n.value == .lt) = true ↔
      if m.Fits ∧ n.Fits then m.number < n.number else m.shown < n.shown := by
    rw [beq_iff_eq, compare_value_eq_lt_iff]
  refine ⟨⟨_, evalText_relation (scan_less m n) rfl ctx s, hless, fun h => ?_⟩,
    _, evalText_relation (scan_equal m n) rfl ctx s, ?_⟩
  · rw [hless]
    by_cases hfits : m.Fits ∧ n.Fits
    · rw [if_pos hfits]
    · rw [if_neg hfits, shown_lt_iff (h.resolve_left hfits)]
  · rw [beq_iff_eq, compare_value_eq_eq_iff]

/-- A numeral that is too large. -/
def large : Numeral := ⟨"10000000000000000000", by decide, List.all_eq_true.mp (by decide)⟩

/-- The numeral after it. -/
def larger : Numeral := ⟨"10000000000000000001", by decide, List.all_eq_true.mp (by decide)⟩

/-- Two numerals that are too large, but of one length, are ordered like their numbers. -/
theorem compares_large : ¬ large.Fits ∧ large.shown.length = larger.shown.length ∧
    ∀ s, Expr.evalText (sessionContext (.ofFiles []) (evaluator (.ofFiles []) 0) 0)
      (large.text ++ " < " ++ larger.text) s = some (.ok (.bool true), s) := by
  have hlength : large.shown.length = larger.shown.length := by decide
  refine ⟨by decide, hlength, fun s => ?_⟩
  obtain ⟨⟨less, heval, -, hless⟩, -⟩ := compares (sessionContext _ _ _) s large larger
  have htrue : less = true := (hless (.inr hlength)).mpr (by decide)
  rwa [htrue] at heval

/-- The numeral of a single digit. -/
def nine : Numeral := ⟨"9", by decide, List.all_eq_true.mp (by decide)⟩

/-- A numeral that is too large is below a small one if its first digit is smaller. -/
theorem large_lt_nine : ¬ large.number < nine.number ∧
    Session.Evaluates (.ofFiles []) "10000000000000000000 < 9" {} (.ok (.bool true))
      (Session.Outcome.keep {} (.ok (.bool true))) := by
  have hcompare : large.value.compare nine.value = .lt := by decide
  have heval := evalText_relation (scan_less large nine) rfl
    (sessionContext (.ofFiles []) (evaluator (.ofFiles []) 0) 0) {}
  rw [BinaryOp.apply, hcompare] at heval
  exact ⟨by decide, 1, Session.line_of_evalText (by decide) heval⟩

end Numeral

end BracketScript
