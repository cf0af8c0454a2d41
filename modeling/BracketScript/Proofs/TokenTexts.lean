import BracketScript.Proofs.Identifiers

/-!
# Tokens are read back

Tokens that are written one after the other are read back if there is white space between them. None
of them goes on with white space: digits and identifiers do not hold any, no operator does, and a
text literal ends with its closing quote, however much white space it holds. So it does not matter
which tokens stand side by side, and `!` and `=` are two tokens if they stand apart and one if they
do not.

## Main definitions

* `Token.text`: how a token is written
* `Token.isWritable`: the tokens that are written as they are read
* `SpacedToken`: such a token, with white space behind it

## Main results

* `Token.exists_next_text`: a token is read up to the white space behind it
* `SpacedToken.scan_join`: tokens with white space between them are read back
-/

namespace BracketScript

namespace Token

/-! ### Texts of tokens -/

/-- How a token is written. -/
def text : Token → String
  | int n => Value.intText n
  | str s => quote s
  | ident name => name
  | plus => "+"
  | minus => "-"
  | star => "*"
  | slash => "/"
  | percent => "%"
  | bang => "!"
  | equal => "=="
  | notEqual => "!="
  | less => "<"
  | lessEqual => "<="
  | greater => ">"
  | greaterEqual => ">="
  | matching => "=/"
  | notMatching => "!/"
  | and => "&&"
  | or => "||"
  | comma => ","
  | leftParen => "("
  | rightParen => ")"
  | unknown c => String.singleton c

/-- The tokens that are written as they are read. A sign is a token of its own, so integers have
none; names are those of identifiers. -/
def isWritable : Token → Bool
  | int n => 0 ≤ n
  | ident name => name.toList.head?.any isIdentStart && name.toList.tail.all isIdentPart
  | unknown _ => false
  | _ => true

/-! ### Tokens before white space -/

variable {c : Char} {rest : List Char}

/-- Behind the text there is nothing, or white space. -/
def IsApart (rest : List Char) : Prop := ∀ d ∈ rest.head?, Text.isBlank d = true

theorem IsApart.head?_eq_false (h : IsApart rest) {p : Char → Bool}
    (hp : ∀ d, p d = true → Text.isBlank d = false) : ∀ d ∈ rest.head?, p d = false := by
  intro d hd
  cases hpd : p d with
  | false => rfl
  | true => exact absurd (hp d hpd) (by simp [h d hd])

/-- Operators of one character that are the beginning of others are read before white space. -/
theorem operator_of_isApart (h : IsApart rest) :
    operator '!' rest = (bang, rest) ∧ operator '<' rest = (less, rest) ∧
      operator '>' rest = (greater, rest) := by
  cases rest with
  | nil => exact ⟨rfl, rfl, rfl⟩
  | cons d rest =>
    have hblank : Text.isBlank d = true := h d rfl
    have hequal : d ≠ '=' := by
      rintro rfl
      exact absurd hblank (by decide)
    have hslash : d ≠ '/' := by
      rintro rfl
      exact absurd hblank (by decide)
    simp [operator, hequal, hslash]

/-- An integer without a sign is written with its digits. -/
theorem exists_toList_intText {n : Int64} (hn : 0 ≤ n) :
    ∃ k, k ≤ Text.maxInt64 ∧ Int64.ofNat k = n ∧
      (Value.intText n).toList = Text.Chars.ofNat k := by
  obtain ⟨k, hk⟩ := Int.eq_ofNat_of_zero_le (Int64.le_iff_toInt_le.mp hn)
  have hupper := n.toInt_lt
  have hlimit : k ≤ Text.maxInt64 := by
    simp only [Text.maxInt64]
    omega
  have hvalue : Int64.ofInt n.toInt = n := Int64.ofInt_toInt n
  rw [hk] at hvalue
  refine ⟨k, hlimit, hvalue, ?_⟩
  rw [Value.intText, hk]
  exact String.toList_ofList

/-- What is read from the first character of the text of a token on, with white space behind it, is
the token. -/
theorem exists_next_text {t : Token} (h : t.isWritable = true) :
    ∃ c cs, t.text.toList = c :: cs ∧ Text.isBlank c = false ∧
      ∀ rest, IsApart rest → next c (cs ++ rest) = (t, rest) := by
  cases t with
  | int n =>
    obtain ⟨k, hk, rfl, htext⟩ := exists_toList_intText (of_decide_eq_true h)
    obtain ⟨c, cs, hdigits⟩ :=
      List.exists_cons_of_ne_nil (show Text.Chars.ofNat k ≠ [] by simp [Text.Chars.ofNat])
    have hall : ∀ d ∈ c :: cs, Text.isAsciiDigit d = true := fun d hd =>
      Text.Chars.isAsciiDigit_of_mem_ofNat (hdigits ▸ hd)
    obtain ⟨hc, hcs⟩ := List.forall_mem_cons.mp hall
    refine ⟨c, cs, htext.trans hdigits, Text.Chars.isBlank_of_isAsciiDigit hc, fun rest hrest => ?_⟩
    rw [next_digits hc hcs (hrest.head?_eq_false fun _ => Text.Chars.isBlank_of_isAsciiDigit),
      ← hdigits, ofDigits_ofNat hk]
  | str s =>
    refine ⟨'"', s.toList.flatMap quoteChar ++ ['"'], by simp [text, quote], by decide,
      fun rest _ => ?_⟩
    rw [List.append_assoc]
    exact next_quote s rest
  | ident name =>
    obtain ⟨hstart, hparts⟩ := Bool.and_eq_true_iff.mp h
    obtain ⟨c, cs, htext, hc, hcs⟩ := Identifier.exists_cons ⟨name, hstart, hparts⟩
    refine ⟨c, cs, htext, isBlank_of_isIdentPart (isIdentPart_of_isIdentStart hc),
      fun rest hrest => ?_⟩
    rw [next_ident hc hcs rest (hrest.head?_eq_false fun _ => isBlank_of_isIdentPart), ← htext,
      String.ofList_toList]
  | unknown c => cases h
  | bang => exact ⟨'!', [], rfl, by decide, fun rest hrest => (operator_of_isApart hrest).1⟩
  | less => exact ⟨'<', [], rfl, by decide, fun rest hrest => (operator_of_isApart hrest).2.1⟩
  | greater => exact ⟨'>', [], rfl, by decide, fun rest hrest => (operator_of_isApart hrest).2.2⟩
  | _ =>
    -- no other token begins with the text of this one, so it does not matter what follows
    exact ⟨_, _, rfl, by decide, fun rest _ => rfl⟩

theorem scanChars_of_blank {blanks : List Char} (h : ∀ b ∈ blanks, Text.isBlank b = true) :
    scanChars blanks = [] := by
  have hdrop : blanks.dropWhile Text.isBlank = [] := List.dropWhile_eq_nil_iff.mpr h
  rw [scanChars]
  cases blanks.length with
  | zero => rfl
  | succ count => rw [scanWithin, hdrop]

end Token

/-! ### Tokens one after the other -/

/-- A token as it is read, with white space behind it, which may be empty. -/
structure SpacedToken where
  token : Token
  /-- The white space behind the token. -/
  gap : String
  isWritable : token.isWritable = true
  isBlank : gap.toList.all Text.isBlank = true

namespace SpacedToken

/-- The token and the white space behind it. -/
def text (t : SpacedToken) : String := t.token.text ++ t.gap

/-- White space behind a token keeps it apart, unless it is empty and something follows. -/
theorem isApart_gap (t : SpacedToken) {rest : List Char} (h : t.gap = "" → rest = []) :
    Token.IsApart (t.gap.toList ++ rest) := by
  intro d hd
  cases hgap : t.gap.toList with
  | nil =>
    rw [hgap, h (String.toList_eq_nil_iff.mp hgap)] at hd
    cases hd
  | cons b blanks =>
    rw [hgap] at hd
    obtain rfl := Option.some.inj hd
    exact List.all_eq_true.mp t.isBlank _ (hgap ▸ List.mem_cons_self)

theorem scanChars_flatMap {blanks : List Char} (hblanks : ∀ b ∈ blanks, Text.isBlank b = true)
    {items : List SpacedToken} (hgaps : ∀ t ∈ items.dropLast, t.gap ≠ "") :
    Token.scanChars (blanks ++ items.flatMap fun t => t.text.toList) = items.map token := by
  -- the white space behind a token is before the next one
  induction items generalizing blanks with
  | nil =>
    rw [List.flatMap_nil, List.append_nil]
    exact Token.scanChars_of_blank hblanks
  | cons t items ih =>
    obtain ⟨c, cs, htext, hc, hnext⟩ := Token.exists_next_text t.isWritable
    have hgap : t.gap = "" → (items.flatMap fun t => t.text.toList) = [] := by
      intro hempty
      cases items with
      | nil => rfl
      | cons u items => exact absurd hempty (hgaps t List.mem_cons_self)
    have hrest : ∀ u ∈ items.dropLast, u.gap ≠ "" := by
      cases items with
      | nil => exact List.forall_mem_nil _
      | cons u items => exact (List.forall_mem_cons.mp hgaps).2
    rw [List.flatMap_cons, text, String.toList_append, htext, List.append_assoc, List.cons_append,
      Token.scanChars_append hblanks hc, hnext _ (t.isApart_gap hgap),
      ih (List.all_eq_true.mp t.isBlank) hrest, List.map_cons]

/-- Tokens with white space between each two of them, which may be any but empty, and with any white
space or none before the first and behind the last, are read back. -/
theorem scan_join {blanks : String} (hblanks : ∀ b ∈ blanks.toList, Text.isBlank b = true)
    {items : List SpacedToken} (hgaps : ∀ t ∈ items.dropLast, t.gap ≠ "") :
    Token.scan (blanks ++ String.join (items.map text)) = items.map token := by
  rw [Token.scan, String.toList_append, String.toList_join, List.flatMap_map]
  exact scanChars_flatMap hblanks hgaps

/-- Operators that could be taken together, a name that looks like a number behind its first letter,
the largest integer and a text with quotes, backslashes and white space in it. -/
theorem scan_join_mixed :
    Token.scan "\u3000! =/\t/ _7\n9223372036854775807 \"!\\\"\\\\n \\n\\t\u00a0\" < <=" =
      [.bang, .matching, .slash, .ident "_7", .int Int64.maxValue, .str "!\"\\n \n\t\u00a0", .less,
        .lessEqual] := by
  let items : List SpacedToken :=
    [⟨.bang, " ", rfl, by decide⟩, ⟨.matching, "\t", rfl, by decide⟩, ⟨.slash, " ", rfl, by decide⟩,
      ⟨.ident "_7", "\n", by decide, by decide⟩, ⟨.int Int64.maxValue, " ", by decide, by decide⟩,
      ⟨.str "!\"\\n \n\t\u00a0", " ", rfl, by decide⟩, ⟨.less, " ", rfl, by decide⟩,
      ⟨.lessEqual, "", rfl, by decide⟩]
  have htext : "\u3000" ++ String.join (items.map text) =
      "\u3000! =/\t/ _7\n9223372036854775807 \"!\\\"\\\\n \\n\\t\u00a0\" < <=" := by
    decide +kernel
  have hgaps : ∀ t ∈ items.dropLast, t.gap ≠ "" := by decide
  rw [← htext]
  exact scan_join (List.all_eq_true.mp (by decide)) hgaps

end SpacedToken

end BracketScript
