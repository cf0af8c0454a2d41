import BracketScript.Proofs.Literals
import BracketScript.Proofs.TargetPath

/-!
# Identifiers

An identifier is a letter or an underscore with letters, digits and underscores behind it. As an
argument it is taken as it is written, whatever is made of it: it holds no comma and no bracket,
there is no white space and no quote to be dropped, and as an expression it is one token, so a
variable or a truth value.

## Main definitions

* `Identifier`: a text that is an identifier
* `Identifier.ofArgument`: the name of an argument

## Main results

* `Identifier.bareName_eq`, `Identifier.isPlain`: an identifier is taken as it is written
* `Identifier.parse_eq`: what an identifier is as an expression
-/

namespace BracketScript

/-! ### Characters of identifiers -/

namespace Token

variable {c : Char}

/-- The white space characters. -/
def blankPoints : List Nat :=
  List.range' 9 5 ++ [0x20, 0x85, 0xa0, 0x1680] ++ List.range' 0x2000 11 ++
    [0x2028, 0x2029, 0x202f, 0x205f, 0x3000]

theorem mem_blankPoints (h : Text.isBlank c = true) : c.toNat ∈ blankPoints := by
  simp only [Text.isBlank, Bool.or_eq_true, Bool.and_eq_true, decide_eq_true_eq, beq_iff_eq] at h
  simp only [blankPoints, List.mem_append, List.mem_range'_1, List.mem_cons, List.not_mem_nil,
    or_false]
  omega

/-- No identifier holds white space. -/
theorem isBlank_of_isIdentPart (h : isIdentPart c = true) : Text.isBlank c = false := by
  -- there are few white space characters, so each of them is looked at
  have hpoints : blankPoints.all (fun n => !isIdentPart (Char.ofNat n)) = true := by
    decide +kernel
  by_contra hblank
  have hpoint := List.all_eq_true.mp hpoints _ (mem_blankPoints (Bool.not_eq_false _ ▸ hblank))
  rw [Char.ofNat_toNat, h] at hpoint
  exact absurd hpoint (by decide)

end Token

/-! ### Identifiers as arguments -/

/-- A letter or an underscore, and letters, digits and underscores behind it. -/
structure Identifier where
  /-- The characters. -/
  text : String
  start : text.toList.head?.any Token.isIdentStart = true
  parts : text.toList.tail.all Token.isIdentPart = true

namespace Identifier

variable (x : Identifier)

theorem exists_cons : ∃ c cs, x.text.toList = c :: cs ∧ Token.isIdentStart c = true ∧
    ∀ d ∈ cs, Token.isIdentPart d = true := by
  have hstart := x.start
  have hparts := x.parts
  cases htext : x.text.toList with
  | nil =>
    rw [htext] at hstart
    cases hstart
  | cons c cs =>
    rw [htext] at hstart hparts
    exact ⟨c, cs, rfl, hstart, List.all_eq_true.mp hparts⟩

theorem isIdentPart_of_mem {c : Char} (h : c ∈ x.text.toList) : Token.isIdentPart c = true := by
  obtain ⟨first, cs, htext, hstart, hparts⟩ := x.exists_cons
  rw [htext] at h
  rcases List.mem_cons.mp h with rfl | h
  · exact Token.isIdentPart_of_isIdentStart hstart
  · exact hparts c h

/-- A character that no identifier goes on with is not in an identifier. -/
theorem not_mem {c : Char} (h : Token.isIdentPart c = false) : c ∉ x.text.toList := by
  intro hmem
  rw [x.isIdentPart_of_mem hmem] at h
  cases h

theorem isPlain : Brackets.IsPlain x.text := by
  intro c hc
  refine ⟨?_, ?_, ?_⟩ <;> rintro rfl <;> exact absurd hc (x.not_mem (by decide))

theorem trim_toList : Text.Chars.trim x.text.toList = x.text.toList :=
  Text.Chars.trim_eq_self_iff.mpr
    ⟨fun _ hc => Token.isBlank_of_isIdentPart (x.isIdentPart_of_mem (List.mem_of_mem_head? hc)),
      fun _ hc =>
        Token.isBlank_of_isIdentPart (x.isIdentPart_of_mem (List.mem_of_mem_getLast? hc))⟩

/-- An identifier is taken as it is written. -/
theorem bareName_eq : bareName x.text = x.text := by
  have hquote : '"' ∉ x.text.toList := x.not_mem (by decide)
  have hunquote : unquoteChars x.text.toList = x.text.toList := by
    unfold unquoteChars
    split
    · next htext => exact absurd (htext ▸ List.mem_cons_self) hquote
    · rfl
  rw [bareName, x.trim_toList, hunquote, String.ofList_toList]

/-- As an expression, an identifier is a variable or a truth value. -/
theorem parse_eq {blanks : String} (hblanks : ∀ b ∈ blanks.toList, Text.isBlank b = true) :
    Expr.parse (blanks ++ x.text) = .ok (Expr.ofName x.text) := by
  obtain ⟨c, cs, htext, hstart, hparts⟩ := x.exists_cons
  have hblank := Token.isBlank_of_isIdentPart (Token.isIdentPart_of_isIdentStart hstart)
  have hnext : Token.next c (cs ++ []) = (.ident x.text, []) := by
    rw [Token.next_ident hstart hparts [] nofun, ← htext, String.ofList_toList]
  rw [List.append_nil] at hnext
  refine Expr.parse_eq_ok (Token.scan_eq_singleton ?_ hblanks hblank hnext) rfl
  rw [String.toList_append, htext]

/-- An identifier that is no truth value is a variable. -/
theorem parse_eq_var (htrue : x.text ≠ "true") (hfalse : x.text ≠ "false") {blanks : String}
    (hblanks : ∀ b ∈ blanks.toList, Text.isBlank b = true) :
    Expr.parse (blanks ++ x.text) = .ok (.var x.text) := by
  rw [x.parse_eq hblanks, Expr.ofName, if_neg htrue, if_neg hfalse]

/-! ### Names of arguments -/

/-- The name of an argument. -/
def ofArgument (index : Nat) : Identifier where
  text := argumentName index
  start := by
    rw [argumentName_toList]
    rfl
  parts := by
    rw [argumentName_toList, List.all_eq_true]
    intro c hc
    -- the letters after the first one, and then the digits
    rcases List.mem_append.mp (show c ∈ ['a', 'r', 'a', 'm', 's'] ++ Text.Chars.ofNat index from hc)
      with hc | hc
    · exact List.all_eq_true.mp (by decide) c hc
    · exact Token.isIdentPart_of_isAsciiDigit (Text.Chars.isAsciiDigit_of_mem_ofNat hc)

end Identifier

theorem isPlain_argumentName (index : Nat) : Brackets.IsPlain (argumentName index) :=
  (Identifier.ofArgument index).isPlain

/-- The name of an argument is a variable. -/
theorem Expr.parse_argumentName {blanks : String}
    (hblanks : ∀ b ∈ blanks.toList, Text.isBlank b = true) (index : Nat) :
    parse (blanks ++ argumentName index) = .ok (.var (argumentName index)) :=
  (Identifier.ofArgument index).parse_eq_var (argumentName_ne (by decide) index)
    (argumentName_ne (by decide) index) hblanks

end BracketScript
