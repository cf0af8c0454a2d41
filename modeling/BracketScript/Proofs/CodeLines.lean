import BracketScript.Proofs.Separators
import BracketScript.Session.Run
import Mathlib.Data.List.Forall2

/-!
# Lines of code

A file is a row of lines with line feeds between them. A line of white space gives nothing to
evaluate, and neither does one that starts with a number sign, with or without white space before
it. Any other line is evaluated without the white space at its end, to which a carriage return
before the line feed belongs as well. The lines that are evaluated are described here by the text of
the file alone, and these are the ones that a run takes from it.

## Main definitions

* `IsCode`: a line as it is evaluated
* `GivesCode`: what a line of a file gives to evaluate
* `CodeOf`: the lines that a file gives to evaluate, in order

## Main results

* `givesCode_iff`: a line gives its text without the white space at its end, or nothing
* `codeLines_eq_iff`: a run evaluates the lines that the file gives, and no others
-/

namespace BracketScript

variable {piece line data : String} {code : Option String} {lines : List String}

/-- The first visible character of the line is no number sign, and the last character is visible. -/
structure IsCode (line : String) : Prop where
  starts : ∃ indent c rest, line.toList = indent ++ c :: rest ∧
    (∀ b ∈ indent, Text.isBlank b = true) ∧ Text.isBlank c = false ∧ c ≠ '#'
  ends : ∀ c ∈ line.toList.getLast?, Text.isBlank c = false

/-- What a line of a file gives to evaluate. -/
inductive GivesCode (piece : String) : Option String → Prop
  /-- A line of white space gives nothing. -/
  | blank (h : ∀ b ∈ piece.toList, Text.isBlank b = true) : GivesCode piece none
  /-- A remark gives nothing. -/
  | remark (indent rest : List Char) (hpiece : piece.toList = indent ++ '#' :: rest)
      (hindent : ∀ b ∈ indent, Text.isBlank b = true) : GivesCode piece none
  /-- A line of code gives its text without the white space at its end. -/
  | code (line : String) (blanks : List Char) (hpiece : piece.toList = line.toList ++ blanks)
      (hblanks : ∀ b ∈ blanks, Text.isBlank b = true) (hline : IsCode line) :
      GivesCode piece (some line)

/-- The file is made up of lines with line feeds between them, and these give the code. -/
def CodeOf (data : String) (lines : List String) : Prop :=
  ∃ pieces codes, Text.joinWith "\n" pieces = data ∧ (∀ p ∈ pieces, '\n' ∉ p.toList) ∧
    List.Forall₂ GivesCode pieces codes ∧ codes.filterMap id = lines

/-! ### A single line -/

/-- The text of a line without the white space at its end, if it is code. -/
def codeOf? (piece : String) : Option String :=
  if isCodeLine (Text.trimEnd piece) then some (Text.trimEnd piece) else none

theorem trimEnd_eq_iff : Text.trimEnd piece = line ↔
    (∃ blanks, (∀ b ∈ blanks, Text.isBlank b = true) ∧ piece.toList = line.toList ++ blanks) ∧
      ∀ c ∈ line.toList.getLast?, Text.isBlank c = false := by
  rw [← Text.Chars.trimEnd_eq_iff, Text.trimEnd, ← String.toList_inj, String.toList_ofList]

/-- Two texts with white space in front that are the same have the same first visible character. -/
theorem visible_inj {indent indent' rest rest' : List Char} {c c' : Char}
    (hindent : ∀ b ∈ indent, Text.isBlank b = true) (hc : Text.isBlank c = false)
    (hindent' : ∀ b ∈ indent', Text.isBlank b = true) (hc' : Text.isBlank c' = false)
    (h : indent ++ c :: rest = indent' ++ c' :: rest') : c = c' := by
  have hstart : Text.Chars.trimStart (indent ++ c :: rest) = c :: rest :=
    Text.Chars.trimStart_eq_iff.mpr ⟨⟨indent, hindent, rfl⟩, by simpa using hc⟩
  have hstart' : Text.Chars.trimStart (indent' ++ c' :: rest') = c' :: rest' :=
    Text.Chars.trimStart_eq_iff.mpr ⟨⟨indent', hindent', rfl⟩, by simpa using hc'⟩
  rw [h, hstart'] at hstart
  exact (List.head_eq_of_cons_eq hstart).symm

theorem GivesCode.codeOf?_eq (h : GivesCode piece code) : codeOf? piece = code := by
  cases h with
  | blank h =>
    have htrim : Text.trimEnd piece = "" :=
      trimEnd_eq_iff.mpr ⟨⟨piece.toList, h, rfl⟩, fun _ hc => by cases hc⟩
    rw [codeOf?, htrim]
    rfl
  | remark indent rest hpiece hindent =>
    -- if it was code, its first visible character would not be the sign
    have hcode : isCodeLine (Text.trimEnd piece) ≠ true := by
      intro hcode
      obtain ⟨indent', c, rest', hline, hindent', hc, hne⟩ := isCodeLine_iff.mp hcode
      obtain ⟨⟨blanks, -, htrim⟩, -⟩ := trimEnd_eq_iff.mp (Eq.refl (Text.trimEnd piece))
      rw [hpiece, hline, List.append_assoc] at htrim
      exact hne (visible_inj hindent (by decide) hindent' hc htrim).symm
    rw [codeOf?, if_neg hcode]
  | code line blanks hpiece hblanks hline =>
    have htrim : Text.trimEnd piece = line :=
      trimEnd_eq_iff.mpr ⟨⟨blanks, hblanks, hpiece⟩, hline.ends⟩
    rw [codeOf?, htrim, if_pos (isCodeLine_iff.mpr hline.starts)]

/-- Each line gives its text or nothing. -/
theorem exists_givesCode (piece : String) : ∃ code, GivesCode piece code := by
  cases hstart : Text.Chars.trimStart piece.toList with
  | nil =>
    obtain ⟨⟨blanks, hblanks, hpiece⟩, -⟩ := Text.Chars.trimStart_eq_iff.mp hstart
    rw [List.append_nil] at hpiece
    exact ⟨none, .blank (hpiece ▸ hblanks)⟩
  | cons c rest =>
    obtain ⟨⟨indent, hindent, hpiece⟩, hhead⟩ := Text.Chars.trimStart_eq_iff.mp hstart
    by_cases hc : c = '#'
    · exact ⟨none, .remark indent rest (hc ▸ hpiece) hindent⟩
    · -- the line goes on up to the last visible character, which may be the first one
      obtain ⟨⟨blanks, hblanks, hrest⟩, hlast⟩ :=
        Text.Chars.trimEnd_eq_iff.mp (Eq.refl (Text.Chars.trimEnd rest))
      have hchars : (String.ofList (indent ++ c :: Text.Chars.trimEnd rest)).toList =
          indent ++ c :: Text.Chars.trimEnd rest := String.toList_ofList
      refine ⟨_, .code (.ofList (indent ++ c :: Text.Chars.trimEnd rest)) blanks ?_ hblanks
        ⟨⟨indent, c, _, hchars, hindent, hhead c rfl, hc⟩, fun d hd => ?_⟩⟩
      · rw [hchars, hpiece, List.append_assoc, List.cons_append, ← hrest]
      · rw [hchars, List.getLast?_append, List.getLast?_cons, Option.some_or] at hd
        cases hend : (Text.Chars.trimEnd rest).getLast? with
        | none =>
          rw [hend] at hd
          exact Option.mem_some.mp hd ▸ hhead c rfl
        | some e =>
          rw [hend] at hd
          exact Option.mem_some.mp hd ▸ hlast e hend

/-- A line gives its text without the white space at its end, or nothing. -/
theorem givesCode_iff : GivesCode piece code ↔ codeOf? piece = code := by
  refine ⟨GivesCode.codeOf?_eq, ?_⟩
  rintro rfl
  obtain ⟨code, h⟩ := exists_givesCode piece
  exact h.codeOf?_eq ▸ h

/-! ### All lines -/

theorem forall₂_givesCode_iff {pieces : List String} {codes : List (Option String)} :
    List.Forall₂ GivesCode pieces codes ↔ pieces.map codeOf? = codes := by
  have hgives : GivesCode = fun piece code => codeOf? piece = code := by
    funext piece code
    exact propext givesCode_iff
  rw [hgives, ← List.forall₂_eq_eq_eq, List.forall₂_map_left_iff]

/-- A carriage return at the end of a line is white space. -/
theorem trimEnd_dropCarriageReturn (cs : List Char) :
    Text.Chars.trimEnd (Text.Chars.dropCarriageReturn cs) = Text.Chars.trimEnd cs := by
  rw [Text.Chars.dropCarriageReturn]
  split
  next h =>
    obtain ⟨front, rfl⟩ := List.getLast?_eq_some_iff.mp h
    have hreturn : Text.isBlank '\r' = true := by decide
    simp [Text.Chars.trimEnd, hreturn]
  next => rfl

theorem filter_map_trimEnd (pieces : List String) :
    (pieces.map Text.trimEnd).filter isCodeLine = pieces.filterMap codeOf? := by
  induction pieces with
  | nil => rfl
  | cons piece rest ih =>
    rw [List.map_cons, List.filter_cons, List.filterMap_cons, ih, codeOf?]
    cases isCodeLine (Text.trimEnd piece) <;> rfl

/-- Line ends and an empty line at the end make no difference to the code. -/
theorem filterMap_linesOfPieces (pieces : List (List Char)) :
    ((Text.Chars.linesOfPieces pieces).map String.ofList).filterMap codeOf? =
      (pieces.map String.ofList).filterMap codeOf? := by
  fun_induction Text.Chars.linesOfPieces pieces with
  | case1 => rfl
  | case2 last hlast =>
    rw [List.isEmpty_iff.mp hlast]
    decide
  | case3 => rfl
  | case4 piece rest _ ih =>
    have hpiece : codeOf? (String.ofList (Text.Chars.dropCarriageReturn piece)) =
        codeOf? (String.ofList piece) := by
      simp only [codeOf?, Text.trimEnd, String.toList_ofList, trimEnd_dropCarriageReturn]
    rw [List.map_cons, List.map_cons, List.filterMap_cons, List.filterMap_cons, hpiece, ih]

theorem codeLines_eq_filterMap (data : String) : codeLines data =
    ((Text.Chars.splitWhere (· == '\n') data.toList).map String.ofList).filterMap codeOf? := by
  rw [codeLines, filter_map_trimEnd, Text.lines, Text.Chars.lines, filterMap_linesOfPieces]

/-- The lines between the line feeds of a file are the only ones that make it up. -/
theorem splitWhere_joinWith {pieces : List String} (hne : pieces ≠ [])
    (h : ∀ p ∈ pieces, '\n' ∉ p.toList) :
    (Text.Chars.splitWhere (· == '\n') (Text.joinWith "\n" pieces).toList).map String.ofList =
      pieces := by
  have hchars : (Text.joinWith "\n" pieces).toList =
      ['\n'].intercalate (pieces.map String.toList) := Text.toList_joinWith "\n" pieces
  rw [hchars, Text.Chars.splitWhere_intercalate (by simpa using hne) (List.forall_mem_map.mpr h),
    List.map_map]
  simp

theorem filterMap_map_codeOf? (pieces : List String) :
    (pieces.map codeOf?).filterMap id = pieces.filterMap codeOf? := by
  rw [List.filterMap_map, Function.id_comp]

/-- A run evaluates the lines of code that the file gives, and no others. -/
theorem codeLines_eq_iff : codeLines data = lines ↔ CodeOf data lines := by
  rw [codeLines_eq_filterMap]
  constructor
  · -- the lines between the line feeds are those that the program finds
    rintro rfl
    refine ⟨(Text.Chars.splitWhere (· == '\n') data.toList).map String.ofList, _, ?_, ?_,
      forall₂_givesCode_iff.mpr rfl, ?_⟩
    · apply String.toList_injective
      rw [Text.toList_joinWith, List.map_map]
      simpa using Text.Chars.intercalate_splitWhere '\n' data.toList
    · refine List.forall_mem_map.mpr fun p hp hmem => ?_
      rw [String.toList_ofList] at hmem
      exact absurd (Text.Chars.forall_mem_splitWhere _ _ p hp _ hmem) (by decide)
    · exact filterMap_map_codeOf? _
  · rintro ⟨pieces, codes, rfl, hpieces, hcodes, rfl⟩
    obtain rfl := forall₂_givesCode_iff.mp hcodes
    rw [filterMap_map_codeOf?]
    by_cases hne : pieces = []
    · -- an empty file is one empty line as well as none
      have hempty : codeOf? "" = none := by decide
      simp [hne, Text.Chars.splitWhere, hempty]
    · rw [splitWhere_joinWith hne hpieces]

end BracketScript
