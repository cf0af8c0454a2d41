import BracketScript.Json.Parser
import BracketScript.Json.Printer
import BracketScript.Proofs.Encoding
import BracketScript.Proofs.Literals

/-!
# Compact JSON texts are the most sparing

The compact text of a value writes no escape that it does not need. Here this is made precise by
counting marks, backslashes and the letter `u`: no text that is read as the value has fewer of them.
The letter counts too, since `\u005c` stands for a backslash as `\\` does, with one backslash less.
A reader keeps the count: the marks of the compact text of what it has read and those of what is
left are no more than the marks that it has been given.

## Main definitions

* `Json.marks`: the number of backslashes and letters `u` of some bytes
* `Json.cost`: the number of marks that a value has in compact text
* `Json.Reader.Spends`: a reader that keeps the count

## Main results

* `Json.readString_spends`, `Json.readNumber_leavesEnd`, `Json.readValue_spends`: readers keep the
  count
* `Json.cost_le_of_parse`: no text of a value has fewer marks than the compact one
-/

namespace BracketScript.Json

/-! ### Marks -/

/-- The marks of a character: backslashes and the letter `u` are counted. -/
def mark (c : Char) : Nat := if c = '\\' ∨ c = 'u' then 1 else 0

/-- The marks of a character of a string in compact text. -/
def escapedMarks (c : Char) : Nat := ((escapeChar c).map mark).sum

/-- The marks of some bytes. -/
def marks (bytes : Bytes) : Nat := (bytes.map (Bytes.weight mark)).sum

/-- The marks of some bytes of a string in compact text. -/
def contentMarks (bytes : Bytes) : Nat := (bytes.map (Bytes.weight escapedMarks)).sum

variable {bytes rest : Bytes} {b : UInt8} {c : Char}

theorem mark_eq_zero (h : 128 ≤ c.toNat) : mark c = 0 := by
  rw [mark, if_neg]
  rintro (rfl | rfl) <;> exact absurd h (by decide)

/-- How one character of a string can be written in compact text. -/
inductive IsEscape (c : Char) : List Char → Prop
  | quote (hquote : c = '"') : IsEscape c ['\\', '"']
  | backslash (hbackslash : c = '\\') : IsEscape c ['\\', '\\']
  | letter {d : Char} (hquote : c ≠ '"') (hbackslash : c ≠ '\\')
      (hd : d = 'b' ∨ d = 'f' ∨ d = 'n' ∨ d = 'r' ∨ d = 't') : IsEscape c ['\\', d]
  | control {m n : Nat} (hquote : c ≠ '"') (hbackslash : c ≠ '\\') (hm : m < 16) (hn : n < 16) :
      IsEscape c ['\\', 'u', '0', '0', hexDigit m, hexDigit n]
  | plain (hquote : c ≠ '"') (hbackslash : c ≠ '\\') : IsEscape c [c]

theorem isEscape_escapeChar (c : Char) : IsEscape c (escapeChar c) := by
  rw [escapeChar]
  by_cases hquote : c = '"'
  · rw [if_pos hquote]
    exact .quote hquote
  by_cases hbackslash : c = '\\'
  · rw [if_neg hquote, if_pos hbackslash]
    exact .backslash hbackslash
  rw [if_neg hquote, if_neg hbackslash]
  split
  · exact .letter hquote hbackslash (by decide)
  split
  · exact .letter hquote hbackslash (by decide)
  split
  · exact .letter hquote hbackslash (by decide)
  split
  · exact .letter hquote hbackslash (by decide)
  split
  · exact .letter hquote hbackslash (by decide)
  split
  next hcontrol => exact .control hquote hbackslash (by omega) (Nat.mod_lt _ (by decide))
  next => exact .plain hquote hbackslash

/-- Without an escape a character is counted as it is. -/
theorem escapedMarks_of_plain (hquote : c ≠ '"') (hbackslash : c ≠ '\\') (hc : 32 ≤ c.toNat) :
    escapedMarks c = mark c := by
  have hne {d : Char} (hd : d.toNat < 32) : c ≠ d := by
    rintro rfl
    omega
  have hescape : escapeChar c = [c] := by
    rw [escapeChar, if_neg hquote, if_neg hbackslash, if_neg (by omega), if_neg (by omega),
      if_neg (hne (by decide)), if_neg (hne (by decide)), if_neg (hne (by decide)),
      if_neg (by omega)]
  rw [escapedMarks, hescape, List.map_singleton, List.sum_singleton]

theorem escapedMarks_eq_zero (h : 128 ≤ c.toNat) : escapedMarks c = 0 := by
  have hne {d : Char} (hd : d.toNat < 128) : c ≠ d := by
    rintro rfl
    omega
  rw [escapedMarks_of_plain (hne (by decide)) (hne (by decide)) (by omega), mark_eq_zero h]

/-- An escape has at most two marks. -/
theorem escapedMarks_le_two (c : Char) : escapedMarks c ≤ 2 := by
  have hdigit : ∀ n < 16, mark (hexDigit n) = 0 := by decide
  have hescape := isEscape_escapeChar c
  rw [escapedMarks]
  generalize escapeChar c = escape at hescape
  cases hescape with
  | quote | backslash => decide
  | letter _ _ hd => rcases hd with rfl | rfl | rfl | rfl | rfl <;> decide
  | @control m n _ _ hm hn =>
    simp only [List.map_cons, List.map_nil, List.sum_cons, List.sum_nil, hdigit m hm, hdigit n hn]
    decide
  | plain =>
    rw [List.map_singleton, List.sum_singleton, mark]
    split <;> decide

theorem marks_le_of_suffix (h : rest <:+ bytes) : marks rest ≤ marks bytes := by
  obtain ⟨front, rfl⟩ := h
  rw [marks, marks, List.map_append, List.sum_append]
  exact Nat.le_add_left _ _

theorem marks_cons (b : UInt8) (bytes : Bytes) :
    marks (b :: bytes) = Bytes.weight mark b + marks bytes := rfl

theorem contentMarks_cons (b : UInt8) (bytes : Bytes) :
    contentMarks (b :: bytes) = Bytes.weight escapedMarks b + contentMarks bytes := rfl

theorem marks_ofString (s : String) : marks (Bytes.ofString s) = (s.toList.map mark).sum :=
  Bytes.sum_ofString (fun _ => mark_eq_zero) s

theorem contentMarks_ofString (s : String) :
    contentMarks (Bytes.ofString s) = (s.toList.map escapedMarks).sum :=
  Bytes.sum_ofString (fun _ => escapedMarks_eq_zero) s

/-! ### Numbers -/

/-- A reader that leaves an end of what it has been given. -/
def Reader.LeavesEnd {α : Type} (r : Reader α) : Prop :=
  ∀ {bytes a rest}, r bytes = .ok (a, rest) → rest <:+ bytes

section Numbers

variable (negative down : Bool) (significand exponent : Nat) (start : Int)

theorem finishBinary_leavesEnd : (finishBinary negative significand start).LeavesEnd := by
  intro bytes a rest h
  rw [finishBinary] at h
  split at h <;> cases h
  exact List.suffix_rfl

theorem readExponentDigits_leavesEnd :
    (readExponentDigits negative significand start down exponent).LeavesEnd := by
  intro bytes a rest h
  induction bytes generalizing exponent with
  | nil =>
    rw [readExponentDigits] at h
    exact finishBinary_leavesEnd _ _ _ h
  | cons b bytes ih =>
    rw [readExponentDigits] at h
    split at h
    · split at h
      · exact (ih _ h).trans (List.suffix_cons b bytes)
      · split at h <;> cases h
        exact (List.dropWhile_suffix _).trans (List.suffix_cons b bytes)
    · exact finishBinary_leavesEnd _ _ _ h

theorem readExponentStart_leavesEnd :
    (readExponentStart negative significand start down).LeavesEnd := by
  intro bytes a rest h
  cases bytes with
  | nil => cases h
  | cons b bytes =>
    rw [readExponentStart] at h
    split at h
    · exact (readExponentDigits_leavesEnd _ _ _ _ _ h).trans (List.suffix_cons b bytes)
    · cases h

theorem readExponent_leavesEnd : (readExponent negative significand start).LeavesEnd := by
  intro bytes a rest h
  unfold readExponent at h
  split at h
  · exact (readExponentStart_leavesEnd _ _ _ _ h).trans (List.suffix_cons _ _)
  · exact (readExponentStart_leavesEnd _ _ _ _ h).trans (List.suffix_cons _ _)
  · exact readExponentStart_leavesEnd _ _ _ _ h

theorem finishDecimal_leavesEnd : (finishDecimal negative significand start).LeavesEnd := by
  intro bytes a rest h
  cases bytes with
  | nil => exact finishBinary_leavesEnd _ _ _ h
  | cons b bytes =>
    rw [finishDecimal] at h
    split at h
    · exact (readExponent_leavesEnd _ _ _ h).trans (List.suffix_cons b bytes)
    · exact finishBinary_leavesEnd _ _ _ h

theorem readFraction_leavesEnd (any : Bool) :
    (readFraction negative significand start any).LeavesEnd := by
  intro bytes a rest h
  induction bytes generalizing significand start any with
  | nil =>
    rw [readFraction] at h
    split at h
    · exact finishDecimal_leavesEnd _ _ _ h
    · cases h
  | cons b bytes ih =>
    rw [readFraction] at h
    split at h
    · split at h
      · exact (ih _ _ _ h).trans (List.suffix_cons b bytes)
      · exact (finishDecimal_leavesEnd _ _ _ h).trans
          ((List.dropWhile_suffix _).trans (List.suffix_cons b bytes))
    · split at h
      · exact finishDecimal_leavesEnd _ _ _ h
      · cases h

theorem readLongInteger_leavesEnd :
    (readLongInteger negative significand exponent).LeavesEnd := by
  intro bytes a rest h
  induction bytes generalizing exponent with
  | nil => exact finishBinary_leavesEnd _ _ _ h
  | cons b bytes ih =>
    rw [readLongInteger] at h
    split at h
    · exact (ih _ h).trans (List.suffix_cons b bytes)
    · split at h
      · exact (readFraction_leavesEnd _ _ _ _ h).trans (List.suffix_cons b bytes)
      · exact finishDecimal_leavesEnd _ _ _ h

theorem finishInteger_leavesEnd : Reader.LeavesEnd (finishInteger negative significand) := by
  intro bytes a rest h
  rw [finishInteger] at h
  split at h
  · cases h
    exact List.suffix_rfl
  · split at h
    · exact finishBinary_leavesEnd _ _ _ h
    · cases h
      exact List.suffix_rfl

theorem readAfterInteger_leavesEnd : (readAfterInteger negative significand).LeavesEnd := by
  intro bytes a rest h
  cases bytes with
  | nil => exact finishInteger_leavesEnd _ _ h
  | cons b bytes =>
    rw [readAfterInteger] at h
    split at h
    · exact (readFraction_leavesEnd _ _ _ _ h).trans (List.suffix_cons b bytes)
    · split at h
      · exact (readExponent_leavesEnd _ _ _ h).trans (List.suffix_cons b bytes)
      · exact finishInteger_leavesEnd _ _ h

theorem readInteger_leavesEnd : (readInteger negative significand).LeavesEnd := by
  intro bytes a rest h
  induction bytes generalizing significand with
  | nil => exact readAfterInteger_leavesEnd _ _ h
  | cons b bytes ih =>
    rw [readInteger] at h
    split at h
    · split at h
      · exact (ih _ h).trans (List.suffix_cons b bytes)
      · exact readLongInteger_leavesEnd _ _ _ h
    · exact readAfterInteger_leavesEnd _ _ h

/-- A number is read off the front. -/
theorem readNumber_leavesEnd : (readNumber negative).LeavesEnd := by
  intro bytes a rest h
  cases bytes with
  | nil => cases h
  | cons b bytes =>
    rw [readNumber.eq_def] at h
    dsimp only at h
    split at h
    · split at h
      · exact (readAfterInteger_leavesEnd _ _ h).trans List.nil_suffix
      · split at h
        · cases h
        · exact (readAfterInteger_leavesEnd _ _ h).trans (List.suffix_cons _ _)
    · split at h
      · exact (readInteger_leavesEnd _ _ h).trans (List.suffix_cons b bytes)
      · cases h

end Numbers

/-! ### Strings -/

/-- A short escape is as long as the one in compact text, or longer. -/
theorem escapedMarks_shortEscape {e c : UInt8} (h : shortEscape? e = some c) :
    Bytes.weight escapedMarks c ≤ 1 + Bytes.weight mark e := by
  unfold shortEscape? at h
  repeat' split at h
  all_goals cases h
  all_goals
    next he =>
      obtain rfl := eq_of_beq he
      decide

theorem contentMarks_pushCodePoint (n : Nat) (reversed : Bytes) :
    contentMarks (pushCodePoint n reversed) ≤ 2 + contentMarks reversed := by
  have hchar : contentMarks (Bytes.ofString (String.singleton (Char.ofNat n))) ≤ 2 := by
    rw [contentMarks_ofString]
    simpa using escapedMarks_le_two (Char.ofNat n)
  rw [contentMarks] at hchar
  rw [pushCodePoint, contentMarks, List.map_append, List.sum_append, List.map_reverse,
    List.sum_reverse, contentMarks]
  omega

/-- A byte that is no escape is counted in compact text as it is. -/
theorem weight_escapedMarks (hquote : b ≠ 0x22) (hbackslash : b ≠ 0x5c) (hcontrol : ¬ b < 0x20) :
    Bytes.weight escapedMarks b = Bytes.weight mark b := by
  rw [Bytes.weight, Bytes.weight]
  split
  next hascii =>
    -- the byte is the code point of its character, so that the character has no escape either
    have htoNat : (Char.ofNat b.toNat).toNat = b.toNat := by
      rw [Char.ofNat, dif_pos (.inl (Nat.lt_trans hascii (by decide)))]
      rfl
    have hne {c : Char} {d : UInt8} (hd : c.toNat = d.toNat) (h : b ≠ d) :
        Char.ofNat b.toNat ≠ c := by
      rintro rfl
      exact h (UInt8.toNat_inj.mp (htoNat.symm.trans hd))
    refine escapedMarks_of_plain (hne rfl hquote) (hne rfl hbackslash) ?_
    rw [htoNat]
    exact Nat.not_lt.mp hcontrol
  next => rfl

/-- The rest of a string is read without more marks than it has. -/
theorem readStringFrom_spends (reversed : Bytes) {s : String}
    (h : readStringFrom reversed bytes = .ok (s, rest)) :
    (s.toList.map escapedMarks).sum + marks rest ≤ contentMarks reversed + marks bytes := by
  have hbackslash : Bytes.weight mark 0x5c = 1 := by decide
  have hletter : Bytes.weight mark 0x75 = 1 := by decide
  -- the bytes that have been read are counted as their compact text, those ahead as they are
  fun_induction readStringFrom reversed bytes with
  | case2 reversed rest s' hs =>
    -- the closing quote
    cases h
    have hcontent : contentMarks reversed = (s.toList.map escapedMarks).sum := by
      rw [← contentMarks_ofString, Bytes.ofString_of_toString? hs, contentMarks, contentMarks,
        List.map_reverse, List.sum_reverse]
    rw [hcontent, marks_cons]
    omega
  | case5 reversed b rest' hquote hcontrol hplain ih =>
    -- a byte that stands for itself
    have hrest := ih h
    rw [contentMarks_cons, weight_escapedMarks hquote hplain hcontrol] at hrest
    rw [marks_cons]
    omega
  | case7 reversed b hquote hcontrol hb e rest' he c hc ih =>
    -- an escape of one letter
    obtain rfl := Decidable.not_not.mp hb
    have hrest := ih h
    have hescape := escapedMarks_shortEscape hc
    rw [contentMarks_cons] at hrest
    rw [marks_cons, marks_cons, hbackslash]
    omega
  | case11 reversed b hquote hcontrol hb e he h₁ h₂ h₃ h₄ rest' n hn hlone hsingle ih =>
    -- a code point, whose backslash and `u` pay for any escape
    obtain rfl := Decidable.not_not.mp hb
    obtain rfl := Decidable.not_not.mp he
    have hrest := ih h
    have hpush := contentMarks_pushCodePoint n reversed
    simp only [marks_cons, hbackslash, hletter]
    omega
  | case18 reversed b hquote hcontrol hb e he h₁ h₂ h₃ h₄ n hn hlone hpair b' hb' e' he' t₁ t₂ t₃ t₄
      rest' m hm hlow ih =>
    -- a code point written as two surrogates, of which the first one pays already
    obtain rfl := Decidable.not_not.mp hb
    obtain rfl := Decidable.not_not.mp he
    have hrest := ih h
    have hpush := contentMarks_pushCodePoint
      ((n - 0xd800) * 0x400 + (m - 0xdc00) + 0x10000) reversed
    simp only [marks_cons, hbackslash, hletter]
    omega
  | _ => cases h

theorem readString_spends {s : String} (h : readString bytes = .ok (s, rest)) :
    (s.toList.map escapedMarks).sum + marks rest ≤ marks bytes :=
  Nat.le_trans (readStringFrom_spends [] h) (Nat.le_of_eq (Nat.zero_add _))

/-! ### Texts of numbers -/

/-- A character of a number: a digit, a sign, the decimal point or the letter of the exponent. -/
def isNumberChar (c : Char) : Bool := Text.isAsciiDigit c || c ∈ ['-', '+', '.', 'e']

section NumberTexts

variable {digits : List Char} (hdigits : ∀ c ∈ digits, isNumberChar c = true)

theorem isNumberChar_ofNat (n : Nat) : ∀ c ∈ Text.Chars.ofNat n, isNumberChar c = true := by
  intro c hc
  rw [isNumberChar, Text.Chars.isAsciiDigit_of_mem_ofNat hc, Bool.true_or]

theorem isNumberChar_replicate (n : Nat) : ∀ c ∈ List.replicate n '0', isNumberChar c = true := by
  intro c hc
  rw [List.eq_of_mem_replicate hc]
  decide

include hdigits

theorem isNumberChar_positional (whole : Int) :
    ∀ c ∈ Binary64.positional digits whole, isNumberChar c = true := by
  have hsmall : ∀ c ∈ ['0', '.'], isNumberChar c = true := List.all_eq_true.mp (by decide)
  have hpoint : ∀ c ∈ ['.'], isNumberChar c = true := List.all_eq_true.mp (by decide)
  have hwhole : ∀ c ∈ ['.', '0'], isNumberChar c = true := List.all_eq_true.mp (by decide)
  unfold Binary64.positional
  simp only
  split
  · exact List.forall_mem_append.mpr
      ⟨List.forall_mem_append.mpr ⟨hsmall, isNumberChar_replicate _⟩, hdigits⟩
  · split
    · exact List.forall_mem_append.mpr
        ⟨List.forall_mem_append.mpr ⟨hdigits, isNumberChar_replicate _⟩, hwhole⟩
    · exact List.forall_mem_append.mpr
        ⟨List.forall_mem_append.mpr ⟨fun c h => hdigits c (List.mem_of_mem_take h), hpoint⟩,
          fun c h => hdigits c (List.mem_of_mem_drop h)⟩

theorem isNumberChar_scientific (exponent : Int) :
    ∀ c ∈ Binary64.scientific digits exponent, isNumberChar c = true := by
  have hpoint : isNumberChar '.' = true := by decide
  have hsign : ∀ c ∈ ['e', if exponent < 0 then '-' else '+'], isNumberChar c = true := by
    split <;> exact List.all_eq_true.mp (by decide)
  unfold Binary64.scientific
  simp only
  refine List.forall_mem_append.mpr ⟨List.forall_mem_append.mpr ⟨?_, hsign⟩, isNumberChar_ofNat _⟩
  split
  · obtain ⟨hd, hrest⟩ := List.forall_mem_cons.mp hdigits
    exact List.forall_mem_cons.mpr ⟨hd, List.forall_mem_cons.mpr ⟨hpoint, hrest⟩⟩
  · exact hdigits

end NumberTexts

theorem isNumberChar_text (n : Number) : ∀ c ∈ n.text.toList, isNumberChar c = true := by
  have hminus : ∀ c ∈ ['-'], isNumberChar c = true := List.all_eq_true.mp (by decide)
  cases n with
  | integer n =>
    rw [Number.text, Text.intText, String.toList_ofList]
    cases n with
    | ofNat k => exact isNumberChar_ofNat k
    | negSucc k => exact List.forall_mem_cons.mpr ⟨by decide, isNumberChar_ofNat (k + 1)⟩
  | binary x =>
    have hsign : ∀ c ∈ (if x.isNegative then ['-'] else []), isNumberChar c = true := by
      split
      · exact hminus
      · exact List.forall_mem_nil _
    rw [Number.text, Binary64.text]
    simp only
    split
    · rw [String.toList_ofList]
      exact List.forall_mem_append.mpr ⟨hsign, List.all_eq_true.mp (by decide)⟩
    · rw [String.toList_ofList]
      refine List.forall_mem_append.mpr ⟨hsign, ?_⟩
      split
      · exact isNumberChar_positional (isNumberChar_ofNat _) _
      · exact isNumberChar_scientific (isNumberChar_ofNat _) _

/-! ### What values cost -/

/-- The marks of the compact text of a value. -/
def cost (v : Json) : Nat := (v.compact.toList.map mark).sum

/-- The marks of a name in compact text. -/
def nameCost (name : String) : Nat := (name.toList.map escapedMarks).sum

/-- The marks of a member of an object in compact text. -/
def memberCost (member : String × Json) : Nat := nameCost member.1 + cost member.2

theorem sum_joinWith {f : Char → Nat} {sep : String} (hsep : (sep.toList.map f).sum = 0)
    (texts : List String) : ((Text.joinWith sep texts).toList.map f).sum =
      (texts.map fun text => (text.toList.map f).sum).sum := by
  induction texts with
  | nil => rfl
  | cons text rest ih =>
    cases rest with
    | nil => simp
    | cons next rest =>
      rw [Text.joinWith_cons_cons, String.toList_append, String.toList_append, List.map_append,
        List.map_append, List.sum_append, List.sum_append, hsep, ih, Nat.add_zero]
      rfl

theorem compactItems_eq_map (items : List Json) : compactItems items = items.map compact := by
  induction items with
  | nil => rfl
  | cons item rest ih => rw [compactItems, ih, List.map_cons]

theorem compactMembers_eq_map (members : List (String × Json)) :
    compactMembers members = members.map fun m => quote m.1 ++ ":" ++ m.2.compact := by
  induction members with
  | nil => rfl
  | cons member rest ih => rw [compactMembers, ih, List.map_cons]

theorem sum_quote (s : String) : ((quote s).toList.map mark).sum = nameCost s := by
  have hquote : (['"'].map mark).sum = 0 := by decide
  rw [quote, String.toList_ofList, List.map_append, List.map_append, List.sum_append,
    List.sum_append, hquote, Nat.zero_add, Nat.add_zero, nameCost]
  induction s.toList with
  | nil => rfl
  | cons c cs ih =>
    rw [List.flatMap_cons, List.map_append, List.sum_append, ih, List.map_cons, List.sum_cons,
      escapedMarks]

theorem cost_string (s : String) : cost (.string s) = nameCost s := by
  rw [cost, compact, sum_quote]

theorem cost_number (n : Number) : cost (.number n) = 0 := by
  -- no character of a number is a mark
  refine List.sum_eq_zero (List.forall_mem_map.mpr fun c hc => ?_)
  rw [compact] at hc
  have hnumber := isNumberChar_text n c hc
  rw [mark, if_neg]
  rintro (rfl | rfl) <;> exact absurd hnumber (by decide)

theorem cost_array (items : List Json) : cost (.array items) = (items.map cost).sum := by
  have hcomma : (",".toList.map mark).sum = 0 := by decide
  have hopen : ("[".toList.map mark).sum = 0 := by decide
  have hclose : ("]".toList.map mark).sum = 0 := by decide
  rw [cost, compact, String.toList_append, String.toList_append, List.map_append, List.map_append,
    List.sum_append, List.sum_append, hopen, hclose, Nat.zero_add, Nat.add_zero,
    sum_joinWith hcomma, compactItems_eq_map, List.map_map]
  rfl

theorem cost_object (members : List (String × Json)) :
    cost (.object members) = (members.map memberCost).sum := by
  have hcomma : (",".toList.map mark).sum = 0 := by decide
  have hopen : ("\x7b".toList.map mark).sum = 0 := by decide
  have hclose : ("\x7d".toList.map mark).sum = 0 := by decide
  have hcolon : (":".toList.map mark).sum = 0 := by decide
  have hmember (m : String × Json) :
      ((quote m.1 ++ ":" ++ m.2.compact).toList.map mark).sum = memberCost m := by
    rw [String.toList_append, String.toList_append, List.map_append, List.map_append,
      List.sum_append, List.sum_append, hcolon, sum_quote, memberCost, cost, Nat.add_zero]
  rw [cost, compact, String.toList_append, String.toList_append, List.map_append, List.map_append,
    List.sum_append, List.sum_append, hopen, hclose, Nat.zero_add, Nat.add_zero,
    sum_joinWith hcomma, compactMembers_eq_map, List.map_map]
  simp only [Function.comp_def, hmember]

/-- A member that replaces another one makes an object cheaper than both would. -/
theorem sum_insertMember_le (name : String) (v : Json) (members : List (String × Json)) :
    ((insertMember name v members).map memberCost).sum ≤
      memberCost (name, v) + (members.map memberCost).sum := by
  induction members with
  | nil => exact Nat.le_refl _
  | cons member rest ih =>
    obtain ⟨n, w⟩ := member
    rw [insertMember]
    split
    · exact Nat.le_refl _
    · split
      · simp only [List.map_cons, List.sum_cons]
        omega
      · simp only [List.map_cons, List.sum_cons]
        omega

/-! ### Values -/

/-- A reader that keeps the count: what has been read costs no more marks than are not left. -/
def Reader.Spends {α : Type} (r : Reader α) (cost : α → Nat) : Prop :=
  ∀ {bytes a rest}, r bytes = .ok (a, rest) → cost a + marks rest ≤ marks bytes

theorem readIdent_eq_ok {word : Bytes} (h : readIdent word bytes = .ok rest) :
    bytes = word ++ rest := by
  fun_induction readIdent word bytes with
  | case1 bytes =>
    cases h
    rfl
  | case3 w word bytes ih => rw [ih h, List.cons_append]
  | _ => cases h

theorem marks_append (front : Bytes) : marks (front ++ rest) = marks front + marks rest := by
  rw [marks, List.map_append, List.sum_append, marks, marks]

theorem marks_skipGap_le {skipped : Bytes} (h : skipGap bytes = skipped) :
    marks skipped ≤ marks bytes :=
  h ▸ marks_le_of_suffix (List.dropWhile_suffix _)

theorem marks_le_of_skipGap (h : skipGap bytes = b :: rest) : marks rest ≤ marks bytes :=
  Nat.le_trans (marks_le_of_suffix (List.suffix_cons b rest)) (marks_skipGap_le h)

theorem marks_readColon_le (h : readColon bytes = .ok rest) : marks rest ≤ marks bytes := by
  rw [readColon] at h
  split at h
  · cases h
  next b rest' hskip =>
    split at h <;> cases h
    exact marks_le_of_skipGap hskip

section Parts

variable {item : Reader Json} (hitem : item.Spends cost)
include hitem

/-- The further items of an array are read without more marks than they have. -/
theorem readItems_spends {count : Nat} {reversed : List Json} {v : Json}
    (h : readItems item count reversed bytes = .ok (v, rest)) :
    cost v + marks rest ≤ (reversed.map cost).sum + marks bytes := by
  induction count generalizing reversed bytes with
  | zero => cases h
  | succ count ih =>
    rw [readItems] at h
    split at h
    · cases h
    next b rest' hskip =>
      have hmarks := marks_le_of_skipGap hskip
      split at h
      · cases h
        rw [cost_array, List.map_reverse, List.sum_reverse]
        omega
      · split at h
        · split at h
          · cases h
          next c rest'' hskip' =>
            have hmarks' := marks_skipGap_le hskip'
            split at h
            · cases h
            · split at h
              next value left hvalue =>
                have hread := hitem hvalue
                have hrest := ih h
                rw [List.map_cons, List.sum_cons] at hrest
                omega
              · cases h
        · cases h

theorem readArray_spends : (readArray item).Spends cost := by
  intro bytes v rest h
  rw [readArray] at h
  split at h
  · cases h
  next b rest' hskip =>
    have hmarks := marks_skipGap_le hskip
    split at h
    · cases h
      exact marks_le_of_skipGap hskip |>.trans' (by rw [cost_array]; simp)
    · split at h
      next value left hvalue =>
        have hread := hitem hvalue
        have hitems := readItems_spends hitem h
        rw [List.map_singleton, List.sum_singleton] at hitems
        omega
      · cases h

theorem readMember_spends : (readMember item).Spends memberCost := by
  intro bytes member rest h
  obtain ⟨⟨name, afterName⟩, hname, h⟩ := exceptBind_eq_ok_iff.mp h
  obtain ⟨afterColon, hcolon, h⟩ := exceptBind_eq_ok_iff.mp h
  obtain ⟨⟨value, left⟩, hvalue, h⟩ := exceptBind_eq_ok_iff.mp h
  cases h
  have hspent := readString_spends hname
  have hskipped := marks_readColon_le hcolon
  have hread := hitem hvalue
  simp only [memberCost, nameCost]
  omega

/-- The further members of an object are read without more marks than they have. -/
theorem readMembers_spends {count : Nat} {members : List (String × Json)} {v : Json}
    (h : readMembers item count members bytes = .ok (v, rest)) :
    cost v + marks rest ≤ (members.map memberCost).sum + marks bytes := by
  induction count generalizing members bytes with
  | zero => cases h
  | succ count ih =>
    rw [readMembers] at h
    split at h
    · cases h
    next b rest' hskip =>
      have hmarks := marks_le_of_skipGap hskip
      split at h
      · cases h
        rw [cost_object]
        omega
      · split at h
        · split at h
          · cases h
          next c rest'' hskip' =>
            have hmarks' := marks_le_of_skipGap hskip'
            split at h
            · split at h
              next name value left hmember =>
                have hread := readMember_spends hitem hmember
                have hinserted := sum_insertMember_le name value members
                have hrest := ih h
                omega
              · cases h
            · split at h <;> cases h
        · cases h

theorem readObject_spends : (readObject item).Spends cost := by
  intro bytes v rest h
  rw [readObject] at h
  split at h
  · cases h
  next b rest' hskip =>
    have hmarks := marks_le_of_skipGap hskip
    split at h
    · cases h
      rw [cost_object, List.map_nil, List.sum_nil]
      omega
    · split at h
      · split at h
        next name value left hmember =>
          have hread := readMember_spends hitem hmember
          have hmembers := readMembers_spends hitem h
          rw [List.map_singleton, List.sum_singleton] at hmembers
          omega
        · cases h
      · cases h

end Parts

/-- A word is read with the marks that it has. -/
theorem readIdent_spends {word : Bytes} {v w : Json}
    (h : ((readIdent word bytes).map fun rest => (v, rest)) = .ok (w, rest)) :
    w = v ∧ marks word + marks rest = marks bytes := by
  obtain ⟨left, hleft, heq⟩ := exceptMap_eq_ok_iff.mp h
  cases heq
  rw [readIdent_eq_ok hleft, marks_append]
  exact ⟨rfl, rfl⟩

/-- A number has no marks. -/
theorem readNumber_spends {negative : Bool} {v : Json} {given : Bytes}
    (h : ((readNumber negative bytes).map fun (n, rest) => (number n, rest)) = .ok (v, rest))
    (hbytes : marks bytes ≤ marks given) : cost v + marks rest ≤ marks given := by
  obtain ⟨⟨n, left⟩, hnumber, heq⟩ := exceptMap_eq_ok_iff.mp h
  cases heq
  have hleft := marks_le_of_suffix (readNumber_leavesEnd _ hnumber)
  rw [cost_number]
  omega

/-- Values are read without more marks than their compact texts have. -/
theorem readValue_spends (depth : Nat) : (readValue depth).Spends cost := by
  induction depth with
  | zero =>
    intro bytes v rest h
    cases h
  | succ depth ih =>
    intro bytes v rest h
    rw [readValue] at h
    split at h
    · cases h
    next b rest' hskip =>
      have hmarks := marks_skipGap_le hskip
      have hrest := marks_le_of_skipGap hskip
      by_cases hnull : b = 0x6e
      · rw [if_pos hnull] at h
        -- both the word and its text have one letter that counts
        obtain ⟨rfl, hword⟩ := readIdent_spends h
        have hletters : cost null = marks [0x75, 0x6c, 0x6c] := by decide
        omega
      rw [if_neg hnull] at h
      by_cases htrue : b = 0x74
      · rw [if_pos htrue] at h
        obtain ⟨rfl, hword⟩ := readIdent_spends h
        have hletters : cost (bool true) = marks [0x72, 0x75, 0x65] := by decide
        omega
      rw [if_neg htrue] at h
      by_cases hfalse : b = 0x66
      · rw [if_pos hfalse] at h
        obtain ⟨rfl, hword⟩ := readIdent_spends h
        have hletters : cost (bool false) = marks [0x61, 0x6c, 0x73, 0x65] := by decide
        omega
      rw [if_neg hfalse] at h
      by_cases hminus : b = 0x2d
      · rw [if_pos hminus] at h
        exact readNumber_spends h hrest
      rw [if_neg hminus] at h
      by_cases hdigit : isDigitByte b = true
      · rw [if_pos hdigit] at h
        exact readNumber_spends h hmarks
      rw [if_neg hdigit] at h
      by_cases hstring : b = 0x22
      · rw [if_pos hstring] at h
        obtain ⟨⟨s, left⟩, hs, heq⟩ := exceptMap_eq_ok_iff.mp h
        cases heq
        have hspent := readString_spends hs
        rw [cost_string, nameCost]
        omega
      rw [if_neg hstring] at h
      split at h
      · split at h
        · cases h
        · exact Nat.le_trans (readArray_spends ih h) hrest
      · split at h
        · split at h
          · cases h
          · exact Nat.le_trans (readObject_spends ih h) hrest
        · cases h

/-- A text is read byte by byte. -/
theorem parse_eq_ok_iff {text : String} {v : Json} :
    parse text = .ok v ↔ parseBytes (Bytes.ofString text) = .ok v := by
  rw [parse]
  cases parseBytes (Bytes.ofString text) with
  | error fault => exact ⟨nofun, nofun⟩
  | ok w =>
    change Except.ok w = Except.ok v ↔ Except.ok w = Except.ok v
    rw [Except.ok.injEq, Except.ok.injEq]

/-- No text of a value has fewer marks than the compact one. -/
theorem cost_le_of_parse {text : String} {v : Json} (h : parse text = .ok v) :
    cost v ≤ (text.toList.map mark).sum := by
  obtain ⟨⟨w, rest⟩, hvalue, hend⟩ := exceptBind_eq_ok_iff.mp (parse_eq_ok_iff.mp h)
  obtain ⟨-, -, heq⟩ := exceptBind_eq_ok_iff.mp hend
  cases heq
  rw [← marks_ofString]
  exact Nat.le_trans (Nat.le_add_right _ _) (readValue_spends maxDepth hvalue)

end BracketScript.Json
