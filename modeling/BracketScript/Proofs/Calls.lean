import BracketScript.Proofs.Separators
import BracketScript.Proofs.Spans

/-!
# Calls and their arguments

A call is a text in brackets, with the arguments in parentheses after the name. The scanner finds
the bracket that closes the call by the depth, takes the first opening parenthesis for that of the
call and the last closing one for its end, and cuts the arguments at the commas at depth zero. So
any text can stand between the brackets that does not close the call itself, and any text between
the commas that has none at depth zero itself.

## Main definitions

* `Brackets.StaysOpen`: a text without a bracket that closes the last open one
* `Brackets.IsInner`: a text that can stand between a bracket and the one that closes it
* `Brackets.Undivided`: a text without a comma at depth zero
* `Brackets.IsPlain`: a text without brackets and commas

## Main results

* `Brackets.inside?_eq_some_iff`: what is found between a bracket and the one that closes it
* `Brackets.spansOf_bracketed`: such a text in brackets is one span
* `Brackets.arguments_joinWith`: undivided arguments with commas between them are found again
* `Brackets.joinWith_arguments`: the arguments with commas between them give the text again
* `Call.spans_bracketed`: a call in brackets is one span
* `Call.parse_bracketed`: its name and its argument text are read back
-/

namespace BracketScript

namespace Brackets

variable {cs xs ys : List Char} {depth : Int32}

/-! ### Balanced texts -/

theorem count_of_not_isBracket (h : ∀ c ∈ xs, isBracket c = false) :
    xs.count '[' = 0 ∧ xs.count ']' = 0 :=
  ⟨List.count_eq_zero.mpr fun hmem => Bool.noConfusion (h _ hmem),
    List.count_eq_zero.mpr fun hmem => Bool.noConfusion (h _ hmem)⟩

theorem balance_of_not_isBracket (h : ∀ c ∈ xs, isBracket c = false) : balance xs = 0 := by
  obtain ⟨hopen, hclose⟩ := count_of_not_isBracket h
  rw [balance_eq_zero_iff, IsLevel, hopen, hclose]

/-- A text without brackets is balanced. -/
theorem balanced_of_not_isBracket (h : ∀ c ∈ xs, isBracket c = false) : Balanced xs := by
  refine ⟨fun p hp => ?_, ?_⟩
  · rw [(count_of_not_isBracket fun c hc => h c (hp.subset hc)).2]
    exact Nat.zero_le _
  · rw [(count_of_not_isBracket h).1, (count_of_not_isBracket h).2]

/-- A beginning of two texts is a beginning of the first, or the first with a beginning of the
second. -/
theorem prefix_append_cases {p : List Char} (h : p <+: xs ++ ys) :
    p <+: xs ∨ ∃ q, p = xs ++ q ∧ q <+: ys := by
  rcases List.prefix_or_prefix_of_prefix h (List.prefix_append xs ys) with hp | ⟨q, rfl⟩
  · exact .inl hp
  · exact .inr ⟨q, rfl, (List.prefix_append_right_inj xs).mp h⟩

theorem Balanced.append (hx : Balanced xs) (hy : Balanced ys) : Balanced (xs ++ ys) := by
  have hclosed := hx.closed
  refine ⟨fun p hp => ?_, ?_⟩
  · rcases prefix_append_cases hp with hp | ⟨q, rfl, hq⟩
    · exact hx.opened p hp
    · have hopened := hy.opened q hq
      rw [List.count_append, List.count_append]
      omega
  · rw [List.count_append, List.count_append, hclosed, hy.closed]

/-- A beginning of a text in brackets is empty, a beginning of the text behind the bracket that
opens it, or all of it. -/
theorem prefix_bracketed_cases {p : List Char} (h : p <+: '[' :: (xs ++ [']'])) :
    p = [] ∨ (∃ q, p = '[' :: q ∧ q <+: xs) ∨ p = '[' :: (xs ++ [']']) := by
  rcases List.prefix_cons_iff.mp h with rfl | ⟨q, rfl, hq⟩
  · exact .inl rfl
  · rcases List.prefix_concat_iff.mp hq with rfl | hq
    · exact .inr (.inr rfl)
    · exact .inr (.inl ⟨q, rfl, hq⟩)

theorem count_bracketed (xs : List Char) :
    ('[' :: (xs ++ [']'])).count '[' = xs.count '[' + 1 ∧
      ('[' :: (xs ++ [']'])).count ']' = xs.count ']' + 1 := by
  simp

theorem Balanced.bracketed (h : Balanced xs) : Balanced ('[' :: (xs ++ [']'])) := by
  have htotal : ('[' :: (xs ++ [']'])).count ']' = ('[' :: (xs ++ [']'])).count '[' := by
    rw [(count_bracketed xs).1, (count_bracketed xs).2, h.closed]
  refine ⟨fun p hp => ?_, htotal⟩
  rcases prefix_bracketed_cases hp with rfl | ⟨q, rfl, hq⟩ | rfl
  · exact Nat.le_refl 0
  · have hopened := h.opened q hq
    rw [List.count_cons_self, List.count_cons_of_ne (by decide)]
    omega
  · exact Nat.le_of_eq htotal

/-- What holds of texts and of the comma between them holds of all of them together, if it holds of
any two texts together. -/
theorem of_joinWith {P : List Char → Prop} (hnil : P []) (hcomma : P [','])
    (happend : ∀ {xs ys}, P xs → P ys → P (xs ++ ys)) {texts : List String}
    (h : ∀ t ∈ texts, P t.toList) : P (Text.joinWith "," texts).toList := by
  induction texts with
  | nil => exact hnil
  | cons text rest ih =>
    obtain ⟨htext, hrest⟩ := List.forall_mem_cons.mp h
    cases rest with
    | nil => exact htext
    | cons next rest =>
      rw [Text.joinWith_cons_cons, String.toList_append, String.toList_append]
      exact happend (happend htext hcomma) (ih hrest)

/-! ### Text in brackets -/

/-- If `depth` brackets are open before the text, no bracket in it closes the last one
that is open. -/
def StaysOpen (depth : Int32) (cs : List Char) : Prop :=
  ∀ before after, cs = before ++ ']' :: after → depth + balance before ≠ 1

theorem staysOpen_cons_iff {c : Char} : StaysOpen depth (c :: xs) ↔
    ¬ (c = ']' ∧ depth = 1) ∧ StaysOpen (depth + weight c) xs := by
  constructor
  · refine fun h => ⟨?_, fun before after hx => ?_⟩
    · rintro ⟨rfl, rfl⟩
      exact h [] xs rfl rfl
    · have := h (c :: before) after (by rw [hx, List.cons_append])
      rwa [balance, ← Int32.add_assoc] at this
  · rintro ⟨hc, h⟩ before after hx
    rcases List.cons_eq_append_iff.mp hx with ⟨rfl, hx⟩ | ⟨before, rfl, rfl⟩
    · rw [balance, Int32.add_zero]
      exact fun hdepth => hc ⟨List.head_eq_of_cons_eq hx, hdepth⟩
    · rw [balance, ← Int32.add_assoc]
      exact h before after rfl

theorem StaysOpen.append (hx : StaysOpen depth xs) (hy : StaysOpen (depth + balance xs) ys) :
    StaysOpen depth (xs ++ ys) := by
  induction xs generalizing depth with
  | nil => rwa [balance, Int32.add_zero] at hy
  | cons c xs ih =>
    obtain ⟨hc, hxs⟩ := staysOpen_cons_iff.mp hx
    rw [balance, ← Int32.add_assoc] at hy
    exact staysOpen_cons_iff.mpr ⟨hc, ih hxs hy⟩

theorem staysOpen_of_not_mem (h : ']' ∉ xs) : StaysOpen depth xs := by
  rintro before after rfl
  exact absurd (List.mem_append_right before List.mem_cons_self) h

/-- A text that can stand between a bracket and the one that closes it: it does not close that
bracket itself, and the depth is the same after it as before it. -/
structure IsInner (cs : List Char) : Prop where
  staysOpen : StaysOpen 1 cs
  closed : balance cs = 0

theorem isInner_of_not_isBracket (h : ∀ c ∈ xs, isBracket c = false) : IsInner xs :=
  ⟨staysOpen_of_not_mem fun hmem => Bool.noConfusion (h _ hmem), balance_of_not_isBracket h⟩

theorem IsInner.append (hx : IsInner xs) (hy : IsInner ys) : IsInner (xs ++ ys) := by
  refine ⟨hx.staysOpen.append ?_, ?_⟩
  · rw [hx.closed]
    exact hy.staysOpen
  · rw [balance_append, hx.closed, hy.closed]
    rfl

theorem inside?_append_of_staysOpen (inner ys : List Char) (h : StaysOpen depth xs) :
    inside? depth inner (xs ++ ys) = inside? (depth + balance xs) (xs.reverse ++ inner) ys := by
  induction xs generalizing depth inner with
  | nil => simp [balance]
  | cons c xs ih =>
    obtain ⟨hc, hxs⟩ := staysOpen_cons_iff.mp h
    rw [List.cons_append, inside?, if_neg hc, ih _ hxs, balance, Int32.add_assoc,
      List.reverse_cons, List.append_assoc, List.singleton_append]

/-- The text up to the closing bracket, for any number of open ones. -/
theorem exists_of_inside? {inner before : List Char} (h : inside? depth before cs = some inner) :
    ∃ xs rest, inner = before.reverse ++ xs ∧ cs = xs ++ ']' :: rest ∧ StaysOpen depth xs ∧
      depth + balance xs = 1 := by
  induction cs generalizing depth before with
  | nil => cases h
  | cons c cs ih =>
    rw [inside?] at h
    split at h
    next hclose =>
      obtain ⟨rfl, rfl⟩ := hclose
      obtain rfl := Option.some.inj h
      exact ⟨[], cs, (List.append_nil _).symm, rfl, staysOpen_of_not_mem List.not_mem_nil, rfl⟩
    next hclose =>
      obtain ⟨xs, rest, rfl, rfl, hopen, htotal⟩ := ih h
      refine ⟨c :: xs, rest, by simp, rfl, staysOpen_cons_iff.mpr ⟨hclose, hopen⟩, ?_⟩
      rw [balance, ← Int32.add_assoc]
      exact htotal

/-- What is found behind an open bracket is a text that can stand there, up to the
bracket after it. -/
theorem inside?_eq_some_iff {inner : List Char} :
    inside? 1 [] cs = some inner ↔ IsInner inner ∧ ∃ rest, cs = inner ++ ']' :: rest := by
  constructor
  · intro h
    obtain ⟨xs, rest, rfl, hcs, hopen, htotal⟩ := exists_of_inside? h
    exact ⟨⟨hopen, by grind⟩, rest, hcs⟩
  · rintro ⟨hinner, rest, rfl⟩
    rw [inside?_append_of_staysOpen [] _ hinner.staysOpen, hinner.closed]
    simp [inside?]

theorem inside?_concat_close (h : IsInner xs) : inside? 1 [] (xs ++ [']']) = some xs :=
  inside?_eq_some_iff.mpr ⟨h, [], rfl⟩

instance (cs : List Char) : Decidable (IsInner cs) :=
  decidable_of_iff (inside? 1 [] (cs ++ [']']) = some cs)
    ⟨fun h => (inside?_eq_some_iff.mp h).1, inside?_concat_close⟩

/-- There is no cut while no bracket closes the last open one. -/
theorem cut_append_of_staysOpen (piece ys : List Char) (h : StaysOpen depth xs) :
    cut depth piece (xs ++ ys) = cut (depth + balance xs) (xs.reverse ++ piece) ys := by
  induction xs generalizing depth piece with
  | nil => simp [balance]
  | cons c xs ih =>
    obtain ⟨hc, hxs⟩ := staysOpen_cons_iff.mp h
    rw [List.cons_append, cut, if_neg hc, ih _ hxs, balance, Int32.add_assoc, List.reverse_cons,
      List.append_assoc, List.singleton_append]

/-- A text in brackets that does not close itself is cut at its end only. -/
theorem IsInner.cut_bracketed (h : IsInner xs) :
    cut 0 [] ('[' :: (xs ++ [']'])) = (['[' :: (xs ++ [']'])], [], 0) := by
  rw [cut, if_neg (by decide)]
  change cut 1 ['['] (xs ++ [']']) = _
  rw [cut_append_of_staysOpen ['['] [']'] h.staysOpen, h.closed]
  simp [cut]

theorem IsInner.balance_bracketed (h : IsInner xs) : balance ('[' :: (xs ++ [']'])) = 0 := by
  rw [balance, balance_append, h.closed]
  rfl

/-- A text in brackets that does not close itself is one span. -/
theorem spansOf_bracketed (h : IsInner xs) :
    spansOf ('[' :: (xs ++ [']'])) = ['[' :: (xs ++ [']'])] := by
  have hany : ('[' :: (xs ++ [']'])).any isBracket = true := rfl
  rw [spansOf, if_pos hany, h.cut_bracketed]
  rfl

/-- The spans of a text in brackets that does not close itself and of a text behind it that is cut
somewhere. -/
theorem spansOf_bracketed_append (hx : IsInner xs) (hb : ys.any isBracket = true)
    (hy : (cut 0 [] ys).1 ≠ []) :
    spansOf ('[' :: (xs ++ [']']) ++ ys) = ('[' :: (xs ++ [']'])) :: spansOf ys := by
  have hend : ('[' :: (xs ++ [']'])).getLast? = some ']' := by
    rw [← List.cons_append, List.getLast?_concat]
  rw [spansOf_append_of_cut hx.balance_bracketed hend hb hy, spansOf_bracketed hx,
    List.singleton_append]

/-! ### Commas between arguments -/

/-- No comma of the text stands at depth zero. -/
def Undivided (cs : List Char) : Prop := ∀ before after, cs = before ++ ',' :: after →
  balance before ≠ 0

theorem undivided_of_not_mem (h : ',' ∉ xs) : Undivided xs := by
  rintro before after rfl
  exact absurd (List.mem_append_right before List.mem_cons_self) h

theorem Undivided.append (hx : Undivided xs) (htotal : balance xs = 0) (hy : Undivided ys) :
    Undivided (xs ++ ys) := by
  intro before after h
  -- the comma stands in the second text or in the first one
  rcases List.append_eq_append_iff.mp h with ⟨rest, rfl, hys⟩ | ⟨rest, rfl, hrest⟩
  · rw [balance_append, htotal, Int32.zero_add]
    exact hy rest after hys
  · rcases List.cons_eq_append_iff.mp hrest with ⟨rfl, rfl⟩ | ⟨rest, rfl, -⟩
    · rw [List.append_nil] at htotal
      exact absurd rfl (hy [] after rfl)
    · exact hx before rest rfl

/-- Up to the next comma at depth zero, the characters belong to the current piece. -/
theorem argumentsFrom_append (depth : Int32) (piece ys : List Char)
    (h : ∀ before after, xs = before ++ ',' :: after → depth + balance before ≠ 0) :
    argumentsFrom depth piece (xs ++ ys) =
      argumentsFrom (depth + balance xs) (xs.reverse ++ piece) ys := by
  induction xs generalizing depth piece with
  | nil => simp [balance]
  | cons c xs ih =>
    have hc : ¬ (c = ',' ∧ depth = 0) := by
      rintro ⟨rfl, rfl⟩
      exact h [] xs rfl rfl
    have hxs : ∀ before after, xs = before ++ ',' :: after →
        depth + weight c + balance before ≠ 0 := by
      rintro before after rfl
      have := h (c :: before) after rfl
      rwa [balance, ← Int32.add_assoc] at this
    rw [List.cons_append, argumentsFrom, if_neg hc, ih _ _ hxs, balance, Int32.add_assoc,
      List.reverse_cons, List.append_assoc, List.singleton_append]

/-- An undivided text is one argument. -/
theorem Undivided.argumentsOf_eq (h : Undivided xs) : argumentsOf xs = [xs] := by
  have hfrom := argumentsFrom_append 0 [] [] fun before after hxs => by
    rw [Int32.zero_add]
    exact h before after hxs
  rw [List.append_nil, List.append_nil] at hfrom
  rw [argumentsOf, hfrom, argumentsFrom, List.reverse_reverse]

/-- A comma where all brackets are closed separates the arguments before it from those after it. -/
theorem argumentsFrom_append_comma (piece ys : List Char) (h : depth + balance xs = 0) :
    argumentsFrom depth piece (xs ++ ',' :: ys) =
      argumentsFrom depth piece xs ++ argumentsOf ys := by
  induction xs generalizing depth piece with
  | nil =>
    rw [balance, Int32.add_zero] at h
    subst h
    rfl
  | cons c xs ih =>
    rw [balance, ← Int32.add_assoc] at h
    rw [List.cons_append, argumentsFrom, argumentsFrom]
    by_cases hc : c = ',' ∧ depth = 0
    · -- the count starts again at a comma, which has not changed it
      obtain ⟨rfl, rfl⟩ := hc
      have hweight : (0 : Int32) + weight ',' = 0 := by decide
      rw [hweight] at h
      rw [if_pos ⟨rfl, rfl⟩, if_pos ⟨rfl, rfl⟩, ih [] h, List.cons_append]
    · rw [if_neg hc, if_neg hc, ih _ h]

theorem argumentsOf_append_comma (h : balance xs = 0) (ys : List Char) :
    argumentsOf (xs ++ ',' :: ys) = argumentsOf xs ++ argumentsOf ys :=
  argumentsFrom_append_comma [] ys ((Int32.zero_add _).trans h)

/-- An undivided text that closes what it opens is the first argument before a comma. -/
theorem Undivided.argumentsOf_append (h : Undivided xs) (htotal : balance xs = 0)
    (ys : List Char) : argumentsOf (xs ++ ',' :: ys) = xs :: argumentsOf ys := by
  rw [argumentsOf_append_comma htotal, h.argumentsOf_eq, List.singleton_append]

/-- Undivided texts, all but the last of which close what they open, are the arguments of what they
give with commas between them. -/
theorem argumentsOf_intercalate {pieces : List (List Char)} (hne : pieces ≠ [])
    (htotal : ∀ p ∈ pieces.dropLast, balance p = 0) (h : ∀ p ∈ pieces, Undivided p) :
    argumentsOf ([','].intercalate pieces) = pieces := by
  induction pieces with
  | nil => exact absurd rfl hne
  | cons p rest ih =>
    obtain ⟨hp, hrest⟩ := List.forall_mem_cons.mp h
    cases rest with
    | nil =>
      rw [List.intercalate_singleton]
      exact hp.argumentsOf_eq
    | cons q rest =>
      rw [List.dropLast_cons_cons] at htotal
      obtain ⟨hp0, htotal⟩ := List.forall_mem_cons.mp htotal
      rw [List.intercalate_cons_cons, List.append_assoc, List.singleton_append,
        hp.argumentsOf_append hp0, ih (by simp) htotal hrest]

/-- Undivided arguments, all but the last of which close what they open, are found again when they
are given with commas between them. -/
theorem arguments_joinWith {texts : List String} (hne : texts ≠ [])
    (htotal : ∀ t ∈ texts.dropLast, balance t.toList = 0)
    (h : ∀ t ∈ texts, Undivided t.toList) : arguments (Text.joinWith "," texts) = texts := by
  have hpieces : argumentsOf ([','].intercalate (texts.map String.toList)) =
      texts.map String.toList := by
    refine argumentsOf_intercalate (by simpa using hne) ?_ (List.forall_mem_map.mpr h)
    rw [← List.map_dropLast]
    exact List.forall_mem_map.mpr htotal
  have htext : (Text.joinWith "," texts).toList = [','].intercalate (texts.map String.toList) :=
    Text.toList_joinWith "," texts
  rw [arguments, htext, hpieces, List.map_map]
  simp

theorem argumentsFrom_ne_nil (depth : Int32) (piece cs : List Char) :
    argumentsFrom depth piece cs ≠ [] := by
  fun_induction argumentsFrom depth piece cs with
  | case1 => exact List.cons_ne_nil _ _
  | case2 => exact List.cons_ne_nil _ _
  | case3 _ _ _ _ _ ih => exact ih

theorem arguments_ne_nil (raw : String) : arguments raw ≠ [] := by
  rw [arguments, ne_eq, List.map_eq_nil_iff]
  exact argumentsFrom_ne_nil 0 [] raw.toList

theorem intercalate_argumentsFrom (depth : Int32) (piece cs : List Char) :
    [','].intercalate (argumentsFrom depth piece cs) = piece.reverse ++ cs := by
  fun_induction argumentsFrom depth piece cs with
  | case1 => simp
  | case2 depth piece c cs hc ih =>
    obtain ⟨p, ps, hps⟩ := List.exists_cons_of_ne_nil (argumentsFrom_ne_nil 0 [] cs)
    rw [hps] at ih ⊢
    rw [List.intercalate_cons_cons, ih, hc.1]
    simp
  | case3 depth piece c cs _ ih =>
    rw [ih, List.reverse_cons, List.append_assoc, List.singleton_append]

/-- The arguments with commas between them give the argument text again, wherever it was cut. -/
theorem joinWith_arguments (raw : String) : Text.joinWith "," (arguments raw) = raw := by
  apply String.toList_injective
  have hmap : ((argumentsOf raw.toList).map String.ofList).map String.toList =
      argumentsOf raw.toList := by
    rw [List.map_map]
    simp
  rw [Text.toList_joinWith, arguments, hmap]
  exact intercalate_argumentsFrom 0 [] raw.toList

/-- A line without brackets is one span. -/
theorem spans_of_any_isBracket {line : String} (h : line.toList.any isBracket = false) :
    spans line = [line] := by
  rw [spans, spansOf, h]
  simp

/-! ### Plain texts -/

/-- A text without brackets and commas. -/
def IsPlain (text : String) : Prop := ∀ c ∈ text.toList, c ≠ '[' ∧ c ≠ ']' ∧ c ≠ ','

instance (text : String) : Decidable (IsPlain text) :=
  decidable_of_iff (text.toList.all fun c => c != '[' && c != ']' && c != ',')
    (by simp [IsPlain, and_assoc])

theorem IsPlain.append {text other : String} (h : IsPlain text) (h' : IsPlain other) :
    IsPlain (text ++ other) := by
  intro c hc
  rw [String.toList_append] at hc
  rcases List.mem_append.mp hc with hc | hc
  · exact h c hc
  · exact h' c hc

theorem IsPlain.not_isBracket {text : String} (h : IsPlain text) :
    ∀ c ∈ text.toList, isBracket c = false :=
  fun c hc => by simp [isBracket, h c hc]

theorem IsPlain.any_isBracket {text : String} (h : IsPlain text) :
    text.toList.any isBracket = false :=
  List.any_eq_false.mpr fun c hc => Bool.eq_false_iff.mp (h.not_isBracket c hc)

theorem IsPlain.isInner {text : String} (h : IsPlain text) : IsInner text.toList :=
  isInner_of_not_isBracket h.not_isBracket

/-- Plain texts with commas between them can stand in brackets. -/
theorem isInner_joinWith {texts : List String} (h : ∀ t ∈ texts, IsPlain t) :
    IsInner (Text.joinWith "," texts).toList :=
  of_joinWith (by decide) (by decide) IsInner.append fun t ht => (h t ht).isInner

theorem IsPlain.undivided {text : String} (h : IsPlain text) : Undivided text.toList :=
  undivided_of_not_mem fun hcomma => (h ',' hcomma).2.2 rfl

/-- Plain texts with commas between them have no brackets. -/
theorem any_isBracket_joinWith {texts : List String} (h : ∀ t ∈ texts, IsPlain t) :
    (Text.joinWith "," texts).toList.any isBracket = false := by
  induction texts with
  | nil => rfl
  | cons text rest ih =>
    obtain ⟨htext, hrest⟩ := List.forall_mem_cons.mp h
    cases rest with
    | nil => exact htext.any_isBracket
    | cons next rest =>
      rw [Text.joinWith_cons_cons, String.toList_append, String.toList_append, List.any_append,
        List.any_append, htext.any_isBracket, ih hrest]
      rfl

/-- Plain arguments are found again when they are given with commas between them. -/
theorem arguments_joinWith_of_isPlain {texts : List String} (hne : texts ≠ [])
    (h : ∀ t ∈ texts, IsPlain t) : arguments (Text.joinWith "," texts) = texts :=
  arguments_joinWith hne (fun t ht => (h t (List.dropLast_subset _ ht)).isInner.closed)
    fun t ht => (h t ht).undivided

end Brackets

/-! ### Calls in brackets -/

namespace Call

/-- There is no white space after a closing parenthesis at the end, and it is dropped. -/
theorem dropClosing?_trimEnd_concat (cs : List Char) :
    dropClosing? (Text.Chars.trimEnd (cs ++ [')'])) = some cs := by
  have hblank : Text.isBlank ')' = false := by decide
  have htrim : Text.Chars.trimEnd (cs ++ [')']) = cs ++ [')'] := by
    simp [Text.Chars.trimEnd, hblank]
  rw [htrim, dropClosing?, List.getLast?_concat, if_pos rfl, List.dropLast_concat]

section Bracketed

variable {name raw : String}

theorem toList_bracketed (name raw : String) : ("[" ++ name ++ "(" ++ raw ++ ")]").toList =
    '[' :: ((name ++ "(" ++ raw ++ ")").toList ++ [']']) := by
  simp

variable (hname : Brackets.IsInner name.toList) (hraw : Brackets.IsInner raw.toList)
include hname hraw

/-- A call can stand in brackets if its name and its argument text can. -/
theorem isInner_call : Brackets.IsInner (name ++ "(" ++ raw ++ ")").toList := by
  have hopen : Brackets.IsInner "(".toList := by decide
  have hclose : Brackets.IsInner ")".toList := by decide
  simp only [String.toList_append]
  exact ((hname.append hopen).append hraw).append hclose

/-- A call in brackets is one span. -/
theorem spans_bracketed : Brackets.spans ("[" ++ name ++ "(" ++ raw ++ ")]") =
    ["[" ++ name ++ "(" ++ raw ++ ")]"] := by
  rw [Brackets.spans, toList_bracketed, Brackets.spansOf_bracketed (isInner_call hname hraw),
    ← toList_bracketed, List.map_singleton, String.ofList_toList]

/-- Two calls in brackets, one after the other, are two spans. -/
theorem spans_bracketed_append {name' raw' : String} (hname' : Brackets.IsInner name'.toList)
    (hraw' : Brackets.IsInner raw'.toList) :
    Brackets.spans ("[" ++ name ++ "(" ++ raw ++ ")]" ++ ("[" ++ name' ++ "(" ++ raw' ++ ")]")) =
      ["[" ++ name ++ "(" ++ raw ++ ")]", "[" ++ name' ++ "(" ++ raw' ++ ")]"] := by
  have hinner' := isInner_call hname' hraw'
  have hcut := congrArg Prod.fst hinner'.cut_bracketed
  rw [Brackets.spans, String.toList_append, toList_bracketed, toList_bracketed name' raw',
    Brackets.spansOf_bracketed_append (isInner_call hname hraw) rfl
      (hcut ▸ List.cons_ne_nil _ _), Brackets.spansOf_bracketed hinner', ← toList_bracketed,
    ← toList_bracketed]
  simp only [List.map_cons, List.map_nil, String.ofList_toList]

/-- A call is read back from its name and its argument text, if both can stand in brackets and the
name is such that it can be told from what is around it. -/
theorem parse_bracketed (hne : name ≠ "") (htrim : Text.trim name = name)
    (hparen : '(' ∉ name.toList) : parse ("[" ++ name ++ "(" ++ raw ++ ")]") = .ok ⟨name, raw⟩ := by
  have hinner : (name ++ "(" ++ raw ++ ")").toList =
      name.toList ++ '(' :: (raw.toList ++ [')']) := by
    simp
  have hinside := Brackets.inside?_concat_close (isInner_call hname hraw)
  rw [hinner] at hinside
  have hname' : Text.Chars.trim name.toList = name.toList := by
    rw [← @String.toList_ofList (Text.Chars.trim name.toList)]
    exact congrArg String.toList htrim
  have hempty : name.toList.isEmpty = false := by simpa using hne
  have hcall : ofChars? ("[" ++ name ++ "(" ++ raw ++ ")]").toList =
      some (name.toList, raw.toList) := by
    rw [toList_bracketed, hinner, ofChars?, Text.Chars.splitFirst, if_pos rfl]
    simp only [Option.bind_eq_bind, Option.bind_some, hinside,
      Text.Chars.splitFirst_append hparen, dropClosing?_trimEnd_concat, hname', hempty]
    rfl
  rw [parse, hcall]
  simp

end Bracketed

end Call

end BracketScript
