import BracketScript.Text.Split
import Mathlib.Data.List.Infix

/-!
# Cutting and joining at separators

A text is cut at a separator from left to right. The pieces with the separator between them always
make up the text again. Texts that are joined are found again if no separator begins within one of
them, which is so, for instance, if its first character is in none of them.

## Main definitions

* `Text.Chars.Avoids`: a text in which no separator begins

## Main results

* `Text.toList_joinWith`: the characters of joined texts
* `Text.Chars.splitFirst_append`, `Text.Chars.splitFirst_eq_some`: what is before the first mark
* `Text.Chars.splitWhere_append`: a piece without characters of a kind
* `Text.Chars.splitWhere_intercalate`, `Text.Chars.intercalate_splitWhere`: pieces between marks
* `Text.Chars.intercalate_splitOn`: the pieces make up the text
* `Text.joinWith_splitOn`: so it is with texts
* `Text.splitOn_joinWith_of_avoids`: joined texts are found again
-/

namespace BracketScript.Text

/-! ### Joining -/

/-- The characters of joined texts are those of the texts, with those of the separator between. -/
theorem toList_joinWith (sep : String) (texts : List String) :
    (joinWith sep texts).toList = sep.toList.intercalate (texts.map String.toList) := by
  induction texts with
  | nil => rfl
  | cons text rest ih =>
    cases rest with
    | nil => simp
    | cons next rest =>
      rw [joinWith_cons_cons, String.toList_append, String.toList_append, ih, List.map_cons,
        List.map_cons, List.map_cons, List.intercalate_cons_cons]

/-- A separator that ends with white space leaves that to the texts after it. -/
theorem joinWith_append (sep blanks first : String) (rest : List String) :
    joinWith (sep ++ blanks) (first :: rest) =
      joinWith sep (first :: rest.map fun text => blanks ++ text) := by
  simp only [joinWith, List.foldl_map, String.append_assoc]

/-- What is joined from two groups of texts is joined from all of them. -/
theorem joinWith_append_of_ne_nil (sep : String) {texts others : List String}
    (h : texts ≠ []) (h' : others ≠ []) :
    joinWith sep (texts ++ others) = joinWith sep texts ++ sep ++ joinWith sep others := by
  induction texts with
  | nil => exact absurd rfl h
  | cons text rest ih =>
    cases rest with
    | nil =>
      obtain ⟨other, others, rfl⟩ := List.exists_cons_of_ne_nil h'
      exact joinWith_cons_cons sep text other others
    | cons next rest =>
      have hrest := ih (List.cons_ne_nil _ _)
      rw [List.cons_append] at hrest
      rw [List.cons_append, List.cons_append, joinWith_cons_cons, hrest, joinWith_cons_cons]
      simp only [String.append_assoc]

namespace Chars

variable {sep cs : List Char}

/-! ### The first mark -/

theorem splitFirst_append {mark : Char} {before : List Char} (h : mark ∉ before)
    (after : List Char) : splitFirst mark (before ++ mark :: after) = some (before, after) := by
  induction before with
  | nil => simp [splitFirst]
  | cons c before ih =>
    rw [List.mem_cons, not_or] at h
    obtain ⟨hc, hbefore⟩ := h
    rw [List.cons_append, splitFirst, if_neg (Ne.symm hc), ih hbefore]
    rfl

theorem splitFirst_eq_some {mark : Char} {cs before after : List Char}
    (h : splitFirst mark cs = some (before, after)) :
    cs = before ++ mark :: after ∧ mark ∉ before := by
  induction cs generalizing before with
  | nil => cases h
  | cons c cs ih =>
    rw [splitFirst] at h
    split at h
    next heq =>
      obtain ⟨rfl, rfl⟩ := Prod.mk.inj (Option.some.inj h)
      exact ⟨by rw [heq, List.nil_append], List.not_mem_nil⟩
    next hne =>
      obtain ⟨⟨before', after'⟩, hsplit, h⟩ := Option.map_eq_some_iff.mp h
      obtain ⟨rfl, rfl⟩ := Prod.mk.inj h
      obtain ⟨rfl, hmem⟩ := ih hsplit
      exact ⟨rfl, List.not_mem_cons_of_ne_of_not_mem (Ne.symm hne) hmem⟩

/-! ### Pieces without characters of a kind -/

theorem splitWhere_of_forall {p : Char → Bool} (h : ∀ c ∈ cs, p c = false) :
    splitWhere p cs = [cs] := by
  induction cs with
  | nil => rfl
  | cons c cs ih =>
    obtain ⟨hc, hcs⟩ := List.forall_mem_cons.mp h
    have hrest := ih hcs
    rw [splitWhere] at hrest ⊢
    rw [List.foldr_cons, hrest, hc]
    rfl

/-- The text up to the first character of the kind is a piece. -/
theorem splitWhere_append {p : Char → Bool} (h : ∀ c ∈ cs, p c = false) {mark : Char}
    (hmark : p mark = true) (rest : List Char) :
    splitWhere p (cs ++ mark :: rest) = cs :: splitWhere p rest := by
  induction cs with
  | nil =>
    rw [List.nil_append, splitWhere, List.foldr_cons, if_pos hmark]
    rfl
  | cons c cs ih =>
    obtain ⟨hc, hcs⟩ := List.forall_mem_cons.mp h
    have hrest := ih hcs
    rw [splitWhere] at hrest ⊢
    rw [List.cons_append, List.foldr_cons, hrest, hc]
    rfl

theorem splitWhere_ne_nil (p : Char → Bool) (cs : List Char) : splitWhere p cs ≠ [] := by
  cases cs with
  | nil => exact List.cons_ne_nil _ _
  | cons c cs =>
    rw [splitWhere, List.foldr_cons]
    split
    · exact List.cons_ne_nil _ _
    · split <;> exact List.cons_ne_nil _ _

/-- A character of the kind ends a piece, and any other one belongs to the piece behind it. -/
theorem splitWhere_cons {p : Char → Bool} (c : Char) (cs : List Char) :
    ∃ piece rest, splitWhere p cs = piece :: rest ∧
      splitWhere p (c :: cs) =
        if p c = true then [] :: piece :: rest else (c :: piece) :: rest := by
  obtain ⟨piece, rest, hrest⟩ := List.exists_cons_of_ne_nil (splitWhere_ne_nil p cs)
  refine ⟨piece, rest, hrest, ?_⟩
  rw [splitWhere] at hrest ⊢
  rw [List.foldr_cons, hrest]

/-- No piece has a character of the kind. -/
theorem forall_mem_splitWhere (p : Char → Bool) (cs : List Char) :
    ∀ piece ∈ splitWhere p cs, ∀ c ∈ piece, p c = false := by
  induction cs with
  | nil => exact List.forall_mem_singleton.mpr (List.forall_mem_nil _)
  | cons c cs ih =>
    obtain ⟨piece, rest, hcs, hsplit⟩ := splitWhere_cons (p := p) c cs
    rw [hcs] at ih
    obtain ⟨hpiece, hrest⟩ := List.forall_mem_cons.mp ih
    rw [hsplit]
    split
    next => exact List.forall_mem_cons.mpr ⟨List.forall_mem_nil _, ih⟩
    next hc =>
      exact List.forall_mem_cons.mpr
        ⟨List.forall_mem_cons.mpr ⟨Bool.eq_false_iff.mpr hc, hpiece⟩, hrest⟩

/-- The pieces between marks make up the text. -/
theorem intercalate_splitWhere (mark : Char) (cs : List Char) :
    [mark].intercalate (splitWhere (· == mark) cs) = cs := by
  induction cs with
  | nil => rfl
  | cons c cs ih =>
    obtain ⟨piece, rest, hcs, hsplit⟩ := splitWhere_cons (p := (· == mark)) c cs
    rw [hcs] at ih
    rw [hsplit]
    split
    next hc => rw [List.intercalate_cons_cons, ih, eq_of_beq hc, List.nil_append,
        List.singleton_append]
    next => cases rest <;> simpa using ih

/-- Pieces without marks are found again between the marks. -/
theorem splitWhere_intercalate {mark : Char} {pieces : List (List Char)} (hne : pieces ≠ [])
    (h : ∀ piece ∈ pieces, mark ∉ piece) :
    splitWhere (· == mark) ([mark].intercalate pieces) = pieces := by
  induction pieces with
  | nil => exact absurd rfl hne
  | cons piece rest ih =>
    obtain ⟨hpiece, hrest⟩ := List.forall_mem_cons.mp h
    have hmark : ∀ c ∈ piece, (c == mark) = false := fun c hc =>
      beq_eq_false_iff_ne.mpr fun heq => hpiece (heq ▸ hc)
    cases rest with
    | nil =>
      rw [List.intercalate_singleton]
      exact splitWhere_of_forall hmark
    | cons next rest =>
      rw [List.intercalate_cons_cons, List.append_assoc, List.singleton_append,
        splitWhere_append hmark (beq_self_eq_true mark), ih (List.cons_ne_nil _ _) hrest]

/-! ### All pieces -/

theorem splitOnFrom_ne_nil (sep : List Char) (skip : Nat) (piece cs : List Char) :
    splitOnFrom sep skip piece cs ≠ [] := by
  fun_induction splitOnFrom sep skip piece cs with
  | case1 => exact List.cons_ne_nil _ _
  | case2 _ _ _ _ ih => exact ih
  | case3 => exact List.cons_ne_nil _ _
  | case4 _ _ _ _ ih => exact ih

/-- The pieces with the separator between them make up the text. -/
theorem intercalate_splitOnFrom (hsep : sep ≠ []) (skip : Nat) (piece cs : List Char) :
    sep.intercalate (splitOnFrom sep skip piece cs) = piece.reverse ++ cs.drop skip := by
  fun_induction splitOnFrom sep skip piece cs with
  | case1 skip piece => simp
  | case2 skip piece c cs ih => rw [ih, List.drop_succ_cons]
  | case3 piece c cs hprefix ih =>
    obtain ⟨rest, hrest⟩ := List.isPrefixOf_iff_prefix.mp hprefix
    -- what is left to skip is the separator without its first character
    have hcs : cs.drop (sep.length - 1) = rest := by
      cases sep with
      | nil => exact absurd rfl hsep
      | cons d sep =>
        obtain ⟨-, rfl⟩ := List.cons.inj hrest
        simp
    obtain ⟨p, ps, hps⟩ :=
      List.exists_cons_of_ne_nil (splitOnFrom_ne_nil sep (sep.length - 1) [] cs)
    rw [hps] at ih ⊢
    rw [List.intercalate_cons_cons, ih, hcs, List.append_assoc, List.reverse_nil, List.nil_append,
      hrest, List.drop_zero]
  | case4 piece c cs _ ih =>
    rw [ih, List.reverse_cons, List.append_assoc, List.singleton_append]
    rfl

theorem intercalate_splitOn (hsep : sep ≠ []) (cs : List Char) :
    sep.intercalate (splitOn sep cs) = cs :=
  intercalate_splitOnFrom hsep 0 [] cs

/-- A text is cut at a single character in the middle, whatever is around it. -/
theorem splitOnFrom_append (c : Char) (piece cs ds : List Char) :
    splitOnFrom [c] 0 piece (cs ++ c :: ds) = splitOnFrom [c] 0 piece cs ++ splitOn [c] ds := by
  induction cs generalizing piece with
  | nil => simp [splitOnFrom, splitOn]
  | cons d cs ih =>
    by_cases h : c = d
    · subst h
      simp [splitOnFrom, ih []]
    · simp [splitOnFrom, h, ih (d :: piece)]

/-- The last piece of a text that ends in the separator is empty. -/
theorem splitOnFrom_concat (c : Char) (piece cs : List Char) :
    ∃ pieces, splitOnFrom [c] 0 piece (cs ++ [c]) = pieces ++ [[]] :=
  ⟨_, splitOnFrom_append c piece cs []⟩

/-! ### Pieces that are found again -/

/-- No separator begins in the text, whatever comes after it. -/
def Avoids (sep cs : List Char) : Prop :=
  ∀ tail, tail ≠ [] → tail <:+ cs → ∀ ds, ¬ sep <+: tail ++ ds

theorem Avoids.of_cons {c : Char} (h : Avoids sep (c :: cs)) : Avoids sep cs :=
  fun tail hne hsuffix => h tail hne (hsuffix.trans (List.suffix_cons c cs))

theorem Avoids.not_isPrefixOf {c : Char} (h : Avoids sep (c :: cs)) (ds : List Char) :
    ¬ sep.isPrefixOf (c :: (cs ++ ds)) = true := by
  rw [List.isPrefixOf_iff_prefix]
  exact h (c :: cs) (List.cons_ne_nil c cs) List.suffix_rfl ds

/-- No separator begins in a text without its first character. -/
theorem avoids_of_notMem {c : Char} (h : c ∉ cs) : Avoids (c :: sep) cs := by
  rintro tail hne hsuffix ds hprefix
  obtain ⟨d, rest, rfl⟩ := List.exists_cons_of_ne_nil hne
  obtain ⟨rfl, -⟩ := List.cons_prefix_cons.mp hprefix
  exact h (hsuffix.subset List.mem_cons_self)

theorem splitOnFrom_skip (sep : List Char) (skip : Nat) (piece cs : List Char) :
    splitOnFrom sep skip piece cs = splitOnFrom sep 0 piece (cs.drop skip) := by
  induction skip generalizing cs with
  | zero => rfl
  | succ skip ih =>
    cases cs with
    | nil => rfl
    | cons c cs => rw [splitOnFrom, ih, List.drop_succ_cons]

/-- The text up to the first separator is a piece. -/
theorem splitOnFrom_of_avoids (hsep : sep ≠ []) (h : Avoids sep cs) (piece rest : List Char) :
    splitOnFrom sep 0 piece (cs ++ (sep ++ rest)) = (piece.reverse ++ cs) :: splitOn sep rest := by
  -- `piece` holds what has been passed since the last separator, the last character first
  induction cs generalizing piece with
  | nil =>
    obtain ⟨c, sep, rfl⟩ := List.exists_cons_of_ne_nil hsep
    have hprefix : (c :: sep).isPrefixOf (c :: (sep ++ rest)) = true := by simp
    rw [List.nil_append, List.cons_append, splitOnFrom, if_pos hprefix, splitOnFrom_skip,
      List.length_cons, Nat.add_sub_cancel, List.drop_left, List.append_nil]
    rfl
  | cons c cs ih =>
    rw [List.cons_append, splitOnFrom, if_neg (h.not_isPrefixOf (sep ++ rest)), ih h.of_cons,
      List.reverse_cons, List.append_assoc, List.singleton_append]

theorem splitOn_of_avoids (h : Avoids sep cs) : splitOn sep cs = [cs] := by
  have hfrom (piece : List Char) : splitOnFrom sep 0 piece cs = [piece.reverse ++ cs] := by
    induction cs generalizing piece with
    | nil => rw [splitOnFrom, List.append_nil]
    | cons c cs ih =>
      have hprefix := h.not_isPrefixOf []
      rw [List.append_nil] at hprefix
      rw [splitOnFrom, if_neg hprefix, ih h.of_cons, List.reverse_cons, List.append_assoc,
        List.singleton_append]
  exact hfrom []

theorem splitOn_intercalate (hsep : sep ≠ []) {pieces : List (List Char)} (hne : pieces ≠ [])
    (h : ∀ piece ∈ pieces, Avoids sep piece) : splitOn sep (sep.intercalate pieces) = pieces := by
  induction pieces with
  | nil => exact absurd rfl hne
  | cons piece rest ih =>
    obtain ⟨hpiece, hrest⟩ := List.forall_mem_cons.mp h
    cases rest with
    | nil =>
      rw [List.intercalate_singleton]
      exact splitOn_of_avoids hpiece
    | cons next rest =>
      rw [List.intercalate_cons_cons, List.append_assoc, splitOn]
      exact (splitOnFrom_of_avoids hsep hpiece [] _).trans
        (congrArg _ (ih (List.cons_ne_nil _ _) hrest))

end Chars

/-- The pieces of a text with the separator between them make up the text. -/
theorem joinWith_splitOn {sep : String} (hsep : sep ≠ "") (text : String) :
    joinWith sep (splitOn sep text) = text := by
  have hne : sep.toList ≠ [] := fun hnil => hsep (String.toList_eq_nil_iff.mp hnil)
  apply String.toList_injective
  rw [toList_joinWith, splitOn, List.map_map]
  simpa using Chars.intercalate_splitOn hne text.toList

/-- Joined texts are found again if no separator begins within one of them. -/
theorem splitOn_joinWith_of_avoids {sep : String} (hsep : sep ≠ "") {texts : List String}
    (hne : texts ≠ []) (h : ∀ text ∈ texts, Chars.Avoids sep.toList text.toList) :
    splitOn sep (joinWith sep texts) = texts := by
  have hpieces : Chars.splitOn sep.toList (sep.toList.intercalate (texts.map String.toList)) =
      texts.map String.toList :=
    Chars.splitOn_intercalate (fun hnil => hsep (String.toList_eq_nil_iff.mp hnil))
      (by simpa using hne) (List.forall_mem_map.mpr h)
  rw [splitOn, toList_joinWith, hpieces, List.map_map]
  simp

end BracketScript.Text
