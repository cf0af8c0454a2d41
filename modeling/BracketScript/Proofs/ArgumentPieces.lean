import BracketScript.Proofs.Calls

/-!
# Argument texts and their pieces

The scanner counts the depth from the beginning of an argument text, and the depth may go below
zero, since brackets need not be balanced. But it is zero at each comma at which the text is cut, so
the count could as well start again with each piece. So the pieces are described by themselves: each
of them but the last closes as many brackets as it opens, and none has a comma at its own depth
zero. Each text is made up of such pieces in just one way.

## Main definitions

* `Brackets.Separated`: pieces that can be told apart when commas are put between them

## Main results

* `Brackets.argumentsFrom_separated`: what the scanner has read so far is kept apart
* `Brackets.separated_arguments`: the arguments of a call are separated
* `Brackets.DepthFits.separated_iff`: separated pieces by the numbers of their brackets
* `Brackets.arguments_inverse_joinWith`: cutting and joining are inverse to each other
-/

namespace BracketScript.Brackets

variable {xs cs piece : List Char} {depth : Int32} {pieces : List String}

/-- Pieces that can be told apart when commas are put between them. -/
structure Separated (pieces : List String) : Prop where
  ne_nil : pieces ≠ []
  /-- Each piece but the last opens as many brackets as it closes, as far as 32 bits tell. -/
  closed : ∀ p ∈ pieces.dropLast, IsLevel p.toList
  /-- Before each comma of a piece, the piece does not open as many brackets as it closes. -/
  undivided : ∀ p ∈ pieces, ∀ before after, p.toList = before ++ ',' :: after → ¬ IsLevel before

theorem separated_iff : Separated pieces ↔ pieces ≠ [] ∧
    (∀ p ∈ pieces.dropLast, balance p.toList = 0) ∧ ∀ p ∈ pieces, Undivided p.toList := by
  simp only [Undivided, ne_eq, balance_eq_zero_iff]
  exact ⟨fun h => ⟨h.ne_nil, h.closed, h.undivided⟩, fun ⟨hne, hclosed, h⟩ => ⟨hne, hclosed, h⟩⟩

/-! ### The pieces that the scanner finds -/

theorem undivided_nil : Undivided [] := undivided_of_not_mem List.not_mem_nil

/-- A text stays undivided if no comma at depth zero is added at its end. -/
theorem Undivided.concat (h : Undivided xs) {c : Char} (hc : c = ',' → balance xs ≠ 0) :
    Undivided (xs ++ [c]) := by
  intro before after heq
  rcases List.eq_nil_or_concat after with rfl | ⟨rest, d, rfl⟩
  · -- the comma is the one that is added
    obtain ⟨rfl, hcomma⟩ := List.append_inj' heq rfl
    exact hc (List.head_eq_of_cons_eq hcomma)
  · have hsplit : xs ++ [c] = (before ++ ',' :: rest) ++ [d] := by
      rw [heq, List.concat_eq_append, List.append_assoc, List.cons_append]
    exact h before rest (List.append_inj' hsplit rfl).1

/-- If the current piece is undivided and the depth is that of this piece alone, then all pieces are
undivided, and all but the last close what they open. -/
theorem argumentsFrom_separated (hpiece : Undivided piece.reverse)
    (hdepth : balance piece.reverse = depth) :
    (∀ p ∈ (argumentsFrom depth piece cs).dropLast, balance p = 0) ∧
      ∀ p ∈ argumentsFrom depth piece cs, Undivided p := by
  fun_induction argumentsFrom depth piece cs with
  | case1 depth piece => exact ⟨List.forall_mem_nil _, List.forall_mem_singleton.mpr hpiece⟩
  | case2 depth piece c cs hc ih =>
    -- the comma ends the piece at depth zero, and the count starts again
    obtain ⟨hclosed, hundivided⟩ := ih undivided_nil rfl
    rw [List.dropLast_cons_of_ne_nil (argumentsFrom_ne_nil 0 [] cs)]
    exact ⟨List.forall_mem_cons.mpr ⟨hdepth.trans hc.2, hclosed⟩,
      List.forall_mem_cons.mpr ⟨hpiece, hundivided⟩⟩
  | case3 depth piece c cs hc ih =>
    rw [List.reverse_cons] at ih
    refine ih (hpiece.concat fun hcomma hzero => hc ⟨hcomma, hdepth.symm.trans hzero⟩) ?_
    rw [balance_append, hdepth, balance, balance, Int32.add_zero]

/-- The arguments of a call are separated. -/
theorem separated_arguments (raw : String) : Separated (arguments raw) := by
  obtain ⟨hclosed, hundivided⟩ :
      (∀ p ∈ (argumentsOf raw.toList).dropLast, balance p = 0) ∧
        ∀ p ∈ argumentsOf raw.toList, Undivided p :=
    argumentsFrom_separated undivided_nil rfl
  refine separated_iff.mpr ⟨arguments_ne_nil raw, ?_, ?_⟩
  · rw [arguments, ← List.map_dropLast, List.forall_mem_map]
    simpa only [String.toList_ofList] using hclosed
  · rw [arguments, List.forall_mem_map]
    simpa only [String.toList_ofList] using hundivided

theorem Separated.arguments_joinWith (h : Separated pieces) :
    arguments (Text.joinWith "," pieces) = pieces := by
  obtain ⟨hne, hclosed, hundivided⟩ := separated_iff.mp h
  exact Brackets.arguments_joinWith hne hclosed hundivided

/-! ### Counting brackets -/

/-- Each piece stands in the text that the pieces give with commas between them. -/
theorem isInfix_joinWith {p : String} (h : p ∈ pieces) :
    p.toList <:+: (Text.joinWith "," pieces).toList := by
  induction pieces with
  | nil => cases h
  | cons first rest ih =>
    cases rest with
    | nil =>
      obtain rfl := List.mem_singleton.mp h
      exact List.infix_refl _
    | cons next rest =>
      rw [Text.joinWith_cons_cons, String.toList_append]
      rcases List.mem_cons.mp h with rfl | h
      · rw [String.toList_append, List.append_assoc]
        exact (List.prefix_append _ _).isInfix
      · exact (ih h).trans (List.suffix_append _ _).isInfix

/-- Where the depth stays within its range, pieces are separated by the numbers of their
brackets. -/
theorem DepthFits.separated_iff (h : DepthFits (Text.joinWith "," pieces).toList) :
    Separated pieces ↔ pieces ≠ [] ∧
      (∀ p ∈ pieces.dropLast, p.toList.count '[' = p.toList.count ']') ∧
      ∀ p ∈ pieces, ∀ before after, p.toList = before ++ ',' :: after →
        before.count '[' ≠ before.count ']' := by
  have hpiece (p : String) (hp : p ∈ pieces.dropLast) :
      IsLevel p.toList ↔ p.toList.count '[' = p.toList.count ']' :=
    h.isLevel_iff (isInfix_joinWith (List.dropLast_subset _ hp))
  have hbefore (p : String) (hp : p ∈ pieces) (before after : List Char)
      (hsplit : p.toList = before ++ ',' :: after) :
      IsLevel before ↔ before.count '[' = before.count ']' := by
    have hfront : before <+: p.toList := ⟨_, hsplit.symm⟩
    exact h.isLevel_iff (hfront.isInfix.trans (isInfix_joinWith hp))
  constructor
  · intro hsep
    exact ⟨hsep.ne_nil, fun p hp => (hpiece p hp).mp (hsep.closed p hp),
      fun p hp before after hsplit hcount =>
        hsep.undivided p hp before after hsplit ((hbefore p hp before after hsplit).mpr hcount)⟩
  · rintro ⟨hne, hclosed, hundivided⟩
    exact ⟨hne, fun p hp => (hpiece p hp).mpr (hclosed p hp),
      fun p hp before after hsplit hlevel =>
        hundivided p hp before after hsplit ((hbefore p hp before after hsplit).mp hlevel)⟩

/-! ### Cutting and joining -/

/-- Cutting an argument text is inverse to joining with commas. The arguments of a text are
separated and make it up again, the pieces that are found again after joining are exactly the
separated ones, and so there is one way only in which a text is made up of separated pieces. For the
pieces of a text in which the depth stays within its range, to be separated is a matter of the
numbers of brackets. -/
theorem arguments_inverse_joinWith :
    (∀ raw, Separated (arguments raw) ∧ Text.joinWith "," (arguments raw) = raw) ∧
    (∀ pieces, arguments (Text.joinWith "," pieces) = pieces ↔ Separated pieces) ∧
    (∀ raw, ∃! pieces, Separated pieces ∧ Text.joinWith "," pieces = raw) ∧
    ∀ pieces, DepthFits (Text.joinWith "," pieces).toList → (Separated pieces ↔ pieces ≠ [] ∧
      (∀ p ∈ pieces.dropLast, p.toList.count '[' = p.toList.count ']') ∧
      ∀ p ∈ pieces, ∀ before after, p.toList = before ++ ',' :: after →
        before.count '[' ≠ before.count ']') := by
  refine ⟨fun raw => ⟨separated_arguments raw, joinWith_arguments raw⟩, fun pieces => ?_,
    fun raw => ⟨arguments raw, ⟨separated_arguments raw, joinWith_arguments raw⟩, ?_⟩,
    fun pieces hfits => hfits.separated_iff⟩
  · constructor
    · intro h
      exact h ▸ separated_arguments _
    · exact Separated.arguments_joinWith
  · rintro pieces ⟨hpieces, rfl⟩
    exact hpieces.arguments_joinWith.symm

/-- A stray bracket moves the depth for all that follows, but not where the pieces end. -/
theorem arguments_inverse_joinWith_stray :
    arguments "][a,[b,c],],[d" = ["][a", "[b,c]", "],[d"] ∧
      Text.joinWith "," ["][a", "[b,c]", "],[d"] = "][a,[b,c],],[d" ∧
      ∀ p ∈ ["][a", "[b,c]"], p.toList.count '[' = p.toList.count ']' := by
  have harguments : arguments "][a,[b,c],],[d" = ["][a", "[b,c]", "],[d"] := by decide +kernel
  obtain ⟨hinverse, -, -, hcounts⟩ := arguments_inverse_joinWith
  obtain ⟨hseparated, hjoin⟩ := hinverse "][a,[b,c],],[d"
  rw [harguments] at hseparated hjoin
  have hfits : DepthFits (Text.joinWith "," ["][a", "[b,c]", "],[d"]).toList :=
    depthFits_of_length_lt (by decide)
  exact ⟨harguments, hjoin, ((hcounts _ hfits).mp hseparated).2.1⟩

end BracketScript.Brackets
