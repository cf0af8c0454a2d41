import BracketScript.Proofs.Spans

/-!
# Where lines are cut

A line is cut just behind each closing bracket up to which as many brackets are closed as are
opened. This says nothing about what is between the cuts, so it holds for any brackets: where more
of them are closed than opened the depth is below zero, and there is no cut until as many have been
opened again. What is left over behind the last cut is a span of its own if there is no cut, or if
the line does not close all that it opens; otherwise it belongs to the last span.

As many are as many as 32 bits tell. That is the same as long as the depth stays within its range,
which it does in a line of less than `2 ^ 31` characters.

## Main definitions

* `Brackets.IsCut`, `Brackets.cutsOf`: the places in a text where it is cut
* `Brackets.endsFrom`, `Brackets.spanEnds`: the places where texts end that stand side by side
* `Brackets.LeavesSpan`: a line with a span behind its last cut

## Main results

* `Brackets.endsFrom_cut`: the pieces that the scanner finds end at the cuts
* `Brackets.endsFrom_attach`: what text left over does to the ends
* `Brackets.spans_at_cuts`: how many spans there are, and where they end
-/

namespace BracketScript.Brackets

variable {cs tail : List Char} {pieces : List (List Char)} {depth : Int32} {n : Nat}

/-! ### Places -/

/-- The first `n` characters of a text end in a closing bracket, and close as many brackets as they
open, as far as 32 bits tell. -/
def IsCut (cs : List Char) (n : Nat) : Prop :=
  n ≤ cs.length ∧ (cs.take n).getLast? = some ']' ∧ IsLevel (cs.take n)

instance (cs : List Char) : DecidablePred (IsCut cs) :=
  fun _ => inferInstanceAs (Decidable (_ ∧ _ ∧ _))

/-- The places where a text is cut, from left to right. -/
def cutsOf (cs : List Char) : List Nat := (List.range (cs.length + 1)).filter (IsCut cs)

/-- The places where texts end that stand side by side, the first of them behind `start`
characters. -/
def endsFrom (start : Nat) : List (List Char) → List Nat
  | [] => []
  | p :: ps => (start + p.length) :: endsFrom (start + p.length) ps

/-- The places where the spans of a line end. -/
def spanEnds (line : String) : List Nat := endsFrom 0 ((spans line).map String.toList)

/-- There is text behind the last cut, and there is no cut or the whole text does not close as many
brackets as it opens, as far as 32 bits tell. -/
def LeavesSpan (cs : List Char) : Prop :=
  (cutsOf cs).getLastD 0 < cs.length ∧ (cutsOf cs = [] ∨ ¬ IsLevel cs)

instance (cs : List Char) : Decidable (LeavesSpan cs) := inferInstanceAs (Decidable (_ ∧ _))

/-! ### The cuts of the scanner -/

/-- There is a cut behind a character exactly if it is a bracket that brings the depth
back to zero. -/
theorem isCut_iff (front cs : List Char) (c : Char) :
    IsCut (front ++ c :: cs) (front.length + 1) ↔ c = ']' ∧ balance front = 1 := by
  have htake : (front ++ c :: cs).take (front.length + 1) = front ++ [c] := by
    rw [List.take_length_add_append, List.take_succ_cons, List.take_zero]
  have hlength : front.length + 1 ≤ (front ++ c :: cs).length := by simp
  rw [IsCut, htake, List.getLast?_concat, Option.some_inj, ← balance_eq_zero_iff,
    and_iff_right hlength]
  refine and_congr_right fun hc => ?_
  rw [hc]
  exact balance_concat_close_iff

theorem not_isCut_zero (cs : List Char) : ¬ IsCut cs 0 := by
  simp [IsCut]

/-- Behind a text whose last characters are the current piece, the pieces end at the cuts. -/
theorem endsFrom_cut (front piece cs : List Char) :
    endsFrom front.length (cut (balance (front ++ piece.reverse)) piece cs).1 =
      (List.range' ((front ++ piece.reverse).length + 1) cs.length).filter
        (IsCut (front ++ piece.reverse ++ cs)) := by
  induction cs generalizing front piece with
  | nil => simp [cut, endsFrom]
  | cons c cs ih =>
    have hcut := isCut_iff (front ++ piece.reverse) cs c
    rw [cut, List.length_cons, List.range'_succ, List.filter_cons]
    have htext : front ++ piece.reverse ++ c :: cs = front ++ piece.reverse ++ [c] ++ cs := by
      rw [List.append_assoc _ [c], List.singleton_append]
    by_cases hclose : c = ']' ∧ balance (front ++ piece.reverse) = 1
    · -- the piece ends here, and the next one starts behind it
      have hzero : balance (front ++ piece.reverse ++ [c] ++ [].reverse) = 0 := by
        rw [List.reverse_nil, List.append_nil, balance_append, hclose.1, hclose.2]
        rfl
      have hnext := ih (front ++ piece.reverse ++ [c]) []
      rw [hzero, List.reverse_nil, List.append_nil, ← htext] at hnext
      have hlength : front.length + (c :: piece).reverse.length =
          (front ++ piece.reverse ++ [c]).length := by
        simp
      rw [if_pos hclose, if_pos (decide_eq_true (hcut.mpr hclose)), endsFrom, hlength, hnext,
        List.length_append, List.length_singleton]
    · -- the character belongs to the piece
      have hnext := ih front (c :: piece)
      have hpiece : front ++ (c :: piece).reverse = front ++ piece.reverse ++ [c] := by
        rw [List.reverse_cons, List.append_assoc]
      rw [hpiece, balance_append, balance, balance, Int32.add_zero, ← htext] at hnext
      rw [List.length_append, List.length_singleton] at hnext
      rw [if_neg hclose, if_neg (fun h => hclose (hcut.mp (of_decide_eq_true h))), hnext]

/-- The pieces that a text is cut into end at its cuts. -/
theorem endsFrom_cut_eq_cutsOf (cs : List Char) : endsFrom 0 (cut 0 [] cs).1 = cutsOf cs := by
  have hends := endsFrom_cut [] [] cs
  rw [cutsOf, List.range_eq_range', List.range'_succ, List.filter_cons,
    if_neg (fun h => not_isCut_zero cs (of_decide_eq_true h))]
  exact hends

/-! ### Text behind the last cut -/

theorem endsFrom_append (start : Nat) (ps qs : List (List Char)) :
    endsFrom start (ps ++ qs) = endsFrom start ps ++ endsFrom (start + ps.flatten.length) qs := by
  induction ps generalizing start with
  | nil => rfl
  | cons p ps ih =>
    rw [List.cons_append, endsFrom, endsFrom, ih, List.flatten_cons, List.length_append,
      Nat.add_assoc, List.cons_append]

theorem length_endsFrom (start : Nat) (ps : List (List Char)) :
    (endsFrom start ps).length = ps.length := by
  induction ps generalizing start with
  | nil => rfl
  | cons p ps ih => rw [endsFrom, List.length_cons, ih, List.length_cons]

/-- The last text ends where all of them end. -/
theorem getLastD_endsFrom (start : Nat) (ps : List (List Char)) :
    (endsFrom start ps).getLastD start = start + ps.flatten.length := by
  induction ps generalizing start with
  | nil => rfl
  | cons p ps ih =>
    rw [endsFrom, List.getLastD_cons, ih, List.flatten_cons, List.length_append, Nat.add_assoc]

/-- The text left over is a piece of its own if there is no other one or the depth is not zero, and
goes to the last piece otherwise. -/
theorem endsFrom_attach (hne : pieces.flatten ++ tail ≠ []) :
    endsFrom 0 (attach pieces tail depth) =
      (if tail ≠ [] ∧ (pieces = [] ∨ depth ≠ 0) then endsFrom 0 pieces
        else (endsFrom 0 pieces).dropLast) ++ [pieces.flatten.length + tail.length] := by
  rcases List.eq_nil_or_concat pieces with rfl | ⟨front, last, rfl⟩
  · obtain ⟨c, tail, rfl⟩ := List.exists_cons_of_ne_nil (show tail ≠ [] from hne)
    rw [if_pos ⟨List.cons_ne_nil _ _, .inl rfl⟩]
    rfl
  · rw [List.concat_eq_append, attach_append _ _ _ _ (List.cons_ne_nil _ _)]
    cases tail with
    | nil => simp [attach_nil, endsFrom_append, endsFrom]
    | cons c tail =>
      by_cases hdepth : depth = 0 <;>
        simp [attach, hdepth, endsFrom_append, endsFrom, Nat.add_assoc]

/-- There is a span of its own behind the last cut exactly if this is how the text left over is
attached. -/
theorem leavesSpan_iff (cs : List Char) : LeavesSpan cs ↔
    (cut 0 [] cs).2.1 ≠ [] ∧ ((cut 0 [] cs).1 = [] ∨ (cut 0 [] cs).2.2 ≠ 0) := by
  have htext : (cut 0 [] cs).1.flatten ++ (cut 0 [] cs).2.1 = cs := cut_flatten 0 [] cs
  have hlength := congrArg List.length htext
  have hlast := getLastD_endsFrom 0 (cut 0 [] cs).1
  have hnone : cutsOf cs = [] ↔ (cut 0 [] cs).1 = [] := by
    rw [← endsFrom_cut_eq_cutsOf, ← List.length_eq_zero_iff, length_endsFrom,
      List.length_eq_zero_iff]
  rw [List.length_append] at hlength
  rw [endsFrom_cut_eq_cutsOf] at hlast
  -- the last piece ends at the last cut, so what is behind the cut is what is left over
  rw [LeavesSpan, hnone, hlast, cut_depth, Int32.zero_add, ← balance_eq_zero_iff,
    ← List.length_pos_iff]
  refine and_congr_left fun _ => ?_
  omega

theorem ne_nil_of_any_isBracket (h : cs.any isBracket = true) : cs ≠ [] := by
  rintro rfl
  cases h

/-- All spans but the last end at cuts, and the last one at the end of the line. It begins at the
last cut if it is left over behind that, and otherwise at the one before. -/
theorem spanEnds_eq {line : String} (h : line.toList.any isBracket = true) : spanEnds line =
    (if LeavesSpan line.toList then cutsOf line.toList else (cutsOf line.toList).dropLast) ++
      [line.toList.length] := by
  have htext : (cut 0 [] line.toList).1.flatten ++ (cut 0 [] line.toList).2.1 = line.toList :=
    cut_flatten 0 [] line.toList
  have hne : (cut 0 [] line.toList).1.flatten ++ (cut 0 [] line.toList).2.1 ≠ [] := by
    rw [htext]
    exact ne_nil_of_any_isBracket h
  have hspans : spanEnds line = endsFrom 0 (attach (cut 0 [] line.toList).1
      (cut 0 [] line.toList).2.1 (cut 0 [] line.toList).2.2) := by
    rw [spanEnds, spans, List.map_map, spansOf, if_pos h]
    simp
  rw [hspans, endsFrom_attach hne, endsFrom_cut_eq_cutsOf, ← List.length_append, htext]
  simp only [leavesSpan_iff]

/-! ### Spans and cuts -/

theorem join_spans (line : String) : String.join (spans line) = line := by
  apply String.toList_injective
  rw [String.toList_join, spans, List.flatMap_map]
  simp only [String.toList_ofList, List.flatMap_id']
  exact spansOf_flatten line.toList

theorem isCut_of_mem_cutsOf (h : n ∈ cutsOf cs) : IsCut cs n :=
  of_decide_eq_true (List.mem_filter.mp h).2

/-- There is a cut if nothing is left over. -/
theorem cutsOf_ne_nil (hne : cs ≠ []) (h : ¬ LeavesSpan cs) : cutsOf cs ≠ [] := by
  intro hnil
  refine h ⟨?_, .inl hnil⟩
  rw [hnil]
  exact List.length_pos_iff.mpr hne

/-- The spans of a line make it up. If the line has a bracket, then each span but the last ends at a
cut. There are as many spans as cuts, and one more if there is text behind the last cut and there is
no cut or the brackets are not closed; if not, the text behind the last cut belongs to the last
span, which begins at the cut before it. As long as the depth stays within its range, brackets are
closed exactly where as many are closed as are opened. -/
theorem spans_at_cuts (line : String) :
    String.join (spans line) = line ∧
    ('[' ∈ line.toList ∨ ']' ∈ line.toList →
      (∀ n ∈ (spanEnds line).dropLast, IsCut line.toList n) ∧
      (spans line).length =
        (cutsOf line.toList).length + (if LeavesSpan line.toList then 1 else 0) ∧
      spanEnds line =
        (if LeavesSpan line.toList then cutsOf line.toList else (cutsOf line.toList).dropLast) ++
          [line.toList.length]) ∧
    (DepthFits line.toList → ∀ p, p <+: line.toList →
      (IsLevel p ↔ p.count '[' = p.count ']')) := by
  refine ⟨join_spans line, fun hbracket => ?_, fun hfits p hp => hfits.isLevel_iff hp.isInfix⟩
  have hany : line.toList.any isBracket = true := by
    rcases hbracket with hopen | hclose
    · exact List.any_eq_true.mpr ⟨'[', hopen, rfl⟩
    · exact List.any_eq_true.mpr ⟨']', hclose, rfl⟩
  have hends := spanEnds_eq hany
  have hlength := congrArg List.length hends
  rw [spanEnds, length_endsFrom, List.length_map, List.length_append, List.length_singleton]
    at hlength
  refine ⟨fun n hn => ?_, ?_, hends⟩
  · rw [hends, List.dropLast_concat] at hn
    split at hn
    next => exact isCut_of_mem_cutsOf hn
    next => exact isCut_of_mem_cutsOf (List.dropLast_subset _ hn)
  · rw [hlength]
    split
    next => rfl
    next hleaves =>
      -- there is a cut, and the text behind it belongs to the last span
      have hcuts := List.length_pos_iff.mpr
        (cutsOf_ne_nil (ne_nil_of_any_isBracket hany) hleaves)
      rw [List.length_dropLast]
      omega

/-- Brackets that are closed before they are opened put off the first cut, and a bracket that is
closed behind the last one makes a span of its own. -/
theorem spans_at_cuts_stray : cutsOf "][[é] [b]] x".toList = [5, 9] ∧
    LeavesSpan "][[é] [b]] x".toList ∧ (spans "][[é] [b]] x").length = 3 ∧
    spanEnds "][[é] [b]] x" = [5, 9, 12] ∧ String.join (spans "][[é] [b]] x") = "][[é] [b]] x" ∧
    ("][[é]".toList.count '[' = "][[é]".toList.count ']') := by
  have hcuts : cutsOf "][[é] [b]] x".toList = [5, 9] := by decide +kernel
  have hleaves : LeavesSpan "][[é] [b]] x".toList := by decide +kernel
  obtain ⟨hjoin, hspans, hlevel⟩ := spans_at_cuts "][[é] [b]] x"
  obtain ⟨-, hlength, hends⟩ := hspans (.inl (by decide))
  rw [hcuts, if_pos hleaves] at hlength hends
  have hcount := hlevel (depthFits_of_length_lt (by decide)) "][[é]".toList (by decide)
  exact ⟨hcuts, hleaves, hlength, hends, hjoin, hcount.mp (by decide)⟩

end BracketScript.Brackets
