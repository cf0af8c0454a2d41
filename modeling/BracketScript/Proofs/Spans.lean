import BracketScript.Brackets
import Mathlib.Algebra.Group.Nat.Defs
import Mathlib.Data.List.Induction

/-!
# Spans of balanced lines

A line is balanced if no bracket is closed before it is opened and none is left open. The scanner
cuts a balanced line after each bracket that brings the depth back to zero, so that the spans of two
balanced lines put together are those of the first followed by those of the second. The text after
the last cut is the only thing that could get in the way: it is glued to the last span, so the first
line must not have any.

The depth is counted with 32 bits, and so it is zero wherever the opening and the closing brackets
are equally many modulo `2 ^ 32`. In a text in which the depth stays within its range, this is so
only where they are equally many.

## Main definitions

* `Brackets.Balanced`: brackets are opened before they are closed, and all are closed
* `Brackets.IsLevel`: a text whose brackets bring the depth back to where it was
* `Brackets.DepthFits`: a text in which the depth stays within its range

## Main results

* `Brackets.balance_eq_count`: the depth that a text adds, by its brackets
* `Brackets.DepthFits.isLevel_iff`: what the depth tells where it does not wrap around
* `Brackets.cut_append`: cutting two texts is cutting the first and going on with the second
* `Brackets.cut_depth`: the depth at the end is that of all brackets together
* `Brackets.Balanced.cut_ne_nil`: a balanced text with a bracket is cut somewhere
* `Brackets.spans_append`: the spans of two balanced lines
* `Brackets.spansOf_flatten`: the spans of a text make it up
-/

namespace BracketScript.Brackets

/-- No bracket is closed before it is opened, and none is left open. -/
structure Balanced (cs : List Char) : Prop where
  /-- No beginning of the text closes more brackets than it opens. -/
  opened : ∀ p, p <+: cs → p.count ']' ≤ p.count '['
  /-- The whole text closes as many brackets as it opens. -/
  closed : cs.count ']' = cs.count '['

instance (cs : List Char) : Decidable (Balanced cs) :=
  decidable_of_iff
    ((∀ n, n < cs.length + 1 → (cs.take n).count ']' ≤ (cs.take n).count '[') ∧
      cs.count ']' = cs.count '[')
    ⟨fun h => ⟨fun p hp => by
        rw [List.prefix_iff_eq_take.mp hp]
        exact h.1 _ (Nat.lt_succ_of_le hp.length_le), h.2⟩,
      fun h => ⟨fun n _ => h.opened _ (List.take_prefix n cs), h.closed⟩⟩

/-! ### The depth that a text adds -/

/-- The opening and the closing brackets of a text are equally many, as far as 32 bits tell. -/
def IsLevel (cs : List Char) : Prop := cs.count '[' % Int32.size = cs.count ']' % Int32.size

instance (cs : List Char) : Decidable (IsLevel cs) := inferInstanceAs (Decidable (_ = _))

/-- The depth stays within the range of 32 bits from the beginning of a text to its end. -/
def DepthFits (cs : List Char) : Prop := ∀ p, p <+: cs →
  p.count ']' ≤ p.count '[' + 2 ^ 31 ∧ p.count '[' < p.count ']' + 2 ^ 31

/-- Numbers are told apart by their remainders. -/
theorem ofNat_eq_ofNat_iff {a b : Nat} :
    Int32.ofNat a = Int32.ofNat b ↔ a % Int32.size = b % Int32.size := by
  rw [← Int32.toBitVec_inj, Int32.toBitVec_ofNat', Int32.toBitVec_ofNat', ← BitVec.toNat_inj,
    BitVec.toNat_ofNat, BitVec.toNat_ofNat]

/-- The depth that a text adds is the number of brackets that it opens less those that it closes. -/
theorem balance_eq_count (cs : List Char) :
    balance cs = Int32.ofNat (cs.count '[') - Int32.ofNat (cs.count ']') := by
  induction cs with
  | nil => rfl
  | cons c cs ih =>
    rw [balance, ih]
    -- a bracket adds one to one of the two counts, and any other character to neither
    by_cases hopen : c = '['
    · have hweight : weight c = Int32.ofNat 1 := by rw [hopen]; rfl
      rw [hweight, hopen, List.count_cons_self, List.count_cons_of_ne (by decide),
        Int32.ofNat_add]
      grind
    · by_cases hclose : c = ']'
      · have hweight : weight c = -Int32.ofNat 1 := by rw [hclose]; rfl
        rw [hweight, hclose, List.count_cons_self, List.count_cons_of_ne (by decide),
          Int32.ofNat_add]
        grind
      · have hweight : weight c = 0 := by simp [weight, hopen, hclose]
        rw [hweight, List.count_cons_of_ne hopen, List.count_cons_of_ne hclose, Int32.zero_add]

/-- The depth is back to where it was if as many brackets are opened as are closed, or if the
difference is so large that the depth has wrapped around. -/
theorem balance_eq_zero_iff {cs : List Char} : balance cs = 0 ↔ IsLevel cs := by
  rw [balance_eq_count, Int32.sub_eq_iff_eq_add, Int32.zero_add, ofNat_eq_ofNat_iff, IsLevel]

/-- Between two places of a text in which the depth stays within its range, the depth is the same
only if as many brackets are opened as are closed. -/
theorem DepthFits.isLevel_iff {cs part : List Char} (h : DepthFits cs) (hpart : part <:+: cs) :
    IsLevel part ↔ part.count '[' = part.count ']' := by
  obtain ⟨before, after, rfl⟩ := hpart
  have hbefore := h before ((List.prefix_append before part).trans (List.prefix_append _ after))
  have hboth := h (before ++ part) (List.prefix_append _ after)
  rw [List.count_append, List.count_append] at hboth
  -- both depths are in a range of `2 ^ 32` numbers, and so is their difference
  rw [IsLevel, Int32.size]
  omega

/-- The depth stays within its range in a text of less than `2 ^ 31` characters. -/
theorem depthFits_of_length_lt {cs : List Char} (h : cs.length < 2 ^ 31) : DepthFits cs := by
  intro p hp
  have hlength := hp.length_le
  have hopen := p.count_le_length (a := '[')
  have hclose := p.count_le_length (a := ']')
  omega

theorem Balanced.total {cs : List Char} (h : Balanced cs) : balance cs = 0 :=
  balance_eq_zero_iff.mpr (congrArg (· % Int32.size) h.closed.symm)

theorem balance_append (xs ys : List Char) : balance (xs ++ ys) = balance xs + balance ys := by
  induction xs with
  | nil => rw [List.nil_append, balance, Int32.zero_add]
  | cons c xs ih => rw [List.cons_append, balance, balance, ih, Int32.add_assoc]

/-- A closing bracket brings the depth back to zero where a single bracket is open. -/
theorem balance_concat_close_iff {cs : List Char} :
    balance (cs ++ [']']) = 0 ↔ balance cs = 1 := by
  have hclose : balance [']'] = -1 := rfl
  rw [balance_append, hclose, Int32.add_neg_eq_sub, Int32.sub_eq_iff_eq_add, Int32.zero_add]

/-! ### Cutting -/

/-- Cutting two texts is cutting the first, and going on with the second from the piece and the
depth where the first one ends. -/
theorem cut_append (depth : Int32) (piece xs ys : List Char) :
    cut depth piece (xs ++ ys) =
      ((cut depth piece xs).1 ++
          (cut (cut depth piece xs).2.2 (cut depth piece xs).2.1.reverse ys).1,
        (cut (cut depth piece xs).2.2 (cut depth piece xs).2.1.reverse ys).2) := by
  induction xs generalizing depth piece with
  | nil => simp [cut]
  | cons c xs ih =>
    simp only [List.cons_append, cut]
    split
    · simp [ih]
    · exact ih _ _

/-- The depth at the end is that of all brackets together. -/
theorem cut_depth (depth : Int32) (piece cs : List Char) :
    (cut depth piece cs).2.2 = depth + balance cs := by
  induction cs generalizing depth piece with
  | nil => rw [cut, balance, Int32.add_zero]
  | cons c cs ih =>
    rw [balance, ← Int32.add_assoc]
    simp only [cut]
    split
    · rename_i h
      have hzero : depth + weight c = 0 := by
        rw [h.1, h.2]
        rfl
      rw [ih, hzero]
    · exact ih _ _

/-- Nothing is left over after a bracket that brings the depth back to zero. -/
theorem cut_concat_close {cs : List Char} (h : balance cs = 1) :
    ∃ pieces, cut 0 [] (cs ++ [']']) = (pieces, [], 0) ∧ pieces ≠ [] := by
  have hdepth : (cut 0 [] cs).2.2 = 1 := by rw [cut_depth, h]; rfl
  rw [cut_append, hdepth]
  exact ⟨_, rfl, List.append_ne_nil_of_right_ne_nil _ (List.cons_ne_nil _ _)⟩

/-- A bracket at the end of a balanced text closes the only one that is open there. -/
theorem Balanced.of_concat_bracket {cs : List Char} {c : Char} (h : Balanced (cs ++ [c]))
    (hc : isBracket c = true) : c = ']' ∧ balance cs = 1 := by
  simp only [isBracket, Bool.or_eq_true, beq_iff_eq] at hc
  rcases hc with rfl | rfl
  · have hopened := h.opened cs (List.prefix_append _ _)
    have hclosed := h.closed
    have hnone : ['['].count ']' = 0 := by decide
    rw [List.count_append, List.count_append, hnone, List.count_singleton_self] at hclosed
    omega
  · exact ⟨rfl, balance_concat_close_iff.mp h.total⟩

theorem Balanced.of_concat {cs : List Char} {c : Char} (h : Balanced (cs ++ [c]))
    (hc : isBracket c = false) : Balanced cs := by
  refine ⟨fun p hp => h.opened p (hp.trans (List.prefix_append _ _)), ?_⟩
  have hclosed := h.closed
  simp only [isBracket, Bool.or_eq_false_iff, beq_eq_false_iff_ne, ne_eq] at hc
  simpa [List.count_append, List.count_singleton, hc.1, hc.2] using hclosed

/-- A balanced text with a bracket is cut somewhere: at the latest after its last bracket. -/
theorem Balanced.cut_ne_nil {cs : List Char} (h : Balanced cs) (hb : cs.any isBracket = true) :
    (cut 0 [] cs).1 ≠ [] := by
  induction cs using List.reverseRecOn with
  | nil => cases hb
  | append_singleton cs c ih =>
    by_cases hc : isBracket c = true
    · obtain ⟨rfl, hdepth⟩ := h.of_concat_bracket hc
      obtain ⟨pieces, hcut, hne⟩ := cut_concat_close hdepth
      rwa [hcut]
    · have hlast := Bool.eq_false_iff.mpr hc
      rw [List.any_append, List.any_cons, List.any_nil, hlast, Bool.or_false, Bool.or_false] at hb
      rw [cut_append]
      exact List.append_ne_nil_of_left_ne_nil (ih (h.of_concat hlast) hb) _

/-! ### Spans -/

/-- Text left over is attached to the last piece only. -/
theorem attach_append (pieces pieces' : List (List Char)) (tail : List Char) (depth : Int32)
    (h : pieces' ≠ []) :
    attach (pieces ++ pieces') tail depth = pieces ++ attach pieces' tail depth := by
  induction pieces with
  | nil => rfl
  | cons piece pieces ih =>
    rw [List.cons_append, List.cons_append, ← ih]
    have hne : pieces ++ pieces' ≠ [] := by simp [h]
    obtain ⟨next, rest, hrest⟩ := List.exists_cons_of_ne_nil hne
    rw [hrest]
    cases tail <;> rfl

theorem attach_nil (pieces : List (List Char)) (depth : Int32) :
    attach pieces [] depth = pieces := by
  rw [attach.eq_def]

/-- The spans of two texts are those of the first and those of the second, if the first ends with a
bracket that brings the depth back to zero and the second is cut somewhere. -/
theorem spansOf_append_of_cut {xs ys : List Char} (hx : balance xs = 0)
    (hend : xs.getLast? = some ']') (hb : ys.any isBracket = true) (hy : (cut 0 [] ys).1 ≠ []) :
    spansOf (xs ++ ys) = spansOf xs ++ spansOf ys := by
  obtain ⟨zs, rfl⟩ := List.getLast?_eq_some_iff.mp hend
  obtain ⟨pieces, hpieces, -⟩ := cut_concat_close (balance_concat_close_iff.mp hx)
  have hbx : (zs ++ [']']).any isBracket = true := by simp [isBracket]
  have hbxy : (zs ++ [']'] ++ ys).any isBracket = true := by simp [isBracket]
  simp only [spansOf, hbx, hbxy, hb, if_true, cut_append 0 [] (zs ++ [']']) ys, hpieces,
    List.reverse_nil, attach_nil]
  exact attach_append _ _ _ _ hy

/-- The spans of two balanced lines, the first of which ends with its last bracket, are those of the
first and those of the second. -/
theorem spans_append {l₁ l₂ : String} (h₁ : Balanced l₁.toList)
    (hend : l₁.toList.getLast? = some ']') (h₂ : Balanced l₂.toList)
    (hb : l₂.toList.any isBracket = true) : spans (l₁ ++ l₂) = spans l₁ ++ spans l₂ := by
  simp only [spans, String.toList_append]
  rw [spansOf_append_of_cut h₁.total hend hb (h₂.cut_ne_nil hb), List.map_append]

/-! ### Nothing is lost -/

/-- The pieces and what is left over make up the text. -/
theorem cut_flatten (depth : Int32) (piece cs : List Char) :
    (cut depth piece cs).1.flatten ++ (cut depth piece cs).2.1 = piece.reverse ++ cs := by
  induction cs generalizing depth piece with
  | nil => simp [cut]
  | cons c cs ih =>
    simp only [cut]
    split
    · simpa using ih 0 []
    · simpa using ih (depth + weight c) (c :: piece)

theorem attach_flatten (pieces : List (List Char)) (tail : List Char) (depth : Int32) :
    (attach pieces tail depth).flatten = pieces.flatten ++ tail := by
  induction pieces with
  | nil => cases tail <;> simp [attach]
  | cons piece pieces ih =>
    cases tail with
    | nil => simp [attach_nil]
    | cons c tail =>
      cases pieces with
      | nil =>
        simp only [attach]
        split <;> simp
      | cons next rest =>
        rw [show piece :: next :: rest = [piece] ++ next :: rest from rfl,
          attach_append _ _ _ _ (by simp), List.flatten_append, List.flatten_append, ih]
        simp

/-- The spans of a text make it up. -/
theorem spansOf_flatten (cs : List Char) : (spansOf cs).flatten = cs := by
  unfold spansOf
  split
  · rw [attach_flatten, cut_flatten]
    rfl
  · simp

/-- A line has at least one span. -/
theorem spans_ne_nil (line : String) : spans line ≠ [] := by
  intro h
  have hspans : spansOf line.toList = [] := List.map_eq_nil_iff.mp h
  have htext := spansOf_flatten line.toList
  rw [hspans] at htext
  rw [← htext] at hspans
  exact absurd hspans (by decide)

end BracketScript.Brackets
