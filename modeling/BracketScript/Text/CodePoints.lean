/-!
# Sets of code points

A set of code points is written as the increasing list of the points at which membership changes:
the first boundary is the first member, the second the first point after it that is not a member,
and so on. A point belongs to the set when an odd number of boundaries lie at or below it.

## Main definitions

* `CodePoints.inside`: membership in the set that a list of boundaries describes
* `CodePoints.combine`: the boundaries of a set that is made of two others point by point
* `CodePoints.ofGaps`: boundaries written as the distances between them
* `CodePoints.ofRanges`: the boundaries of the union of ranges

## Main results

* `CodePoints.inside_cons`: passing the first boundary turns membership over
-/

namespace BracketScript.Text.CodePoints

/-- The point `n` lies in the set with these boundaries. -/
def inside (bounds : List Nat) (n : Nat) : Bool :=
  (bounds.takeWhile (· ≤ n)).length % 2 == 1

/-- No point lies in the set without boundaries. -/
theorem inside_nil (n : Nat) : inside [] n = false := rfl

/-- Passing the first boundary turns membership over. -/
theorem inside_cons (b : Nat) (bounds : List Nat) (n : Nat) :
    inside (b :: bounds) n = if b ≤ n then !inside bounds n else false := by
  unfold inside
  by_cases h : b ≤ n
  · simp only [List.takeWhile_cons, h, decide_true, ↓reduceIte, List.length_cons]
    rcases Nat.mod_two_eq_zero_or_one (bounds.takeWhile (· ≤ n)).length with h' | h' <;>
      simp [Nat.add_mod, h']
  · simp [h]

/-! ### Sets made of two others -/

/-- The point `n` in front of further boundaries, if membership changes there. -/
def changeAt (n : Nat) (before after : Bool) (bounds : List Nat) : List Nat :=
  if before = after then bounds else n :: bounds

/-- The boundaries of the set of points `n` for which `f` holds of membership in two sets, from a
point on where the answers for the two are `x` and `y`. -/
def combineFrom (f : Bool → Bool → Bool) (x y : Bool) : List Nat → List Nat → List Nat
  | [], [] => []
  | a :: as, [] => changeAt a (f x y) (f (!x) y) (combineFrom f (!x) y as [])
  | [], b :: bs => changeAt b (f x y) (f x (!y)) (combineFrom f x (!y) [] bs)
  | a :: as, b :: bs =>
    if a < b then changeAt a (f x y) (f (!x) y) (combineFrom f (!x) y as (b :: bs))
    else if b < a then changeAt b (f x y) (f x (!y)) (combineFrom f x (!y) (a :: as) bs)
    else changeAt a (f x y) (f (!x) (!y)) (combineFrom f (!x) (!y) as bs)
termination_by as bs => as.length + bs.length

/-- The boundaries of the set of points for which `f` holds of membership in two sets. What is in
neither set must not be in the result. -/
def combine (f : Bool → Bool → Bool) (as bs : List Nat) : List Nat :=
  combineFrom f false false as bs

/-! ### Written forms -/

/-- The value of a hexadecimal digit in lower case. -/
def hexDigit (c : Char) : Nat := if c.toNat < 97 then c.toNat - 48 else c.toNat - 87

/-- Reads boundaries after the boundary `last`, given the part `gap` of the next distance that has
been read. -/
def gapsFrom (last gap : Nat) : List Char → List Nat
  | [] => [last + gap]
  | c :: cs =>
    if c = ' ' then (last + gap) :: gapsFrom (last + gap) 0 cs
    else gapsFrom last (gap * 16 + hexDigit c) cs

/-- The boundaries that are written as the distances between them, the first from zero, in
hexadecimal and with a space between two. -/
def ofGaps (gaps : String) : List Nat := gapsFrom 0 0 gaps.toList

/-- The boundaries of the union of ranges, of which each starts at or after the one before, from the
range between `low` and `high` on. -/
def coalesce (low high : Nat) : List (Nat × Nat) → List Nat
  | [] => [low, high + 1]
  | (low', high') :: rest =>
    if low' ≤ high + 1 then coalesce low (max high high') rest
    else low :: (high + 1) :: coalesce low' high' rest

/-- The boundaries of the union of ranges, each given by its least and its greatest point. -/
def ofRanges (ranges : List (Nat × Nat)) : List Nat :=
  match ranges.mergeSort fun a b => a.1 ≤ b.1 with
  | [] => []
  | (low, high) :: rest => coalesce low high rest

/-- The ranges, by least and greatest point, that boundaries enclose. -/
def toRanges : List Nat → List (Nat × Nat)
  | low :: beyond :: rest => (low, beyond - 1) :: toRanges rest
  | _ => []

end BracketScript.Text.CodePoints
