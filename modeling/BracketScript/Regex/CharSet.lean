import BracketScript.Regex.CaseFolding
import BracketScript.Text.CodePoints

/-!
# Sets of characters in patterns

A set of characters is held by the boundaries of its code point intervals. The operations that
bracketed classes offer act on the boundaries; a set that is closed under case has with a character
all that fold to the same one.

## Main definitions

* `CharSet`: a set of characters
* `CharSet.has`: membership
* `CharSet.union`, `CharSet.inter`, `CharSet.diff`, `CharSet.symmDiff`, `CharSet.complement`
* `CharSet.anyCase`: the characters that differ from one of a set at most in case
-/

namespace BracketScript

/-- A set of characters. -/
structure CharSet where
  /-- The boundaries of its code points, in the sense of `Text.CodePoints.inside`. -/
  bounds : List Nat
  deriving DecidableEq, Repr, Inhabited

namespace CharSet

/-- The character is in the set. -/
def has (s : CharSet) (c : Char) : Bool := Text.CodePoints.inside s.bounds c.toNat

/-- No character. -/
def empty : CharSet := ⟨[]⟩

/-- All characters. -/
def all : CharSet := ⟨[0, 0x110000]⟩

/-- The code points from `low` to `high`. -/
def range (low high : Nat) : CharSet := ⟨[low, high + 1]⟩

/-- One character. -/
def single (c : Char) : CharSet := range c.toNat c.toNat

/-- The set with the given boundaries, written as the distances between them. -/
def ofGaps (gaps : String) : CharSet := ⟨Text.CodePoints.ofGaps gaps⟩

/-- The union of ranges, each given by its least and its greatest code point. -/
def ofRanges (ranges : List (Nat × Nat)) : CharSet := ⟨Text.CodePoints.ofRanges ranges⟩

/-- The ranges that make up the set, by least and greatest code point and in order. -/
def ranges (s : CharSet) : List (Nat × Nat) := Text.CodePoints.toRanges s.bounds

/-- The characters of either set. -/
def union (s t : CharSet) : CharSet := ⟨Text.CodePoints.combine (· || ·) s.bounds t.bounds⟩

/-- The characters of both sets. -/
def inter (s t : CharSet) : CharSet := ⟨Text.CodePoints.combine (· && ·) s.bounds t.bounds⟩

/-- The characters of the first set that are not in the second. -/
def diff (s t : CharSet) : CharSet :=
  ⟨Text.CodePoints.combine (fun x y => x && !y) s.bounds t.bounds⟩

/-- The characters of exactly one of the sets. -/
def symmDiff (s t : CharSet) : CharSet := ⟨Text.CodePoints.combine (· != ·) s.bounds t.bounds⟩

/-- All other characters. -/
def complement (s : CharSet) : CharSet := all.diff s

/-- The characters of any of the sets. -/
def unionAll (sets : List CharSet) : CharSet := sets.foldr union empty

/-- All characters of the set are ASCII. -/
def isAscii (s : CharSet) : Bool := s.bounds.all (· ≤ 128)

/-- The character of a set that has only one. -/
def single? (s : CharSet) : Option Char :=
  match s.bounds with
  | [low, beyond] => if beyond = low + 1 then some (Char.ofNat low) else none
  | _ => none

/-- The characters that differ from one of the set at most in case, where the runs give what folds
to what: what the members fold to is added first, then all that folds to one of those. -/
def anyCase (runs : List CaseFolding.Run) (s : CharSet) : CharSet :=
  let folded := s.union (ofRanges (CaseFolding.image runs s.ranges))
  folded.union (ofRanges (CaseFolding.preimage runs folded.ranges))

end CharSet

end BracketScript
