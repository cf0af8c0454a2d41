import BracketScript.Regex.Property
import BracketScript.Text.Letter

/-!
# Patterns and their matches

A pattern matches a text if it matches some part of it. Only that is asked of patterns, so the
order in which alternatives and repetitions are tried does not matter, and matching computes with
sets of positions: the positions of a text of length `n` are `0` to `n`, and a set of them is a list
of `n + 1` truth values.

## Main definitions

* `Look`: a condition on a position
* `Regex`: a pattern
* `Regex.concat`, `Regex.alternation`, `Regex.repetition`, `Regex.ofSet`: patterns in a simple form
* `Regex.ends`: the positions at which a match can end that starts at one of given positions
* `Regex.isMatch`: whether a pattern matches a text
-/

namespace BracketScript

/-- A character of a word. -/
def isWordChar (c : Char) : Bool := Regex.Property.wordChars.has c

/-- A character of a word, ASCII only. -/
def isAsciiWordChar (c : Char) : Bool :=
  Text.isAsciiLetter c || Text.isAsciiDigit c || c == '_'

/-- A condition on a position of a text. -/
inductive Look where
  | startText
  | endText
  | startLine
  | endLine
  /-- The start of a line, where a line may also end in a carriage return. -/
  | startLineCrlf
  /-- The end of a line, where a line may also end in a carriage return. -/
  | endLineCrlf
  | wordBoundary
  | notWordBoundary
  | wordStart
  | wordEnd
  | wordStartHalf
  | wordEndHalf
  deriving DecidableEq, Repr, Inhabited

/-- The characters right before and right after a position. -/
structure Surroundings where
  /-- The character before. -/
  before : Option Char
  /-- The character after. -/
  after : Option Char
  deriving DecidableEq, Repr, Inhabited

/-- Whether a neighbouring character is one of a word, as `isWord` tells. -/
def wordAt (isWord : Char → Bool) (c : Option Char) : Bool := c.any isWord

/-- The condition holds at a position with the given neighbours; `isWord` tells the characters of
words. -/
def Look.holds (isWord : Char → Bool) (s : Surroundings) : Look → Bool
  | startText => s.before.isNone
  | endText => s.after.isNone
  | startLine => s.before.isNone || s.before == some '\n'
  | endLine => s.after.isNone || s.after == some '\n'
  | startLineCrlf =>
    s.before.isNone || s.before == some '\n' ||
      (s.before == some '\r' && s.after != some '\n')
  | endLineCrlf =>
    s.after.isNone || s.after == some '\r' ||
      (s.after == some '\n' && s.before != some '\r')
  | wordBoundary => wordAt isWord s.before != wordAt isWord s.after
  | notWordBoundary => wordAt isWord s.before == wordAt isWord s.after
  | wordStart => !wordAt isWord s.before && wordAt isWord s.after
  | wordEnd => wordAt isWord s.before && !wordAt isWord s.after
  | wordStartHalf => !wordAt isWord s.before
  | wordEndHalf => !wordAt isWord s.after

/-- A pattern. -/
inductive Regex where
  /-- The empty text. -/
  | empty
  /-- The given characters one after the other. -/
  | literal (cs : List Char)
  /-- One character of a set. -/
  | chars (s : CharSet)
  /-- The empty text at positions that satisfy a condition; with `ascii`, words are of ASCII
  characters. -/
  | look (condition : Look) (ascii : Bool)
  /-- A pattern whose match is kept. -/
  | capture (r : Regex)
  /-- A pattern at least `least` times, and at most `most` times if that is given. -/
  | rep (r : Regex) (least : Nat) (most : Option Nat)
  /-- One pattern and then another. -/
  | cat (r s : Regex)
  /-- One of two patterns. -/
  | alt (r s : Regex)
  deriving DecidableEq, Repr, Inhabited

namespace Regex

/-! ### Simple forms

Concatenations and alternations are nested to the right. In a concatenation no part is empty and no
literal follows another; in an alternation no branch is an alternation. -/

/-- The parts of a concatenation. -/
def parts : Regex → List Regex
  | empty => []
  | cat r s => r :: s.parts
  | r => [r]

/-- The branches of an alternation. -/
def branches : Regex → List Regex
  | alt r s => r :: s.branches
  | r => [r]

/-- A part in front of others; two literals become one. -/
def consPart : Regex → List Regex → List Regex
  | literal cs, literal ds :: rest => literal (cs ++ ds) :: rest
  | r, rest => r :: rest

/-- Parts that are simple already, one after the other. -/
def ofParts : List Regex → Regex
  | [] => empty
  | [r] => r
  | r :: rest => cat r (ofParts rest)

/-- Branches that are simple already. -/
def ofBranches : List Regex → Regex
  | [] => chars .empty
  | [r] => r
  | r :: rest => alt r (ofBranches rest)

/-- Patterns one after the other. -/
def concat (rs : List Regex) : Regex :=
  ofParts ((rs.flatMap parts).foldr consPart [])

/-- One character of a set. -/
def ofSet (s : CharSet) : Regex :=
  match s.single? with
  | some c => literal [c]
  | none => chars s

/-- The character of a pattern that is one character, as a set. -/
def literalSet? : Regex → Option CharSet
  | literal [c] => some (.single c)
  | _ => none

/-- The set of a pattern that is one character of a set. -/
def charsSet? : Regex → Option CharSet
  | chars s => some s
  | _ => none

/-- The set of the characters of branches, if all are given by one character, or all by a set. -/
def branchSet? (rs : List Regex) : Option CharSet :=
  (rs.mapM literalSet? <|> rs.mapM charsSet?).map .unionAll

/-- The parts with which two concatenations start alike. -/
def commonParts : List Regex → List Regex → List Regex
  | r :: rs, s :: ss => if r = s then r :: commonParts rs ss else []
  | _, _ => []

/-- The parts with which all of several concatenations start; a single part is none. -/
def commonStart : List Regex → List Regex
  | [] => []
  | r :: rest =>
    let several (s : Regex) : List Regex := if s.parts.length < 2 then [] else s.parts
    rest.foldl (fun start s => commonParts start (several s)) (several r)

/-- The number of constructors of a pattern. -/
def size : Regex → Nat
  | empty | literal _ | chars _ | look _ _ => 1
  | capture r | rep r _ _ => r.size + 1
  | cat r s | alt r s => r.size + s.size + 1

/-- One of several patterns, in at most `count` rounds: branches that are characters become a set,
and what all branches start with is taken out in front. -/
def alternationFrom : Nat → List Regex → Regex
  | 0, rs => ofBranches rs
  | count + 1, rs =>
    let rs := rs.flatMap branches
    match rs with
    | [] => chars .empty
    | [r] => r
    | _ =>
      match branchSet? rs with
      | some s => ofSet s
      | none =>
        match commonStart rs with
        | [] => ofBranches rs
        | start =>
          let ends := rs.map fun r => ofParts (r.parts.drop start.length)
          concat (start ++ [alternationFrom count ends])

/-- One of several patterns. -/
def alternation (rs : List Regex) : Regex :=
  alternationFrom (rs.foldl (fun n r => n + r.size) 1) rs

/-- The least and the greatest number of bytes that a match can have; none if there is no such
number. -/
def lengths : Regex → Option Nat × Option Nat
  | empty | look _ _ => (some 0, some 0)
  | literal cs => let n := (cs.map Char.utf8Size).sum; (some n, some n)
  | chars s =>
    let width (n : Nat) : Nat := (Char.ofNat n).utf8Size
    (s.bounds.head?.map width, s.bounds.getLast?.map fun n => width (n - 1))
  | capture r => r.lengths
  | rep r least most =>
    let (low, high) := r.lengths
    (low.map (· * least), do return (← high) * (← most))
  | cat r s =>
    let (low, high) := r.lengths
    let (low', high') := s.lengths
    (do return (← low) + (← low'), do return (← high) + (← high'))
  | alt r s =>
    let (low, high) := r.lengths
    let (low', high') := s.lengths
    (do return min (← low) (← low'), do return max (← high) (← high'))

/-- A pattern repeated. The empty text is repeated at most once, no round matches the empty text and
one round is the pattern itself. -/
def repetition (r : Regex) (least : Nat) (most : Option Nat) : Regex :=
  let onlyEmpty := r.lengths.2 = some 0
  let least := if onlyEmpty then min least 1 else least
  let most := if onlyEmpty then some ((most.map (min · 1)).getD 1) else most
  if least = 0 ∧ most = some 0 then empty
  else if least = 1 ∧ most = some 1 then r
  else rep r least most

/-! ### Matching -/

/-- A set of positions. -/
abbrev Positions := List Bool

/-- The positions of either set. -/
def Positions.union (a b : Positions) : Positions := a.zipWith (· || ·) b

/-- The positions of the first set that are not in the second. -/
def Positions.diff (a b : Positions) : Positions := a.zipWith (fun x y => x && !y) b

/-- Some position is in the set. -/
def Positions.inhabited (a : Positions) : Bool := a.any id

/-- Applies a step to a set of positions `count` times; a set that the step leaves alone stays as it
is. -/
def iterate (step : Positions → Positions) : Nat → Positions → Positions
  | 0, a => a
  | count + 1, a =>
    let next := step a
    if next = a then a else iterate step count next

/-- The positions reached by at most `count` steps; `fresh` are those reached by the last one. -/
def reach (step : Positions → Positions) : Nat → Positions → Positions → Positions
  | 0, reached, _ => reached
  | count + 1, reached, fresh =>
    if fresh.inhabited then
      let new := (step fresh).diff reached
      reach step count (reached.union new) new
    else reached

/-- The neighbours of each position of a text, given the character before it. -/
def surroundings (before : Option Char) : List Char → List Surroundings
  | [] => [⟨before, none⟩]
  | c :: cs => ⟨before, some c⟩ :: surroundings (some c) cs

/-- A text to match: its characters and the neighbours of its positions. -/
structure Subject where
  /-- The characters. -/
  chars : List Char
  /-- The neighbours of each position. -/
  around : List Surroundings

/-- The positions after a character that satisfies `p`. -/
def after (text : Subject) (p : Char → Bool) (starts : Positions) : Positions :=
  false :: starts.zipWith (fun here c => here && p c) text.chars

/-- The positions at which a match of a pattern can end that starts at one of `starts`. -/
def ends (text : Subject) : Regex → Positions → Positions
  | empty, starts => starts
  | literal cs, starts => cs.foldl (fun starts c => after text (· == c) starts) starts
  | chars s, starts => after text s.has starts
  | look condition ascii, starts =>
    starts.zipWith
      (fun here around =>
        here && condition.holds (if ascii then isAsciiWordChar else isWordChar) around)
      text.around
  | capture r, starts => r.ends text starts
  | rep r least most, starts =>
    let first := iterate (r.ends text) least starts
    let further := match most with
      | some most => min (most - least) (text.chars.length + 1)
      | none => text.chars.length + 1
    reach (r.ends text) further first first
  | cat r s, starts => s.ends text (r.ends text starts)
  | alt r s, starts => (r.ends text starts).union (s.ends text starts)

/-- The pattern matches some part of the text. -/
def isMatch (r : Regex) (s : String) : Bool :=
  let cs := s.toList
  (r.ends ⟨cs, surroundings none cs⟩ (List.replicate (cs.length + 1) true)).inhabited

end Regex

end BracketScript
