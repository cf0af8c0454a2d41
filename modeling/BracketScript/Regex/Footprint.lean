import BracketScript.Regex.Basic
import Std.Data.HashMap

/-!
# The footprint of patterns

A pattern is matched by an automaton that reads bytes, forwards to find where a match ends and
backwards to find where it starts. Patterns whose automaton would take too much memory are refused.
The footprint counts what the states of the automaton take: each state, each byte range that a state
branches on, and each state that a state forks to.

## Main definitions

* `Regex.Direction`: the two ways to read a text
* `Regex.byteRanges`: the byte sequences of a range of characters
* `Regex.footprint`: the memory that the automaton of a pattern takes
* `Regex.isTooLarge`: the footprint exceeds the limit
-/

namespace BracketScript.Regex

/-- The most memory that an automaton may take, in bytes. -/
def footprintLimit : Nat := 10485760

/-- What a state takes. -/
def stateSize : Nat := 32

/-- What a byte range takes that a state branches on. -/
def rangeSize : Nat := 8

/-- What a state takes that another one forks to. -/
def forkSize : Nat := 4

/-- How a text is read. -/
inductive Direction where
  | forwards
  | backwards
  deriving DecidableEq, Repr, Inhabited

/-! ### Byte sequences of characters -/

/-- A range of bytes. -/
structure ByteRange where
  /-- The least byte. -/
  low : Nat
  /-- The greatest byte. -/
  high : Nat
  deriving DecidableEq, Repr, Inhabited, Hashable

/-- The sequences of byte ranges that encode the code points from `low` to `high`, given by their
lowest `6 * count` bits and the bits above, where `mark` is added to the bits above: `count` bytes
of six bits follow the first one. -/
def continued (mark : Nat) : Nat → Nat → Nat → List (List ByteRange)
  | 0, low, high => [[⟨mark + low, mark + high⟩]]
  | count + 1, low, high =>
    let block := Nat.pow 64 (count + 1)
    let within (a b : Nat) : List (List ByteRange) :=
      (continued 0x80 count (a % block) (b % block)).map (⟨mark + a / block, mark + a / block⟩ :: ·)
    if low / block = high / block then within low high
    else
      let first := if low % block = 0 then [] else within low (low / block * block + block - 1)
      let last := if high % block = block - 1 then [] else within (high / block * block) high
      let start := if low % block = 0 then low / block else low / block + 1
      let stop := if high % block = block - 1 then high / block else high / block - 1
      let middle :=
        if stop < start then []
        else [⟨mark + start, mark + stop⟩ :: List.replicate (count + 1) ⟨0x80, 0xbf⟩]
      first ++ middle ++ last

/-- The stretches of code points that are encoded by the same number of bytes: the first and the
last one, the number of bytes after the first byte, and what marks the first byte. -/
def encodings : List (Nat × Nat × Nat × Nat) :=
  [(0, 0x7f, 0, 0), (0x80, 0x7ff, 1, 0xc0), (0x800, 0xd7ff, 2, 0xe0), (0xe000, 0xffff, 2, 0xe0),
    (0x10000, 0x10ffff, 3, 0xf0)]

/-- The sequences of byte ranges that encode the code points from `low` to `high`, in order. -/
def byteRanges (low high : Nat) : List (List ByteRange) :=
  encodings.flatMap fun (first, last, count, mark) =>
    let low := max low first
    let high := min high last
    if high < low then [] else continued mark count low high

/-! ### Sets of characters -/

/-- The length of the longest common start of two lists. -/
def commonLength : List ByteRange → List ByteRange → Nat
  | a :: as, b :: bs => if a = b then commonLength as bs + 1 else 0
  | _, _ => 0

/-- The number of different nonempty starts of sequences in order, the last one before them being
`previous`. -/
def startCount (previous : List ByteRange) : List (List ByteRange) → Nat
  | [] => 0
  | s :: rest => s.length - commonLength previous s + startCount s rest

/-- The states that read the rests of byte sequences: what they branch on and what follows. -/
abbrev RestStates := Std.HashMap (List (ByteRange × Nat)) Nat

/-- The number of the state that branches as given; equal states are shared. The state with number
zero ends all sequences. -/
def RestStates.intern (states : RestStates) (branches : List (ByteRange × Nat)) :
    Nat × RestStates :=
  match states[branches]? with
  | some n => (n, states)
  | none => (states.size + 1, states.insert branches (states.size + 1))

/-- Neighbouring sequences that start with the same range, by that range. -/
def byFirst : List (List ByteRange) → List (ByteRange × List (List ByteRange))
  | [] => []
  | [] :: rest => byFirst rest
  | (r :: s) :: rest =>
    match byFirst rest with
    | (r', group) :: groups =>
      if r = r' then (r, s :: group) :: groups else (r, [s]) :: (r', group) :: groups
    | [] => [(r, [s])]

/-- The number of the state that reads one of the sequences, which have at most `length` ranges, and
the states made so far. -/
def restState : Nat → List (List ByteRange) → RestStates → Nat × RestStates
  | 0, _, states => (0, states)
  | length + 1, sequences, states =>
    if sequences.all List.isEmpty then (0, states)
    else
      let (branches, states) := (byFirst sequences).foldl
        (fun (result : List (ByteRange × Nat) × RestStates) (group : ByteRange × _) =>
          let (n, states) := restState length group.2 result.2
          ((group.1, n) :: result.1, states))
        ([], states)
      states.intern branches.reverse

/-- What a set of characters takes. ASCII characters are told apart by one state. Other sets are
read byte by byte; forwards, equal rests of the sequences are shared, and backwards, equal
starts. -/
def setFootprint (direction : Direction) (s : CharSet) : Nat :=
  if s.isAscii then 2 * stateSize + s.ranges.length * rangeSize
  else
    let sequences := s.ranges.flatMap fun (low, high) => byteRanges low high
    match direction with
    | .forwards =>
      let (_, states) := restState 4 sequences ∅
      states.fold (fun total branches _ => total + stateSize + branches.length * rangeSize)
        stateSize
    | .backwards =>
      2 * stateSize + sequences.length * forkSize + startCount [] sequences * stateSize

/-! ### Alternatives of literals -/

/-- The bytes of a character. -/
def bytesOf (c : Char) : List Nat :=
  match byteRanges c.toNat c.toNat with
  | [sequence] => sequence.map ByteRange.low
  | _ => []

/-- The words between the empty ones. -/
def wordGroups : List (List Nat) → List (List (List Nat))
  | [] => [[]]
  | [] :: rest => [] :: wordGroups rest
  | w :: rest =>
    match wordGroups rest with
    | group :: groups => (w :: group) :: groups
    | [] => [[w]]

/-- Groups of words without those that are empty again right at the start. -/
def dropRepeated : List (List (List Nat)) → List (List (List Nat))
  | [] :: groups => [] :: groups.dropWhile List.isEmpty
  | groups => groups

/-- The rests of the words that start with each byte, in the order of first appearance. -/
def byFirstByte : List (List Nat) → List (Nat × List (List Nat)) → List (Nat × List (List Nat))
  | [], groups => groups
  | [] :: rest, groups => byFirstByte rest groups
  | (b :: w) :: rest, groups =>
    byFirstByte rest <|
      if groups.any (·.1 = b) then
        groups.map fun (b', ws) => if b' = b then (b', ws ++ [w]) else (b', ws)
      else groups ++ [(b, [w])]

/-- What the tree of words takes that tells them apart, where an earlier word is preferred to a
later one: words after the end of one are told apart by a state of their own. The words have less
than `length` bytes. Empty words alone take nothing, since the end of all is shared. -/
def treeFootprint : Nat → List (List Nat) → Nat
  | 0, _ => 0
  | length + 1, words =>
    if words.all List.isEmpty then 0
    else
      let groups := dropRepeated (wordGroups words)
      let ends := groups.length - 1
      let forks := ends + (groups.filter fun g => !g.isEmpty).length
      let branch (group : List (List Nat)) : Nat :=
        let byByte := byFirstByte group []
        let below := (byByte.map fun (_, ws) => treeFootprint length ws).sum
        match byByte.length with
        | 0 => 0
        | 1 => stateSize + below
        | n => stateSize + n * rangeSize + below
      stateSize + forks * forkSize + (groups.map branch).sum

/-- What an alternation of literals takes. -/
def wordsFootprint (direction : Direction) (literals : List (List Char)) : Nat :=
  let words := literals.map (·.flatMap bytesOf)
  let words := match direction with
    | .forwards => words
    | .backwards => words.map List.reverse
  stateSize + treeFootprint ((words.map List.length).foldl max 0 + 1) words

/-! ### Patterns -/

/-- The characters of a literal. -/
def literalChars? : Regex → Option (List Char)
  | literal cs => some cs
  | _ => none

/-- What a pattern takes, given what it takes as branches of an alternation: an alternation of
literals is made a tree, any other is a fork. -/
def wholeFootprint (direction : Direction) (r : Regex) (asBranches : Nat) : Nat :=
  match r with
  | alt _ _ =>
    match r.branches.mapM literalChars? with
    | some literals => wordsFootprint direction literals
    | none => 2 * stateSize + asBranches
  | _ => asBranches - forkSize

/-- What a pattern takes that is repeated, given what it takes once. -/
def repeatedFootprint (r : Regex) (once least : Nat) (most : Option Nat) : Nat :=
  let fork := stateSize + 2 * forkSize
  match least, most with
  | 0, some 1 => fork + once + stateSize
  | 0, none => if r.lengths.1.any (0 < ·) then fork + once else once + 2 * fork + stateSize
  | least, none => least * once + fork
  | least, some most =>
    if least = most then least * once
    else
      (if least = 0 then stateSize else least * once) + stateSize + (most - least) * (fork + once)

/-- What a pattern takes as branches of an alternation. -/
def branchesFootprint (direction : Direction) : Regex → Nat
  | empty | look _ _ => forkSize + stateSize
  | literal cs => forkSize + (cs.map Char.utf8Size).sum * stateSize
  | chars s => forkSize + setFootprint direction s
  | capture r =>
    let own := match direction with
      | .forwards => 2 * stateSize
      | .backwards => 0
    forkSize + own + wholeFootprint direction r (branchesFootprint direction r)
  | rep r least most =>
    let once := wholeFootprint direction r (branchesFootprint direction r)
    forkSize + repeatedFootprint r once least most
  | cat r s =>
    forkSize + wholeFootprint direction r (branchesFootprint direction r) +
      wholeFootprint direction s (branchesFootprint direction s)
  | alt r s => branchesFootprint direction r + branchesFootprint direction s

/-- Every match starts at the start of the text. -/
def startsAnchored : Regex → Bool
  | look .startText _ => true
  | capture r => r.startsAnchored
  | rep r least _ => 0 < least && r.startsAnchored
  | cat r s => r.startsAnchored || (r.lengths.2 == some 0 && s.startsAnchored)
  | alt r s => r.startsAnchored && s.startsAnchored
  | _ => false

/-- Every match stops at the end of the text. -/
def stopsAnchored : Regex → Bool
  | look .endText _ => true
  | capture r => r.stopsAnchored
  | rep r least _ => 0 < least && r.stopsAnchored
  | cat r s => s.stopsAnchored || (s.lengths.2 == some 0 && r.stopsAnchored)
  | alt r s => r.stopsAnchored && s.stopsAnchored
  | _ => false

/-- What the automaton takes that reads a text in one direction: the pattern, whose whole match is
kept forwards, the state at its end, and the states that skip what comes before a match unless every
match is at the border. -/
def footprint (direction : Direction) (r : Regex) : Nat :=
  let anchored := match direction with
    | .forwards => r.startsAnchored
    | .backwards => r.stopsAnchored
  let skip := if anchored then stateSize else 3 * stateSize + 2 * forkSize + rangeSize
  let whole := Regex.capture r
  skip + wholeFootprint direction whole (branchesFootprint direction whole) + stateSize

/-- The automaton of a pattern would take too much memory. -/
def isTooLarge (r : Regex) : Bool :=
  footprintLimit < r.footprint .forwards || footprintLimit < r.footprint .backwards

end BracketScript.Regex
