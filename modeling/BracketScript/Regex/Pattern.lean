import BracketScript.Regex.Basic
import BracketScript.Regex.Property

/-!
# Written patterns

A pattern as it is written: every part keeps its place, since faults that are found later are
reported there. What a pattern stands for depends on the flags in force, which it can itself change.

## Main definitions

* `Regex.ClassSet`: the inside of a bracketed class
* `Regex.Pattern`: a written pattern
* `Regex.Pattern.deepest?`, `Regex.ClassSet.deepest?`: a part that is nested too deeply
-/

namespace BracketScript.Regex

/-- An entry of a list of flags. -/
inductive FlagItem where
  /-- The flags after this are turned off. -/
  | negation
  /-- A flag, by its letter. -/
  | flag (letter : Char)
  deriving DecidableEq, Repr, Inhabited

/-- A character that stands for itself. -/
structure Literal where
  /-- Where it is written. -/
  span : Span
  /-- The character. -/
  char : Char
  /-- It is written by two hexadecimal digits, which can also mean a byte. -/
  isByte : Bool
  deriving DecidableEq, Repr, Inhabited

/-- A class with an escape sequence of its own. -/
inductive NamedClass where
  | digit
  | space
  | word
  deriving DecidableEq, Repr, Inhabited

/-- An operation between the parts of a class. -/
inductive ClassOp where
  | inter
  | diff
  | symmDiff
  deriving DecidableEq, Repr, Inhabited

/-- The inside of a bracketed class. -/
inductive ClassSet where
  | empty (span : Span)
  | literal (l : Literal)
  | range (span : Span) (first last : Literal)
  /-- A class with a name for ASCII characters. -/
  | ascii (span : Span) (negated : Bool) (set : CharSet)
  | named (span : Span) (negated : Bool) (kind : NamedClass)
  | property (span : Span) (negated : Bool) (query : Property.Query)
  | bracketed (span : Span) (negated : Bool) (inner : ClassSet)
  /-- Several entries. -/
  | union (span : Span) (entries : List ClassSet)
  | op (span : Span) (kind : ClassOp) (left right : ClassSet)
  deriving Repr, Inhabited

/-- Where the inside of a class is written. -/
def ClassSet.span : ClassSet → Span
  | empty span | range span _ _ | ascii span _ _ | named span _ _ | property span _ _
  | bracketed span _ _ | union span _ | op span _ _ _ => span
  | literal l => l.span

/-- A condition on a position. -/
inductive Assertion where
  /-- The start of the text or of a line. -/
  | caret
  /-- The end of the text or of a line. -/
  | dollar
  /-- A condition that no flag of lines changes. -/
  | look (condition : Look)
  deriving DecidableEq, Repr, Inhabited

/-- What a group is for. -/
inductive GroupKind where
  /-- What it matches is kept. -/
  | capturing
  /-- The flags given hold inside. -/
  | plain (flags : List FlagItem)
  deriving DecidableEq, Repr, Inhabited

/-- A written pattern. -/
inductive Pattern where
  | empty (span : Span)
  /-- A change of the flags for what follows in the group. -/
  | flags (span : Span) (items : List FlagItem)
  | literal (l : Literal)
  | dot (span : Span)
  | assertion (span : Span) (kind : Assertion)
  | named (span : Span) (negated : Bool) (kind : NamedClass)
  | property (span : Span) (negated : Bool) (query : Property.Query)
  | bracketed (span : Span) (negated : Bool) (inner : ClassSet)
  | rep (span : Span) (p : Pattern) (least : Nat) (most : Option Nat)
  | group (span : Span) (kind : GroupKind) (p : Pattern)
  | alternation (span : Span) (branches : List Pattern)
  | concat (span : Span) (parts : List Pattern)
  deriving Repr, Inhabited

/-- Where a pattern is written. -/
def Pattern.span : Pattern → Span
  | empty span | flags span _ | dot span | assertion span _ | named span _ _ | property span _ _
  | bracketed span _ _ | rep span _ _ _ | group span _ _ | alternation span _
  | concat span _ => span
  | literal l => l.span

/-! ### Nesting -/

/-- How deeply the parts of a pattern may be nested. -/
def nestLimit : Nat := 250

mutual

/-- The first part of the inside of a class that is nested too deeply, where `depth` parts enclose
it. -/
def ClassSet.deepest? (depth : Nat) : ClassSet → Option Span
  | bracketed span _ inner =>
    if nestLimit ≤ depth then some span else inner.deepest? (depth + 1)
  | union span entries =>
    if nestLimit ≤ depth then some span else ClassSet.deepestOf? (depth + 1) entries
  | op span _ left right =>
    if nestLimit ≤ depth then some span
    else left.deepest? (depth + 1) <|> right.deepest? (depth + 1)
  | empty _ | literal _ | range _ _ _ | ascii _ _ _ | named _ _ _ | property _ _ _ => none

/-- The first part of entries of a class that is nested too deeply. -/
def ClassSet.deepestOf? (depth : Nat) : List ClassSet → Option Span
  | [] => none
  | s :: rest => s.deepest? depth <|> ClassSet.deepestOf? depth rest

end

mutual

/-- The first part of a pattern that is nested too deeply, where `depth` parts enclose it. -/
def Pattern.deepest? (depth : Nat) : Pattern → Option Span
  | bracketed span _ inner =>
    if nestLimit ≤ depth then some span else inner.deepest? (depth + 1)
  | rep span p _ _ => if nestLimit ≤ depth then some span else p.deepest? (depth + 1)
  | group span _ p => if nestLimit ≤ depth then some span else p.deepest? (depth + 1)
  | alternation span branches =>
    if nestLimit ≤ depth then some span else Pattern.deepestOf? (depth + 1) branches
  | concat span parts =>
    if nestLimit ≤ depth then some span else Pattern.deepestOf? (depth + 1) parts
  | empty _ | flags _ _ | literal _ | dot _ | assertion _ _ | named _ _ _ | property _ _ _ => none

/-- The first part of several patterns that is nested too deeply. -/
def Pattern.deepestOf? (depth : Nat) : List Pattern → Option Span
  | [] => none
  | p :: rest => p.deepest? depth <|> Pattern.deepestOf? depth rest

end

end BracketScript.Regex
