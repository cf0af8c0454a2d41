import BracketScript.Regex.Pattern
import BracketScript.Text.Blank
import BracketScript.Text.Letter

/-!
# Reading patterns: the cursor, flags and escapes

The parts of a pattern that are read without nesting: numbers, escape sequences and flags. In a
verbose pattern, white space and comments are skipped.

## Main definitions

* `Regex.Cursor`: the rest of a pattern and its place
* `Regex.Escape`: what an escape sequence stands for
* `Regex.readEscape`, `Regex.readFlags`, `Regex.readDecimal`: readers
-/

namespace BracketScript.Regex

/-- The rest of a pattern and its place. -/
structure Cursor where
  /-- The characters still to be read. -/
  rest : List Char
  /-- The place of the first of them. -/
  place : Place
  deriving Repr, Inhabited

namespace Cursor

/-- The cursor after the first character. -/
def bump (c : Cursor) : Cursor :=
  match c.rest with
  | [] => c
  | x :: xs => ⟨xs, c.place.after x⟩

/-- Nothing is left to be read. -/
def isEnd (c : Cursor) : Bool := c.rest.isEmpty

/-- The character `x` comes next. -/
def sees (c : Cursor) (x : Char) : Bool := c.rest.head? == some x

/-- The empty span here. -/
def here (c : Cursor) : Span := ⟨c.place, c.place⟩

/-- The span of the next character. -/
def charSpan (c : Cursor) : Span := ⟨c.place, c.bump.place⟩

/-- The span from an earlier place to here. -/
def since (c : Cursor) (start : Place) : Span := ⟨start, c.place⟩

/-- The cursor after the given text, if that comes next. -/
def eat? : List Char → Cursor → Option Cursor
  | [], c => some c
  | x :: xs, c => if c.sees x then eat? xs c.bump else none

/-- Skips white space and comments; `comment` tells whether a comment has begun. -/
def skipFrom (comment : Bool) (place : Place) : List Char → Cursor
  | [] => ⟨[], place⟩
  | x :: xs =>
    if comment then skipFrom (x != '\n') (place.after x) xs
    else if Text.isBlank x then skipFrom false (place.after x) xs
    else if x = '#' then skipFrom true (place.after x) xs
    else ⟨x :: xs, place⟩

/-- Skips white space and comments in a verbose pattern. -/
def skip (verbose : Bool) (c : Cursor) : Cursor :=
  if verbose then skipFrom false c.place c.rest else c

/-- The cursor after the first character and what may be skipped then. -/
def bumpSkip (verbose : Bool) (c : Cursor) : Cursor := c.bump.skip verbose

/-- The first of some characters that is neither white space nor the mark of a comment; the mark
counts if there was one before. -/
def visible? (commented : Bool) : List Char → Option Char
  | [] => none
  | x :: xs =>
    if Text.isBlank x then visible? commented xs
    else if x = '#' && !commented then visible? true xs
    else some x

/-- The character that comes after the next one. In a verbose pattern it is looked for beyond white
space and the mark of a comment, unless there is nothing else. -/
def peek (verbose : Bool) (c : Cursor) : Option Char :=
  if verbose then visible? false c.bump.rest <|> c.bump.rest.head? else c.bump.rest.head?

/-- Skips white space. -/
def skipBlanks (place : Place) : List Char → Cursor
  | [] => ⟨[], place⟩
  | x :: xs => if Text.isBlank x then skipBlanks (place.after x) xs else ⟨x :: xs, place⟩

end Cursor

/-- A fault at a span. -/
def fault {α : Type} (kind : FaultKind) (span : Span) : Except Fault α := .error ⟨kind, span, none⟩

/-! ### Numbers -/

/-- Reads at most `count` digits; `digits` holds those read, the last one first. -/
def digitsFrom (verbose : Bool) : Nat → List Char → Cursor → List Char × Cursor
  | 0, digits, c => (digits.reverse, c)
  | count + 1, digits, c =>
    match c.rest with
    | x :: _ =>
      if Text.isAsciiDigit x then digitsFrom verbose count (x :: digits) (c.bumpSkip verbose)
      else (digits.reverse, c)
    | [] => (digits.reverse, c)

/-- Reads a number below 2^32 with white space around it. The cursor after it is given whether or
not there is a number. -/
def readDecimal (verbose : Bool) (c : Cursor) : Except Fault Nat × Cursor :=
  let c := Cursor.skipBlanks c.place c.rest
  let start := c.place
  let (digits, c) := digitsFrom verbose c.rest.length [] c
  let span := c.since start
  let after := Cursor.skipBlanks c.place c.rest
  if digits.isEmpty then (fault .repetitionCountEmpty span, after)
  else match Text.Chars.readNat 0xffffffff digits with
    | .ok n => (.ok n, after)
    | .error _ => (fault .decimalInvalid span, after)

/-! ### Escape sequences -/

/-- What an escape sequence stands for. -/
inductive Escape where
  /-- A character; `isByte` tells whether it is given by two hexadecimal digits. -/
  | literal (c : Char) (isByte : Bool)
  /-- A class with an escape sequence of its own. -/
  | named (negated : Bool) (kind : NamedClass)
  /-- A condition on a position. -/
  | look (condition : Look)
  /-- A class given by a character property. -/
  | property (negated : Bool) (query : Property.Query)
  deriving Repr, Inhabited

/-- The value of a hexadecimal digit. -/
def hexValue? (c : Char) : Option Nat :=
  let n := c.toNat
  if 48 ≤ n && n ≤ 57 then some (n - 48)
  else if 97 ≤ n && n ≤ 102 then some (n - 87)
  else if 65 ≤ n && n ≤ 70 then some (n - 55)
  else none

/-- The character of a code point, if there is one. -/
def charOf? (n : Nat) : Option Char := if n.isValidChar then some (Char.ofNat n) else none

/-- Reads `count` further hexadecimal digits after the number `n`; `first` tells whether the cursor
stands on the first one already. -/
def hexDigits (verbose : Bool) : Nat → Nat → Cursor → Except Fault (Nat × Cursor)
  | 0, n, c => .ok (n, c)
  | count + 1, n, c =>
    match c.rest with
    | [] => fault .escapeUnexpectedEnd c.here
    | x :: _ =>
      match hexValue? x with
      | none => fault .escapeHexInvalidDigit c.charSpan
      | some d => hexDigits verbose count (n * 16 + d) (c.bumpSkip verbose)

/-- Reads hexadecimal digits up to a closing brace, at most `count` of them. -/
def hexBraced (verbose : Bool) (brace : Place) :
    Nat → List Nat → Cursor → Except Fault (List Nat × Cursor)
  | 0, _, c => fault .escapeUnexpectedEnd (c.since brace)
  | count + 1, digits, c =>
    match c.rest with
    | [] => fault .escapeUnexpectedEnd (c.since brace)
    | x :: _ =>
      if x = '\x7d' then .ok (digits.reverse, c)
      else match hexValue? x with
        | none => fault .escapeHexInvalidDigit c.charSpan
        | some d => hexBraced verbose brace count (d :: digits) (c.bumpSkip verbose)

/-- Reads a character given by its code point, from the letter that says how many digits it has. -/
def readHex (verbose : Bool) (letter : Char) (c : Cursor) : Except Fault (Escape × Cursor) := do
  let c := c.bumpSkip verbose
  if c.isEnd then fault .escapeUnexpectedEnd c.here
  else if c.sees '\x7b' then
    let brace := c.place
    let start := c.bump.place
    let inner := c.bumpSkip verbose
    let (digits, c) ← hexBraced verbose brace (inner.rest.length + 1) [] inner
    let stop := c.place
    let c := c.bumpSkip verbose
    if digits.isEmpty then fault .escapeHexEmpty (c.since brace)
    else match charOf? (digits.foldl (fun n d => n * 16 + d) 0) with
      | some x => .ok (.literal x false, c)
      | none => fault .escapeHexInvalid ⟨start, stop⟩
  else
    let start := c.place
    let count := if letter = 'x' then 2 else if letter = 'u' then 4 else 8
    let (n, c) ← hexDigits verbose count 0 c
    match charOf? n with
    | some x => .ok (.literal x (letter = 'x'), c)
    | none => fault .escapeHexInvalid (c.since start)

/-- Reads up to a closing brace, at most `count` characters; `text` holds what has been read, the
last character first. -/
def bracedText (verbose : Bool) : Nat → List Char → Cursor → Except Fault (List Char × Cursor)
  | 0, _, c => fault .escapeUnexpectedEnd c.here
  | count + 1, text, c =>
    match c.rest with
    | [] => fault .escapeUnexpectedEnd c.here
    | x :: _ =>
      if x = '\x7d' then .ok (text.reverse, c.bump)
      else bracedText verbose count (x :: text) (c.bumpSkip verbose)

/-- Reads a class given by a character property, from its letter. -/
def readProperty (verbose : Bool) (negated : Bool) (c : Cursor) :
    Except Fault (Escape × Cursor) := do
  let c := c.bumpSkip verbose
  match c.rest with
  | [] => fault .escapeUnexpectedEnd c.here
  | x :: _ =>
    if x = '\x7b' then
      let inner := c.bumpSkip verbose
      let (text, c) ← bracedText verbose (inner.rest.length + 1) [] inner
      return (.property negated (.ofText text), c)
    else if x = '\\' then fault .propertyInvalid c.charSpan
    else return (.property negated (.named [x]), c.bumpSkip verbose)

/-- A letter or hyphen, as in the names of word boundaries. -/
def isBoundaryNameChar (c : Char) : Bool := Text.isAsciiLetter c || c == '-'

/-- Reads at most `count` characters of the name of a word boundary. -/
def boundaryName (verbose : Bool) : Nat → List Char → Cursor → List Char × Cursor
  | 0, name, c => (name.reverse, c)
  | count + 1, name, c =>
    match c.rest with
    | x :: _ =>
      if isBoundaryNameChar x then boundaryName verbose count (x :: name) (c.bumpSkip verbose)
      else (name.reverse, c)
    | [] => (name.reverse, c)

/-- Reads the name in braces after a word boundary, from the opening brace. What starts like a
repetition is left alone. -/
def readBoundary (verbose : Bool) (start : Place) (c : Cursor) : Except Fault (Look × Cursor) :=
  let brace := c.place
  let inner := c.bumpSkip verbose
  match inner.rest with
  | [] => fault .wordBoundaryUnexpectedEnd (inner.since start)
  | x :: _ =>
    if !isBoundaryNameChar x then .ok (.wordBoundary, c)
    else
      let (name, after) := boundaryName verbose inner.rest.length [] inner
      if !after.sees '\x7d' then fault .wordBoundaryUnclosed (after.since brace)
      else
        let found := after.bump
        if name = "start".toList then .ok (.wordStart, found)
        else if name = "end".toList then .ok (.wordEnd, found)
        else if name = "start-half".toList then .ok (.wordStartHalf, found)
        else if name = "end-half".toList then .ok (.wordEndHalf, found)
        else fault .wordBoundaryUnrecognized (after.since inner.place)

/-- A character that may be escaped to stand for itself: any ASCII character but letters, digits and
the angle brackets. -/
def isEscapable (c : Char) : Bool :=
  c.toNat < 128 && !Text.isAsciiLetter c && !Text.isAsciiDigit c && c != '<' && c != '>'

/-- Reads an escape sequence from its backslash. -/
def readEscape (verbose : Bool) (c : Cursor) : Except Fault (Escape × Cursor) :=
  let start := c.place
  let c := c.bump
  match c.rest with
  | [] => fault .escapeUnexpectedEnd (c.since start)
  | x :: _ =>
    let after := c.bump
    if Text.isAsciiDigit x then fault .backreference (after.since start)
    else if x = 'x' ∨ x = 'u' ∨ x = 'U' then readHex verbose x c
    else if x = 'p' ∨ x = 'P' then readProperty verbose (x = 'P') c
    else if x = 'd' ∨ x = 'D' then .ok (.named (x = 'D') .digit, after)
    else if x = 's' ∨ x = 'S' then .ok (.named (x = 'S') .space, after)
    else if x = 'w' ∨ x = 'W' then .ok (.named (x = 'W') .word, after)
    else if isEscapable x then .ok (.literal x false, after)
    else if x = 'a' then .ok (.literal (Char.ofNat 7) false, after)
    else if x = 'f' then .ok (.literal (Char.ofNat 12) false, after)
    else if x = 't' then .ok (.literal '\t' false, after)
    else if x = 'n' then .ok (.literal '\n' false, after)
    else if x = 'r' then .ok (.literal '\r' false, after)
    else if x = 'v' then .ok (.literal (Char.ofNat 11) false, after)
    else if x = 'A' then .ok (.look .startText, after)
    else if x = 'z' then .ok (.look .endText, after)
    else if x = 'B' then .ok (.look .notWordBoundary, after)
    else if x = '<' then .ok (.look .wordStart, after)
    else if x = '>' then .ok (.look .wordEnd, after)
    else if x = 'b' then
      if after.sees '\x7b' then
        (readBoundary verbose start after).map fun (condition, c) => (.look condition, c)
      else .ok (.look .wordBoundary, after)
    else fault .escapeUnrecognized (after.since start)

/-! ### Flags -/

/-- A letter that is a flag. -/
def isFlag (c : Char) : Bool :=
  c == 'i' || c == 'm' || c == 's' || c == 'U' || c == 'u' || c == 'R' || c == 'x'

/-- Reads flags up to the colon or parenthesis that ends them; `items` holds those read. -/
def flagsFrom (items : List (FlagItem × Span)) (place : Place) :
    List Char → Except Fault (List FlagItem × Cursor)
  | [] => fault .flagUnexpectedEnd ⟨place, place⟩
  | x :: xs =>
    let span : Span := ⟨place, place.after x⟩
    if x = ':' ∨ x = ')' then
      match items.getLast? with
      | some (.negation, span) => fault .flagDanglingNegation span
      | _ => .ok (items.map Prod.fst, ⟨x :: xs, place⟩)
    else
      let item := if x = '-' then FlagItem.negation else .flag x
      if x ≠ '-' && !isFlag x then fault .flagUnrecognized span
      else match items.find? (fun (i, _) => i = item) with
        | some (.negation, first) => .error ⟨.flagRepeatedNegation, span, some first⟩
        | some (.flag _, first) => .error ⟨.flagDuplicate, span, some first⟩
        | none => flagsFrom (items ++ [(item, span)]) (place.after x) xs

/-- Reads flags up to the colon or parenthesis that ends them. -/
def readFlags (c : Cursor) : Except Fault (List FlagItem × Cursor) :=
  flagsFrom [] c.place c.rest

end BracketScript.Regex
