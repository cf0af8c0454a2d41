import BracketScript.Regex.Parser

/-!
# What written patterns stand for

The flags in force decide what the parts of a pattern stand for. A change of flags holds for all
that follows it in its group, further branches included. Without the flag for characters beyond
ASCII, classes must stay within ASCII, since they would match parts of characters otherwise.

## Main definitions

* `Regex.Flags`: how the parts of a pattern are to be taken
* `Regex.ClassSet.chars`: the characters of the inside of a class
* `Regex.Pattern.meaning`: what a pattern stands for
-/

namespace BracketScript.Regex

/-- How the parts of a pattern are to be taken. -/
structure Flags where
  /-- Letters match regardless of case. -/
  ignoreCase : Bool := false
  /-- Line starts and ends match inside the text too. -/
  multiLine : Bool := false
  /-- A dot matches a line feed too. -/
  dotAll : Bool := false
  /-- A carriage return ends a line too. -/
  crlf : Bool := false
  /-- Classes have characters beyond ASCII. -/
  unicode : Bool := true
  deriving DecidableEq, Repr, Inhabited

/-- Turns one flag on or off; flags that make no difference to what a pattern stands for are
ignored. -/
def Flags.set (flags : Flags) (letter : Char) (on : Bool) : Flags :=
  if letter = 'i' then { flags with ignoreCase := on }
  else if letter = 'm' then { flags with multiLine := on }
  else if letter = 's' then { flags with dotAll := on }
  else if letter = 'R' then { flags with crlf := on }
  else if letter = 'u' then { flags with unicode := on }
  else flags

/-- Turns on the flags before the negation and turns off those after it. -/
def Flags.apply (flags : Flags) (items : List FlagItem) : Flags :=
  let (flags, _) := items.foldl
    (fun (state : Flags × Bool) item =>
      match item with
      | .negation => (state.1, false)
      | .flag letter => (state.1.set letter state.2, state.2))
    (flags, true)
  flags

/-! ### Characters -/

/-- The characters that differ from one of the set at most in case, as the flags take case. -/
def Flags.anyCase (flags : Flags) (s : CharSet) : CharSet :=
  if !flags.ignoreCase then s
  else s.anyCase (if flags.unicode then CaseFolding.all else CaseFolding.ascii)

/-- The set that a class at `span` denotes: closed under case if the flags say so, then
complemented. -/
def Flags.classSet (flags : Flags) (span : Span) (negated : Bool) (s : CharSet) :
    Except Fault CharSet :=
  let s := flags.anyCase s
  let s := if negated then s.complement else s
  if flags.unicode || s.isAscii then .ok s else fault .invalidUtf8 span

/-- The characters of a class with an escape sequence of its own, which is closed under case. -/
def Flags.namedSet (flags : Flags) (span : Span) (negated : Bool) (kind : NamedClass) :
    Except Fault CharSet :=
  let s := match kind, flags.unicode with
    | .digit, true => Property.digitChars
    | .space, true => Property.whiteSpace
    | .word, true => Property.wordChars
    | .digit, false => .range 48 57
    | .space, false => .ofRanges [(9, 13), (32, 32)]
    | .word, false => .ofRanges [(48, 57), (65, 90), (95, 95), (97, 122)]
  let s := if negated then s.complement else s
  if flags.unicode || s.isAscii then .ok s else fault .invalidUtf8 span

/-- The characters of a class that is given by a character property. -/
def Flags.propertySet (flags : Flags) (span : Span) (negated : Bool) (query : Property.Query) :
    Except Fault CharSet :=
  if !flags.unicode then fault .unicodeNotAllowed span
  else match query.resolve with
    | .ok s => flags.classSet span negated s
    | .error kind => fault kind span

/-- A literal, unless it means a byte that is no character. -/
def Flags.literalChar (flags : Flags) (l : Literal) : Except Fault Char :=
  if !flags.unicode && l.isByte && 127 < l.char.toNat then fault .invalidUtf8 l.span
  else .ok l.char

/-- A literal inside a class, which must be ASCII if classes stay within ASCII. -/
def Flags.classChar (flags : Flags) (l : Literal) : Except Fault Char := do
  let c ← flags.literalChar l
  if !flags.unicode && 127 < c.toNat then fault .unicodeNotAllowed l.span else return c

/-- The result of an operation between the parts of a class. -/
def ClassOp.apply : ClassOp → CharSet → CharSet → CharSet
  | inter => .inter
  | diff => .diff
  | symmDiff => .symmDiff

mutual

/-- The characters of the inside of a class. -/
def ClassSet.chars (flags : Flags) : ClassSet → Except Fault CharSet
  | empty _ => .ok .empty
  | literal l => return .single (← flags.classChar l)
  | range _ first last => do
    let low ← flags.classChar first
    let high ← flags.classChar last
    return .range low.toNat high.toNat
  | ascii span negated set => flags.classSet span negated set
  | named span negated kind => flags.namedSet span negated kind
  | property span negated query => flags.propertySet span negated query
  | bracketed span negated inner => do flags.classSet span negated (← inner.chars flags)
  | union _ entries => ClassSet.charsOf flags entries
  | op _ kind left right => do
    let s ← left.chars flags
    let t ← right.chars flags
    return kind.apply (flags.anyCase s) (flags.anyCase t)

/-- The characters of any of the entries of a class. -/
def ClassSet.charsOf (flags : Flags) : List ClassSet → Except Fault CharSet
  | [] => .ok .empty
  | s :: rest => do
    let chars ← s.chars flags
    return chars.union (← ClassSet.charsOf flags rest)

end

/-! ### Patterns -/

/-- What a literal stands for. -/
def Flags.literal (flags : Flags) (l : Literal) : Except Fault Regex := do
  let c ← flags.literalChar l
  if flags.unicode || c.toNat < 128 then return .ofSet (flags.anyCase (.single c))
  else return .literal [c]

/-- The characters that a dot stands for. -/
def Flags.dotSet (flags : Flags) : CharSet :=
  if flags.dotAll then .all
  else if flags.crlf then (CharSet.ofRanges [(10, 10), (13, 13)]).complement
  else (CharSet.single '\n').complement

/-- The condition that an assertion stands for. -/
def Flags.condition (flags : Flags) : Assertion → Look
  | .caret =>
    if flags.multiLine then if flags.crlf then .startLineCrlf else .startLine else .startText
  | .dollar =>
    if flags.multiLine then if flags.crlf then .endLineCrlf else .endLine else .endText
  | .look condition => condition

mutual

/-- What a pattern stands for, and the flags in force after it. -/
def Pattern.denote (flags : Flags) : Pattern → Except Fault (Regex × Flags)
  | empty _ => .ok (.empty, flags)
  | .flags _ items => .ok (.empty, flags.apply items)
  | literal l => return (← flags.literal l, flags)
  | dot span =>
    if flags.unicode then .ok (.ofSet flags.dotSet, flags) else fault .invalidUtf8 span
  | assertion _ kind => .ok (.look (flags.condition kind) (!flags.unicode), flags)
  | named span negated kind => return (.ofSet (← flags.namedSet span negated kind), flags)
  | property span negated query => return (.ofSet (← flags.propertySet span negated query), flags)
  | bracketed span negated inner => do
    return (.ofSet (← flags.classSet span negated (← inner.chars flags)), flags)
  | rep _ p least most => do
    let (r, flags) ← p.denote flags
    return (.repetition r least most, flags)
  | group _ .capturing p => do
    let (r, _) ← p.denote flags
    return (.capture r, flags)
  | group _ (.plain items) p => do
    let (r, _) ← p.denote (flags.apply items)
    return (r, flags)
  | alternation _ branches => do
    let (rs, flags) ← Pattern.denoteAll flags branches
    return (.alternation rs, flags)
  | concat _ parts => do
    let (rs, flags) ← Pattern.denoteAll flags parts
    return (.concat rs, flags)

/-- What several patterns stand for, each read with the flags in force after the one before. -/
def Pattern.denoteAll (flags : Flags) : List Pattern → Except Fault (List Regex × Flags)
  | [] => .ok ([], flags)
  | p :: rest => do
    let (r, flags) ← p.denote flags
    let (rs, flags) ← Pattern.denoteAll flags rest
    return (r :: rs, flags)

end

/-- What a pattern stands for. -/
def Pattern.meaning (p : Pattern) : Except Fault Regex :=
  (p.denote {}).map Prod.fst

end BracketScript.Regex
