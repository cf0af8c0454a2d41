import BracketScript.Regex.Cursor

/-!
# Parsing patterns

A pattern is read from left to right. Open groups and open classes are kept on stacks, so that the
reader of one step needs no recursion, and each step takes at least one character.

## Main definitions

* `Regex.readClass`: a bracketed class
* `Regex.step`: the next part of a pattern
* `Regex.Pattern.parse`: the pattern that a text is
-/

namespace BracketScript.Regex

/-! ### Character classes -/

/-- The characters of a class that is given by an ASCII name. -/
def asciiSet? (name : String) : Option CharSet :=
  let upper := CharSet.range 65 90
  let lower := CharSet.range 97 122
  let digits := CharSet.range 48 57
  match name with
  | "alnum" => some (.unionAll [digits, upper, lower])
  | "alpha" => some (.union upper lower)
  | "ascii" => some (.range 0 127)
  | "blank" => some (.union (.single '\t') (.single ' '))
  | "cntrl" => some (.union (.range 0 31) (.range 127 127))
  | "digit" => some digits
  | "graph" => some (.range 33 126)
  | "lower" => some lower
  | "print" => some (.range 32 126)
  | "punct" => some (.unionAll [.range 33 47, .range 58 64, .range 91 96, .range 123 126])
  | "space" => some (.union (.range 9 13) (.single ' '))
  | "upper" => some upper
  | "word" => some (.unionAll [digits, upper, .single '_', lower])
  | "xdigit" => some (.unionAll [digits, .range 65 70, .range 97 102])
  | _ => none

/-- The entries of a class that have been read. -/
structure Listing where
  /-- Where the first entry can start. -/
  origin : Place
  /-- The entries, the last one first. -/
  entries : List ClassSet

/-- Adds an entry. -/
def Listing.push (l : Listing) (entry : ClassSet) : Listing :=
  { l with entries := entry :: l.entries }

/-- All entries as one set. -/
def Listing.close (l : Listing) : ClassSet :=
  match l.entries with
  | [] => .empty ⟨l.origin, l.origin⟩
  | [entry] => entry
  | last :: others =>
    let first := others.getLast?.getD last
    .union ⟨first.span.start, last.span.stop⟩ l.entries.reverse

/-- A class whose closing bracket has not been read. -/
structure OpenClass where
  /-- Its opening bracket and what is literal right after it. -/
  span : Span
  /-- It denotes the characters that are not listed. -/
  negated : Bool
  /-- What has been read of the enclosing class. -/
  outer : Listing
  /-- The left side of an operation whose right side is being read. -/
  pending : Option (ClassOp × ClassSet)

/-- What has been read of a class, joined to the left side of a pending operation. -/
def OpenClass.settle (top : OpenClass) (listed : Listing) : ClassSet :=
  let right := listed.close
  match top.pending with
  | some (op, left) => .op ⟨left.span.start, right.span.stop⟩ op left right
  | none => right

/-- Reads literal hyphens at the start of a class, at most `count` of them. -/
def leadingHyphens (verbose : Bool) (start : Place) :
    Nat → Listing → Cursor → Except Fault (Listing × Cursor)
  | 0, listed, c => .ok (listed, c)
  | count + 1, listed, c =>
    if c.sees '-' then
      let after := c.bumpSkip verbose
      if after.isEnd then fault .classUnclosed ⟨start, start⟩
      else
        leadingHyphens verbose start count (listed.push (.literal ⟨c.charSpan, '-', false⟩)) after
    else .ok (listed, c)

/-- Reads the opening bracket of a class, the sign of its complement, and the hyphens or the bracket
that are literal right after it. -/
def openClass (verbose : Bool) (outer : Listing) (c : Cursor) :
    Except Fault (OpenClass × Listing × Cursor) := do
  let start := c.place
  let c := c.bumpSkip verbose
  if c.isEnd then fault .classUnclosed (c.since start)
  else
    let negated := c.sees '^'
    let c := if negated then c.bumpSkip verbose else c
    if c.isEnd then fault .classUnclosed (c.since start)
    else
      let (listed, after) ← leadingHyphens verbose start c.rest.length ⟨c.place, []⟩ c
      let bracket := listed.entries.isEmpty && after.sees ']'
      let listed :=
        if bracket then listed.push (.literal ⟨after.charSpan, ']', false⟩) else listed
      let after := if bracket then after.bumpSkip verbose else after
      if after.isEnd then fault .classUnclosed (after.since start)
      else .ok (⟨after.since start, negated, outer, none⟩, listed, after)

/-- A class named like `[:alpha:]`, from its opening bracket, if there is one. -/
def asciiClass? (c : Cursor) : Option (ClassSet × Cursor) := do
  let start := c.place
  let c ← Cursor.eat? ['[', ':'] c
  let negated := c.sees '^'
  let c := if negated then c.bump else c
  let name := c.rest.takeWhile (· != ':')
  let c ← Cursor.eat? (name ++ [':', ']']) c
  let s ← asciiSet? (String.ofList name)
  return (.ascii (c.since start) negated s, c)

/-- Reads one end of a range, or a single entry of a class. -/
def classItem (verbose : Bool) (c : Cursor) : Except Fault (Escape × Cursor) :=
  match c.rest with
  | '\\' :: _ => readEscape verbose c
  | x :: _ => .ok (.literal x false, c.bump)
  | [] => fault .classUnclosed c.here

/-- An entry that is no range. -/
def entryOf (span : Span) : Escape → Except Fault ClassSet
  | .literal x isByte => .ok (.literal ⟨span, x, isByte⟩)
  | .named negated kind => .ok (.named span negated kind)
  | .property negated query => .ok (.property span negated query)
  | .look _ => fault .classEscapeInvalid span

/-- The end of a range. -/
def rangeEnd (span : Span) : Escape → Except Fault Literal
  | .literal x isByte => .ok ⟨span, x, isByte⟩
  | _ => fault .classRangeLiteral span

/-- Reads an entry of a class: a range, a character or an escape class. -/
def classRange (verbose : Bool) (unclosed : Span) (c : Cursor) :
    Except Fault (ClassSet × Cursor) := do
  let start := c.place
  let (first, c) ← classItem verbose c
  let firstSpan := c.since start
  let c := c.skip verbose
  if c.isEnd then fault .classUnclosed unclosed
  else
    let next := c.peek verbose
    if !c.sees '-' || next == some ']' || next == some '-' then
      return (← entryOf firstSpan first, c)
    else
      let beyond := c.bumpSkip verbose
      if beyond.isEnd then fault .classUnclosed unclosed
      else
        let (second, after) ← classItem verbose beyond
        let low ← rangeEnd firstSpan first
        let high ← rangeEnd (after.since beyond.place) second
        if low.char.toNat ≤ high.char.toNat then
          return (.range (after.since start) low high, after)
        else fault .classRangeInvalid (after.since start)

/-- Reads the rest of a class, given the classes that are open, the innermost first, and what has
been read of the innermost. Each round takes a character, and there are at most `count`. -/
def classFrom (verbose : Bool) :
    Nat → List OpenClass → Listing → Cursor → Except Fault (Pattern × Cursor)
  | 0, _, _, c => fault .classUnclosed c.here
  | _ + 1, [], _, c => fault .classUnclosed c.here
  | count + 1, top :: below, listed, c => do
    let c := c.skip verbose
    let divide (op : ClassOp) : Except Fault (Pattern × Cursor) :=
      let after := c.bump.bump
      classFrom verbose count ({ top with pending := some (op, top.settle listed) } :: below)
        ⟨after.place, []⟩ after
    match c.rest with
    | [] => fault .classUnclosed top.span
    | '[' :: _ =>
      match asciiClass? c with
      | some (entry, c) => classFrom verbose count (top :: below) (listed.push entry) c
      | none =>
        let (inner, listed, c) ← openClass verbose listed c
        classFrom verbose count (inner :: top :: below) listed c
    | ']' :: _ =>
      let after := c.bump
      let span := after.since top.span.start
      let inner := top.settle listed
      if below.isEmpty then .ok (.bracketed span top.negated inner, after)
      else classFrom verbose count below (top.outer.push (.bracketed span top.negated inner)) after
    | '&' :: '&' :: _ => divide .inter
    | '-' :: '-' :: _ => divide .diff
    | '~' :: '~' :: _ => divide .symmDiff
    | _ =>
      let (entry, c) ← classRange verbose top.span c
      classFrom verbose count (top :: below) (listed.push entry) c

/-- Reads a class from its opening bracket. -/
def readClass (verbose : Bool) (c : Cursor) : Except Fault (Pattern × Cursor) := do
  let (top, listed, after) ← openClass verbose ⟨c.place, []⟩ c
  classFrom verbose (after.rest.length + 1) [top] listed after

/-! ### Groups and repetitions -/

/-- What has been read of a group, or of the whole pattern. -/
structure Body where
  /-- Where it starts. -/
  start : Place
  /-- Its finished branches, the last one first. -/
  branches : List Pattern := []
  /-- Where its current branch starts. -/
  branchStart : Place := start
  /-- The parts of its current branch, the last one first. -/
  parts : List Pattern := []

namespace Body

/-- Adds a part to the current branch. -/
def push (b : Body) (p : Pattern) : Body := { b with parts := p :: b.parts }

/-- The current branch, which ends at `stop`. -/
def branch (b : Body) (stop : Place) : Pattern :=
  match b.parts with
  | [] => .empty ⟨b.branchStart, stop⟩
  | [p] => p
  | parts => .concat ⟨b.branchStart, stop⟩ parts.reverse

/-- Ends the current branch at `stop` and starts another one at `next`. -/
def divide (b : Body) (stop next : Place) : Body :=
  { b with branches := b.branch stop :: b.branches, branchStart := next, parts := [] }

/-- The pattern that has been read when the last branch ends at `stop`. -/
def close (b : Body) (stop : Place) : Pattern :=
  if b.branches.isEmpty then b.branch stop
  else .alternation ⟨b.start, stop⟩ (b.branch stop :: b.branches).reverse

end Body

/-- A group whose closing parenthesis has not been read. -/
structure OpenGroup where
  /-- The parenthesis that opens it. -/
  span : Span
  /-- What it is for. -/
  kind : GroupKind
  /-- The pattern around it is verbose. -/
  verbose : Bool
  /-- What has been read around it. -/
  around : Body

/-- What has been read of a pattern. -/
structure State where
  /-- The open groups, the innermost first. -/
  groups : List OpenGroup := []
  /-- What has been read of the innermost group. -/
  body : Body
  /-- The pattern is verbose. -/
  verbose : Bool := false
  /-- The names of groups so far. -/
  names : List (String × Span) := []

namespace State

/-- Adds a part to the current branch. -/
def push (s : State) (p : Pattern) : State := { s with body := s.body.push p }

/-- Opens a group whose inside starts at `start`. -/
def openGroup (s : State) (span : Span) (kind : GroupKind) (verbose : Bool) (start : Place) :
    State :=
  { s with
    groups := ⟨span, kind, s.verbose, s.body⟩ :: s.groups
    body := ⟨start, [], start, []⟩
    verbose := verbose }

end State

/-- Whether a list of flags makes a pattern verbose: its entry for that, or else `verbose`. -/
def verboseAfter (verbose : Bool) (items : List FlagItem) : Bool :=
  match items.findIdx? (· = .flag 'x') with
  | some i => !(items.take i).contains .negation
  | none => verbose

/-- A character that the name of a group may have. -/
def isGroupNameChar (first : Bool) (c : Char) : Bool :=
  if first then c == '_' || Text.isAlphabetic c
  else c == '_' || c == '.' || c == '[' || c == ']' || Text.isAlphanumeric c

/-- Reads the name of a group up to the closing angle bracket; `name` holds what has been read, the
last character first. -/
def groupName (name : List Char) (place : Place) :
    List Char → Except Fault (List Char × Cursor)
  | [] => fault .groupNameUnexpectedEnd ⟨place, place⟩
  | x :: xs =>
    if x = '>' then .ok (name.reverse, ⟨x :: xs, place⟩)
    else if isGroupNameChar name.isEmpty x then groupName (x :: name) (place.after x) xs
    else fault .groupNameInvalid ⟨place, place.after x⟩

/-- Reads the name of a group and opens it. -/
def openNamedGroup (s : State) (opening : Span) (c : Cursor) : Except Fault (State × Cursor) := do
  let start := c.place
  let (name, c) ← groupName [] start c.rest
  let span := c.since start
  if name.isEmpty then fault .groupNameEmpty ⟨start, start⟩
  else
    let name := String.ofList name
    let after := c.bump
    match s.names.find? (fun (n, _) => n = name) with
    | some (_, first) => .error ⟨.groupNameDuplicate, span, some first⟩
    | none =>
      let s := { s with names := (name, span) :: s.names }
      .ok (s.openGroup opening .capturing s.verbose after.place, after)

/-- The cursor after the start of a look-around, if there is one. -/
def lookAround? (c : Cursor) : Option Cursor :=
  [['?', '='], ['?', '!'], ['?', '<', '='], ['?', '<', '!']].findSome? fun start =>
    Cursor.eat? start c

/-- Reads an opening parenthesis and what tells the kind of the group, or a change of flags. -/
def readGroup (s : State) (c : Cursor) : Except Fault (State × Cursor) := do
  let opening := c.charSpan
  let c := c.bumpSkip s.verbose
  match lookAround? c with
  | some c => fault .lookAround (c.since opening.start)
  | none =>
    match Cursor.eat? ['?', 'P', '<'] c <|> Cursor.eat? ['?', '<'] c with
    | some c => openNamedGroup s opening c
    | none =>
      if c.sees '?' then
        let inner := c.bump
        if inner.isEnd then fault .groupUnclosed opening
        else
          let (items, stop) ← readFlags inner
          let after := stop.bump
          let verbose := verboseAfter s.verbose items
          if stop.sees ')' then
            if items.isEmpty then fault .repetitionMissing c.here
            else
              let change := Pattern.flags (after.since opening.start) items
              .ok ({ s with verbose := verbose }.push change, after)
          else .ok (s.openGroup opening (.plain items) verbose after.place, after)
      else .ok (s.openGroup opening .capturing s.verbose c.place, c)

/-- Reads a closing parenthesis. -/
def closeGroup (s : State) (c : Cursor) : Except Fault (State × Cursor) :=
  match s.groups with
  | [] => fault .groupUnopened c.charSpan
  | group :: groups =>
    let after := c.bump
    let closed := Pattern.group (after.since group.span.start) group.kind (s.body.close c.place)
    .ok ({ s with
      groups := groups, body := group.around.push closed, verbose := group.verbose }, after)

/-- The last part of the current branch, to be repeated, and the state without it. -/
def popPart (s : State) (c : Cursor) : Except Fault (Pattern × State) :=
  match s.body.parts with
  | [] | .flags _ _ :: _ => fault .repetitionMissing c.here
  | p :: parts => .ok (p, { s with body := { s.body with parts := parts } })

/-- Skips the mark of a repetition that tries few rounds first. -/
def skipLazy (c : Cursor) : Cursor := if c.sees '?' then c.bump else c

/-- Adds the repetition of a part that ends at a cursor. -/
def pushRepetition (s : State) (p : Pattern) (least : Nat) (most : Option Nat) (c : Cursor) :
    State :=
  s.push (.rep (c.since p.span.start) p least most)

/-- Reads a repetition given by one character. -/
def readRepetition (s : State) (least : Nat) (most : Option Nat) (c : Cursor) :
    Except Fault (State × Cursor) := do
  let (p, s) ← popPart s c
  let after := skipLazy c.bump
  return (pushRepetition s p least most after, after)

/-- Reads the bounds of a repetition after the opening brace: the least and, if there is one, the
greatest number of rounds. -/
def readBounds (verbose : Bool) (start : Place) (c : Cursor) :
    Except Fault ((Nat × Option Nat) × Cursor) := do
  let (least, c) := readDecimal verbose c
  if c.isEnd then fault .repetitionCountUnclosed (c.since start)
  else if c.sees ',' then
    let c := c.bumpSkip verbose
    if c.isEnd then fault .repetitionCountUnclosed (c.since start)
    else if c.sees '\x7d' then return ((← least, none), c)
    else
      let least ← least
      let (most, c) := readDecimal verbose c
      return ((least, some (← most)), c)
  else
    let least ← least
    return ((least, some least), c)

/-- Reads a repetition given by bounds, from the opening brace. -/
def readCounted (s : State) (c : Cursor) : Except Fault (State × Cursor) := do
  let start := c.place
  let (p, s) ← popPart s c
  let c := c.bumpSkip s.verbose
  if c.isEnd then fault .repetitionCountUnclosed (c.since start)
  else
    let ((least, most), c) ← readBounds s.verbose start c
    if !c.sees '\x7d' then fault .repetitionCountUnclosed (c.since start)
    else
      let c := skipLazy (c.bumpSkip s.verbose)
      if most.any (· < least) then fault .repetitionCountInvalid (c.since start)
      else return (pushRepetition s p least most c, c)

/-! ### Patterns -/

/-- The part that an escape sequence is. -/
def escapePart (span : Span) : Escape → Pattern
  | .literal x isByte => .literal ⟨span, x, isByte⟩
  | .named negated kind => .named span negated kind
  | .look condition => .assertion span (.look condition)
  | .property negated query => .property span negated query

/-- Reads the next part of a pattern, which starts with the character `x`. -/
def step (s : State) (x : Char) (c : Cursor) : Except Fault (State × Cursor) :=
  if x = '(' then readGroup s c
  else if x = ')' then closeGroup s c
  else if x = '|' then
    let after := c.bump
    .ok ({ s with body := s.body.divide c.place after.place }, after)
  else if x = '[' then
    (readClass s.verbose c).map fun (p, after) => (s.push p, after)
  else if x = '?' then readRepetition s 0 (some 1) c
  else if x = '*' then readRepetition s 0 none c
  else if x = '+' then readRepetition s 1 none c
  else if x = '\x7b' then readCounted s c
  else if x = '\\' then
    (readEscape s.verbose c).map fun (escape, after) =>
      (s.push (escapePart (after.since c.place) escape), after)
  else if x = '.' then .ok (s.push (.dot c.charSpan), c.bump)
  else if x = '^' then .ok (s.push (.assertion c.charSpan .caret), c.bump)
  else if x = '$' then .ok (s.push (.assertion c.charSpan .dollar), c.bump)
  else .ok (s.push (.literal ⟨c.charSpan, x, false⟩), c.bump)

/-- The pattern when all has been read. -/
def finish (s : State) (c : Cursor) : Except Fault Pattern :=
  match s.groups with
  | group :: _ => fault .groupUnclosed group.span
  | [] => .ok (s.body.close c.place)

/-- Reads the rest of a pattern in at most `count` steps, each of which takes a character. -/
def parseFrom : Nat → State → Cursor → Except Fault Pattern
  | 0, s, c => finish s c
  | count + 1, s, c =>
    let c := c.skip s.verbose
    match c.rest with
    | [] => finish s c
    | x :: _ =>
      match step s x c with
      | .ok (s, c) => parseFrom count s c
      | .error fault => .error fault

/-- The pattern that a text is; no part may be nested too deeply. -/
def Pattern.parse (text : String) : Except Fault Pattern :=
  let cs := text.toList
  let start : Place := ⟨1, 1⟩
  match parseFrom (cs.length + 1) { body := ⟨start, [], start, []⟩ } ⟨cs, start⟩ with
  | .error fault => .error fault
  | .ok p =>
    match p.deepest? 0 with
    | some span => fault .nestedTooDeeply span
    | none => .ok p

end BracketScript.Regex
