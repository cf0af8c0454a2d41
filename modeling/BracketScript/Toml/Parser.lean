import BracketScript.Toml.Quoted

/-!
# Reading TOML documents

A document is read statement by statement, each on a line of its own unless a value goes on over
several lines. Arrays and tables in braces may be nested 79 deep, and a key may have 79 parts.

## Main definitions

* `Toml.readPath?`: a key with its dots
* `Toml.readValue?`: a value
* `Toml.readStatements?`: the statements of a document
* `Toml.parse?`: the entries of a document
-/

namespace BracketScript.Toml

/-- Reads something off the front of a text and gives what follows it. -/
abbrev Reader (α : Type) := List Char → Option (α × List Char)

/-- The text without the blanks at its front. -/
def skipGap (cs : List Char) : List Char := cs.dropWhile isGap

/-- The text after the given character. -/
def after? (c : Char) : List Char → Option (List Char)
  | [] => none
  | d :: cs => if d = c then some cs else none

/-- What follows the end of a line, with or without a comment. -/
def afterLine? (cs : List Char) : Option (List Char) :=
  let rest := match skipGap cs with
    | '#' :: comment => comment.dropWhile isPlain
    | rest => rest
  if rest.isEmpty then some [] else afterBreak? rest

/-- The text without blanks, line breaks and comments at its front; `inComment` tells whether it
starts inside a comment. -/
def skipLines : Bool → List Char → List Char
  | _, [] => []
  | _, '\n' :: cs => skipLines false cs
  | _, '\r' :: '\n' :: cs => skipLines false cs
  | true, c :: cs => if isPlain c then skipLines true cs else c :: cs
  | false, c :: cs =>
    if c = '#' then skipLines true cs
    else if isGap c then skipLines false cs
    else c :: cs

/-! ### Keys -/

/-- How deep values may be nested, and how many parts a key may have. -/
def maxDepth : Nat := 79

/-- A character of a key without quotes. -/
def isKeyChar (c : Char) : Bool :=
  Text.isAsciiLetter c || Text.isAsciiDigit c || c == '_' || c == '-'

/-- Reads one part of a key: a string of one line, or a word. -/
def readKey? : Reader String := fun cs =>
  let word := cs.takeWhile isKeyChar
  if word.isEmpty then readLine? cs else some (String.ofList word, cs.dropWhile isKeyChar)

/-- Reads a key of at most the given number of parts: the parts before the last one, and the last
one. -/
def readPath? : Nat → Reader (List String × String)
  | 0, _ => none
  | count + 1, cs =>
    match readKey? (skipGap cs) with
    | none => none
    | some (key, rest) =>
      match skipGap rest with
      | '.' :: rest =>
        (readPath? count rest).map fun ((path, last), rest) => ((key :: path, last), rest)
      | rest => some (([], key), rest)

/-! ### Values -/

/-- A character of a number, a date or a truth value. -/
def isAtomChar (c : Char) : Bool :=
  isKeyChar c || c == '+' || c == '.' || c == ':'

/-- Reads a number, a date or a truth value. A date and a time may be parted by one space. -/
def readAtom? : Reader Toml := fun cs =>
  let word := cs.takeWhile isAtomChar
  let rest := cs.dropWhile isAtomChar
  let time := (rest.drop 1).takeWhile isAtomChar
  if isDate word && rest.head? == some ' ' && isZonedTime time then
    some (.moment (String.ofList (word ++ ' ' :: time)), (rest.drop 1).dropWhile isAtomChar)
  else (atom? word).map fun value => (value, rest)

/-- Reads the items of an array, at most `count` of them, after its opening bracket. -/
def readItems? (value : Reader Toml) : Nat → Reader (List Toml)
  | 0, _ => none
  | count + 1, cs =>
    match skipLines false cs with
    | ']' :: rest => some ([], rest)
    | cs =>
      match value cs with
      | none => none
      | some (item, rest) =>
        match skipLines false rest with
        | ']' :: rest => some ([item], rest)
        | ',' :: rest =>
          (readItems? value count rest).map fun (items, rest) => (item :: items, rest)
        | _ => none

/-- Reads a key, the equals sign and a value. -/
def readAssignment? (value : Reader Toml) : Reader (List String × String × Toml) := fun cs => do
  let ((path, key), rest) ← readPath? maxDepth cs
  let rest ← after? '=' rest
  let (item, rest) ← value (skipGap rest)
  return ((path, key, item), rest)

/-- Reads the assignments of a table in braces, at most `count` of them, after the opening brace if
`first` is set and after a comma otherwise. No comma may come last. -/
def readMembers? (value : Reader Toml) :
    Bool → Nat → Reader (List (List String × String × Toml))
  | _, 0, _ => none
  | first, count + 1, cs =>
    match first, skipGap cs with
    | true, '\x7d' :: rest => some ([], rest)
    | _, cs =>
      match readAssignment? value cs with
      | none => none
      | some (member, rest) =>
        match skipGap rest with
        | '\x7d' :: rest => some ([member], rest)
        | ',' :: rest =>
          (readMembers? value false count rest).map fun (members, rest) =>
            (member :: members, rest)
        | _ => none

/-- Reads a value in which arrays and tables are nested at most as deep as given. -/
def readValue? : Nat → Reader Toml
  | 0 => fun cs =>
    match cs with
    | '[' :: _ | '\x7b' :: _ => none
    | '"' :: _ | '\x27' :: _ => (readString? cs).map fun (text, rest) => (.string text, rest)
    | cs => readAtom? cs
  | depth + 1 => fun cs =>
    match cs with
    | '[' :: rest =>
      (readItems? (readValue? depth) cs.length rest).map fun (items, rest) => (.array items, rest)
    | '\x7b' :: rest =>
      match readMembers? (readValue? depth) true cs.length rest with
      | none => none
      | some (members, rest) => (ofAssignments? members).map fun value => (value, rest)
    | '"' :: _ | '\x27' :: _ => (readString? cs).map fun (text, rest) => (.string text, rest)
    | cs => readAtom? cs

/-! ### Statements -/

/-- Reads a statement up to the end of its line. -/
def readStatement? : Reader Statement
  | '[' :: '[' :: cs => do
    let ((path, key), rest) ← readPath? maxDepth cs
    let rest ← after? ']' rest
    let rest ← after? ']' rest
    let rest ← afterLine? rest
    return (.row path key, rest)
  | '[' :: cs => do
    let ((path, key), rest) ← readPath? maxDepth cs
    let rest ← after? ']' rest
    let rest ← afterLine? rest
    return (.header path key, rest)
  | cs => do
    let ((path, key, value), rest) ← readAssignment? (readValue? maxDepth) cs
    let rest ← afterLine? rest
    return (.assign path key value, rest)

/-- Reads the statements of a document of at most `count` lines. -/
def readStatements? : Nat → List Char → Option (List Statement)
  | 0, _ => none
  | count + 1, cs =>
    let cs := skipGap cs
    if cs.isEmpty then some []
    else match cs, afterLine? cs with
      | '#' :: _, some rest | '\n' :: _, some rest | '\r' :: _, some rest =>
        readStatements? count rest
      | cs, _ =>
        match readStatement? cs with
        | none => none
        | some (statement, rest) => (readStatements? count rest).map (statement :: ·)

/-- A text without the mark of its byte order at its front. -/
def skipMark : List Char → List Char
  | '\ufeff' :: cs => cs
  | cs => cs

/-- The entries of the document that a text is. -/
def parse? (text : String) : Option Entries :=
  let cs := skipMark text.toList
  (readStatements? (cs.length + 1) cs).bind ofStatements?

end BracketScript.Toml
