import BracketScript.Toml.Atom

/-!
# Strings of TOML documents

A string stands in double quotes, with escapes, or in single quotes, as it is. Three quotes of
either kind enclose a string of several lines, whose first line break does not count if nothing is
in front of it. Line breaks are read as line feeds.

## Main definitions

* `Toml.escaped?`: the character of an escape
* `Toml.readBasic?`, `Toml.readLiteral?`: the rest of a string of one line
* `Toml.readBasicLines?`, `Toml.readLiteralLines?`: the rest of a string of several lines
* `Toml.readString?`: a string of either kind
-/

namespace BracketScript.Toml

/-- A tab, or any character that is not a control character of ASCII. -/
def isPlain (c : Char) : Bool := c == '\t' || (0x20 ≤ c.toNat && c.toNat ≠ 0x7f)

/-- A space or a tab. -/
def isGap (c : Char) : Bool := c == ' ' || c == '\t'

/-- What follows a line break. -/
def afterBreak? : List Char → Option (List Char)
  | '\n' :: cs => some cs
  | '\r' :: '\n' :: cs => some cs
  | _ => none

/-- The character whose code point the given digits denote in base sixteen. -/
def codePoint? (digits : List Char) : Option Char :=
  let n := ofDigits 16 digits
  if digits.all (isDigitOf 16) && (n < 0xd800 || (0xdfff < n && n < 0x110000)) then
    some (Char.ofNat n)
  else none

/-- The character that a letter stands for after a backslash. -/
def escaped? : Char → Option Char
  | 'b' => some '\x08'
  | 't' => some '\t'
  | 'n' => some '\n'
  | 'f' => some '\x0c'
  | 'r' => some '\r'
  | '"' => some '"'
  | '\\' => some '\\'
  | _ => none

/-- The rest of a string in double quotes and what follows it. -/
def readBasic? : List Char → Option (List Char × List Char)
  | [] => none
  | '"' :: cs => some ([], cs)
  | '\\' :: 'u' :: a :: b :: c :: d :: cs => do
    let char ← codePoint? [a, b, c, d]
    (readBasic? cs).map fun (text, rest) => (char :: text, rest)
  | '\\' :: 'U' :: a :: b :: c :: d :: e :: f :: g :: h :: cs => do
    let char ← codePoint? [a, b, c, d, e, f, g, h]
    (readBasic? cs).map fun (text, rest) => (char :: text, rest)
  | '\\' :: c :: cs => do
    let char ← escaped? c
    (readBasic? cs).map fun (text, rest) => (char :: text, rest)
  | c :: cs =>
    if c ≠ '\\' ∧ isPlain c then (readBasic? cs).map fun (text, rest) => (c :: text, rest) else none

/-- The rest of a string of several lines in double quotes and what follows it. After a backslash at
the end of a line, `skipping` is set and all blanks and line breaks are left out. -/
def readBasicLines? : Bool → List Char → Option (List Char × List Char)
  | _, [] => none
  | _, '"' :: '"' :: '"' :: '"' :: '"' :: cs => some (['"', '"'], cs)
  | _, '"' :: '"' :: '"' :: '"' :: cs => some (['"'], cs)
  | _, '"' :: '"' :: '"' :: cs => some ([], cs)
  | skipping, '\r' :: '\n' :: cs =>
    (readBasicLines? skipping cs).map fun (text, rest) =>
      (if skipping then text else '\n' :: text, rest)
  | _, '\\' :: 'u' :: a :: b :: c :: d :: cs => do
    let char ← codePoint? [a, b, c, d]
    (readBasicLines? false cs).map fun (text, rest) => (char :: text, rest)
  | _, '\\' :: 'U' :: a :: b :: c :: d :: e :: f :: g :: h :: cs => do
    let char ← codePoint? [a, b, c, d, e, f, g, h]
    (readBasicLines? false cs).map fun (text, rest) => (char :: text, rest)
  | _, '\\' :: c :: cs =>
    match escaped? c with
    | some char => (readBasicLines? false cs).map fun (text, rest) => (char :: text, rest)
    | none =>
      if (afterBreak? ((c :: cs).dropWhile isGap)).isSome then readBasicLines? true (c :: cs)
      else none
  | skipping, c :: cs =>
    if skipping && (isGap c || c == '\n') then readBasicLines? true cs
    else if c ≠ '\\' ∧ (isPlain c ∨ c = '\n') then
      (readBasicLines? false cs).map fun (text, rest) => (c :: text, rest)
    else none

/-- The rest of a string in single quotes and what follows it. -/
def readLiteral? : List Char → Option (List Char × List Char)
  | [] => none
  | c :: cs =>
    if c = '\x27' then some ([], cs)
    else if isPlain c then (readLiteral? cs).map fun (text, rest) => (c :: text, rest)
    else none

/-- The rest of a string of several lines in single quotes and what follows it. -/
def readLiteralLines? : List Char → Option (List Char × List Char)
  | [] => none
  | '\x27' :: '\x27' :: '\x27' :: '\x27' :: '\x27' :: cs => some (['\x27', '\x27'], cs)
  | '\x27' :: '\x27' :: '\x27' :: '\x27' :: cs => some (['\x27'], cs)
  | '\x27' :: '\x27' :: '\x27' :: cs => some ([], cs)
  | '\r' :: '\n' :: cs => (readLiteralLines? cs).map fun (text, rest) => ('\n' :: text, rest)
  | c :: cs =>
    if isPlain c ∨ c = '\n' then
      (readLiteralLines? cs).map fun (text, rest) => (c :: text, rest)
    else none

/-- A text without the line break at its front. -/
def skipBreak (cs : List Char) : List Char := (afterBreak? cs).getD cs

/-- A string of one line in either kind of quotes, and what follows it. -/
def readLine? : List Char → Option (String × List Char)
  | '"' :: cs => (readBasic? cs).map fun (text, rest) => (String.ofList text, rest)
  | '\x27' :: cs => (readLiteral? cs).map fun (text, rest) => (String.ofList text, rest)
  | _ => none

/-- A string in any kind of quotes, and what follows it. -/
def readString? : List Char → Option (String × List Char)
  | '"' :: '"' :: '"' :: cs =>
    (readBasicLines? false (skipBreak cs)).map fun (text, rest) => (String.ofList text, rest)
  | '\x27' :: '\x27' :: '\x27' :: cs =>
    (readLiteralLines? (skipBreak cs)).map fun (text, rest) => (String.ofList text, rest)
  | cs => readLine? cs

end BracketScript.Toml
