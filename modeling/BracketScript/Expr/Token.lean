import BracketScript.Text.Blank
import BracketScript.Text.Decimal
import BracketScript.Text.Quoted

/-!
# Tokens of expressions

An inline expression is read as a list of tokens: numbers, texts in double quotes, identifiers and
operators, with any white space between them.

## Main definitions

* `Token`: a token
* `Token.shown`: how a token appears in messages
* `Token.next`: the token that starts with a given character, and the text after it
* `Token.scan`: the tokens of a text
* `Token.quote`: a text as a literal
-/

namespace BracketScript

/-- A token of an expression. -/
inductive Token where
  | int (n : Int64)
  | str (s : String)
  | ident (name : String)
  | plus
  | minus
  | star
  | slash
  | percent
  | bang
  | equal
  | notEqual
  | less
  | lessEqual
  | greater
  | greaterEqual
  | matching
  | notMatching
  | and
  | or
  | comma
  | leftParen
  | rightParen
  /-- A character that starts no token. -/
  | unknown (c : Char)
  deriving DecidableEq, Repr, Inhabited

namespace Token

/-- How a token appears in messages. -/
def shown : Token → String
  | int n => "Int(" ++ Text.intText n.toInt ++ ")"
  | str s => "Str(" ++ Text.quoted s ++ ")"
  | ident name => "Ident(" ++ Text.quoted name ++ ")"
  | plus => "Plus"
  | minus => "Minus"
  | star => "Star"
  | slash => "Slash"
  | percent => "Percent"
  | bang => "Bang"
  | equal => "Eq"
  | notEqual => "Ne"
  | less => "Lt"
  | lessEqual => "Le"
  | greater => "Gt"
  | greaterEqual => "Ge"
  | matching => "RegexMatch"
  | notMatching => "NotRegexMatch"
  | and => "And"
  | or => "Or"
  | comma => "Comma"
  | leftParen => "LParen"
  | rightParen => "RParen"
  | unknown c => "Unknown(" ++ Text.quotedChar c ++ ")"

/-- A character that an identifier may start with. -/
def isIdentStart (c : Char) : Bool := Text.isAlphabetic c || c == '_'

/-- A character that an identifier may go on with. -/
def isIdentPart (c : Char) : Bool := Text.isAlphanumeric c || c == '_'

/-- The token for a row of digits: an integer, or a text if the number is too large for one. -/
def ofDigits (digits : List Char) : Token :=
  match Text.Chars.readInt? digits with
  | some n => int (Int64.ofInt n)
  | none => str (String.ofList digits)

/-- The character that a backslash and a character stand for in a text literal. -/
def unescape (c : Char) : Char :=
  if c = 'n' then '\n' else if c = 't' then '\t' else c

/-- Reads a text literal whose opening quote has been read, up to the closing quote or the end;
`reversed` holds its characters, the last one first. -/
def readText (reversed : List Char) : List Char → List Char × List Char
  | [] => (reversed.reverse, [])
  | c :: cs =>
    if c = '"' then (reversed.reverse, cs)
    else if c = '\\' then
      match cs with
      | [] => (reversed.reverse, [])
      | e :: cs => readText (unescape e :: reversed) cs
    else readText (c :: reversed) cs

/-- The operator that starts with a given character, and the text after it. Of two operators the
longer one is taken. -/
def operator : Char → List Char → Token × List Char
  | '+', cs => (plus, cs)
  | '-', cs => (minus, cs)
  | '*', cs => (star, cs)
  | '/', cs => (slash, cs)
  | '%', cs => (percent, cs)
  | '!', '=' :: cs => (notEqual, cs)
  | '!', '/' :: cs => (notMatching, cs)
  | '!', cs => (bang, cs)
  | '&', '&' :: cs => (and, cs)
  | '|', '|' :: cs => (or, cs)
  | '<', '=' :: cs => (lessEqual, cs)
  | '<', cs => (less, cs)
  | '>', '=' :: cs => (greaterEqual, cs)
  | '>', cs => (greater, cs)
  | '=', '=' :: cs => (equal, cs)
  | '=', '/' :: cs => (matching, cs)
  | ',', cs => (comma, cs)
  | '(', cs => (leftParen, cs)
  | ')', cs => (rightParen, cs)
  | c, cs => (unknown c, cs)

/-- The token that starts with the character `c` before `cs`, and the text after it. -/
def next (c : Char) (cs : List Char) : Token × List Char :=
  if Text.isAsciiDigit c then
    (ofDigits (c :: cs.takeWhile Text.isAsciiDigit), cs.dropWhile Text.isAsciiDigit)
  else if c = '"' then
    let (text, rest) := readText [] cs
    (str (String.ofList text), rest)
  else if isIdentStart c then
    (ident (String.ofList (c :: cs.takeWhile isIdentPart)), cs.dropWhile isIdentPart)
  else operator c cs

/-- The tokens of a text, at most `count` of them. -/
def scanWithin : Nat → List Char → List Token
  | 0, _ => []
  | count + 1, cs =>
    match cs.dropWhile Text.isBlank with
    | [] => []
    | c :: cs =>
      let (token, rest) := next c cs
      token :: scanWithin count rest

/-- The tokens of a text. Each takes at least one character, so there are at most as many as
characters. -/
def scanChars (cs : List Char) : List Token :=
  scanWithin cs.length cs

/-- The tokens of a text. -/
def scan (s : String) : List Token := scanChars s.toList

/-- How one character is written in a text literal. -/
def quoteChar (c : Char) : List Char :=
  if c = '"' ∨ c = '\\' then ['\\', c]
  else if c = '\n' then ['\\', 'n']
  else if c = '\t' then ['\\', 't']
  else [c]

/-- A text as a literal. -/
def quote (s : String) : String :=
  String.ofList (['"'] ++ s.toList.flatMap quoteChar ++ ['"'])

/-- Reading a literal gives back the text it was written for, whatever follows the closing
quote. -/
theorem readText_flatMap_quoteChar (s rest reversed : List Char) :
    readText reversed (s.flatMap quoteChar ++ '"' :: rest) = (reversed.reverse ++ s, rest) := by
  induction s generalizing reversed with
  | nil =>
    rw [readText.eq_def]
    simp
  | cons c s ih =>
    rw [List.flatMap_cons]
    by_cases hq : c = '"' ∨ c = '\\'
    · rcases hq with rfl | rfl <;> simp [quoteChar, readText, unescape, ih]
    · by_cases hn : c = '\n'
      · subst hn
        simp [quoteChar, readText, unescape, ih]
      · by_cases ht : c = '\t'
        · subst ht
          simp [quoteChar, readText, unescape, ih]
        · have h1 : c ≠ '"' := fun h => hq (.inl h)
          have h2 : c ≠ '\\' := fun h => hq (.inr h)
          rw [readText.eq_def]
          simp [quoteChar, hn, ht, h1, h2, ih]

end Token

end BracketScript
