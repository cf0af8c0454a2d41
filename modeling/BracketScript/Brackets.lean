import BracketScript.Error

/-!
# Brackets and calls

A line of a script nests calls in square brackets, such as `[If((i < 3), [PrintF("%v", i)])]`. Only
the brackets count for nesting: parentheses and quotes do not, so that a comma between quotes still
separates arguments. The nesting depth is an integer of 32 bits, and counting wraps around.

## Main definitions

* `Brackets.weight`: what a character adds to the nesting depth
* `Brackets.spans`: the spans of a line, each up to the bracket that closes it
* `Brackets.arguments`: the arguments of a call
* `Call`: the name and the raw argument text of a call
* `Call.parse`: the call in the first span of a text
-/

namespace BracketScript

namespace Brackets

/-- Whether a character is a square bracket. -/
def isBracket (c : Char) : Bool := c == '[' || c == ']'

/-- What a character adds to the nesting depth. -/
def weight (c : Char) : Int32 :=
  if c = '[' then 1 else if c = ']' then -1 else 0

/-- What a text adds to the nesting depth. -/
def balance : List Char → Int32
  | [] => 0
  | c :: cs => weight c + balance cs

/-- A text cut after each bracket that brings the depth back to zero: the pieces, the text left over
and the depth at its end. `piece` holds the characters of the current piece, the last one first. -/
def cut (depth : Int32) (piece : List Char) :
    List Char → List (List Char) × List Char × Int32
  | [] => ([], piece.reverse, depth)
  | c :: cs =>
    if c = ']' ∧ depth = 1 then
      let (pieces, tail, final) := cut 0 [] cs
      ((c :: piece).reverse :: pieces, tail, final)
    else cut (depth + weight c) (c :: piece) cs

/-- Adds the text left over after the last cut: to the last piece if the brackets are balanced
there, as a piece of its own otherwise. -/
def attach : List (List Char) → List Char → Int32 → List (List Char)
  | pieces, [], _ => pieces
  | [], tail, _ => [tail]
  | [piece], tail, depth => if depth = 0 then [piece ++ tail] else [piece, tail]
  | piece :: pieces, tail, depth => piece :: attach pieces tail depth

/-- The spans of a line. A text without brackets is one span; text before a bracketed part belongs
to it, and so does text after the last one. -/
def spansOf (cs : List Char) : List (List Char) :=
  if cs.any isBracket then
    let (pieces, tail, depth) := cut 0 [] cs
    attach pieces tail depth
  else [cs]

/-- The pieces between the commas at depth zero; `piece` holds the characters of the current piece,
the last one first. -/
def argumentsFrom (depth : Int32) (piece : List Char) : List Char → List (List Char)
  | [] => [piece.reverse]
  | c :: cs =>
    if c = ',' ∧ depth = 0 then piece.reverse :: argumentsFrom 0 [] cs
    else argumentsFrom (depth + weight c) (c :: piece) cs

/-- The arguments of a call: the pieces of its argument text between the commas at depth zero. -/
def argumentsOf (cs : List Char) : List (List Char) :=
  argumentsFrom 0 [] cs

/-- The text up to the bracket that closes `depth` open ones; `inner` holds what has been read, the
last character first. -/
def inside? (depth : Int32) (inner : List Char) : List Char → Option (List Char)
  | [] => none
  | c :: cs =>
    if c = ']' ∧ depth = 1 then some inner.reverse
    else inside? (depth + weight c) (c :: inner) cs

/-- The spans of a line. -/
def spans (line : String) : List String :=
  (spansOf line.toList).map String.ofList

/-- The arguments of a call, of which there is at least one. -/
def arguments (raw : String) : List String :=
  (argumentsOf raw.toList).map String.ofList

end Brackets

/-- A call: the name of what is called and the text of the arguments, which is evaluated by the
callee. -/
structure Call where
  /-- What is called. -/
  name : String
  /-- The text between the parentheses. -/
  raw : String
  deriving DecidableEq, Repr, Inhabited

namespace Call

/-- A text without the closing parenthesis at its end, if it has one there. -/
def dropClosing? (cs : List Char) : Option (List Char) :=
  if cs.getLast? = some ')' then some cs.dropLast else none

/-- The name and the raw argument text of the first bracketed part of a text. -/
def ofChars? (cs : List Char) : Option (List Char × List Char) := do
  let (_, after) ← Text.Chars.splitFirst '[' cs
  let inner ← Brackets.inside? 1 [] after
  let (before, arguments) ← Text.Chars.splitFirst '(' inner
  let raw ← dropClosing? (Text.Chars.trimEnd arguments)
  let name := Text.Chars.trim before
  if name.isEmpty then none else some (name, raw)

/-- The call in the first bracketed part of a text. -/
def parse (text : String) : Except ScriptError Call :=
  match ofChars? text.toList with
  | some (name, raw) => .ok ⟨String.ofList name, String.ofList raw⟩
  | none => .error (.malformed (Text.trim text))

end Call

end BracketScript
