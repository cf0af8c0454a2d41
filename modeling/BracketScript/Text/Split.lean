import BracketScript.Text.Blank

/-!
# Cutting and joining texts

Cutting a text at a separator, at line ends, and joining pieces again. A separator is looked for
from left to right and occurrences do not overlap.

## Main definitions

* `splitOn`: the pieces of a text between the occurrences of a separator
* `lines`: the lines of a text, without their line ends
* `joinWith`: pieces joined by a separator
* `contains`, `hasStart`: occurrences of one text in another
* `Chars.splitFirst`: what is before the first mark, and what is behind it

## Main results

* `joinWith_cons_cons`: the first of several texts stands in front of the others
-/

namespace BracketScript.Text

namespace Chars

/-- The pieces of a text from which `skip` characters of a separator are still to be dropped;
`piece` holds the characters of the current piece, the last one first. -/
def splitOnFrom (sep : List Char) : Nat → List Char → List Char → List (List Char)
  | _, piece, [] => [piece.reverse]
  | skip + 1, piece, _ :: cs => splitOnFrom sep skip piece cs
  | 0, piece, c :: cs =>
    if sep.isPrefixOf (c :: cs) then piece.reverse :: splitOnFrom sep (sep.length - 1) [] cs
    else splitOnFrom sep 0 (c :: piece) cs

/-- The pieces of a text between the occurrences of the non-empty separator `sep`, found from left
to right without overlap. -/
def splitOn (sep cs : List Char) : List (List Char) :=
  splitOnFrom sep 0 [] cs

/-- Whether `needle` occurs in a text. -/
def contains (needle : List Char) : List Char → Bool
  | [] => needle.isEmpty
  | c :: cs => needle.isPrefixOf (c :: cs) || contains needle cs

/-- A text without the carriage return at its end, if it has one there. -/
def dropCarriageReturn (cs : List Char) : List Char :=
  if cs.getLast? = some '\r' then cs.dropLast else cs

/-- The lines of a text whose pieces between line feeds are given: what follows the last line feed
counts only if it is not empty, and a carriage return before a line feed belongs to the line end. -/
def linesOfPieces : List (List Char) → List (List Char)
  | [] => []
  | [last] => if last.isEmpty then [] else [last]
  | piece :: rest => dropCarriageReturn piece :: linesOfPieces rest

/-- The lines of a text, without their line ends. -/
def lines (cs : List Char) : List (List Char) :=
  linesOfPieces (splitWhere (· == '\n') cs)

/-- The characters before the first `mark` and those after it, if there is one. -/
def splitFirst (mark : Char) : List Char → Option (List Char × List Char)
  | [] => none
  | c :: cs =>
    if c = mark then some ([], cs)
    else (splitFirst mark cs).map fun (before, after) => (c :: before, after)

end Chars

/-- The pieces of a text between the occurrences of the non-empty separator `sep`. -/
def splitOn (sep s : String) : List String :=
  (Chars.splitOn sep.toList s.toList).map String.ofList

/-- The lines of a text, without their line ends. -/
def lines (s : String) : List String :=
  (Chars.lines s.toList).map String.ofList

/-- Whether `needle` occurs in `s`. -/
def contains (s needle : String) : Bool :=
  Chars.contains needle.toList s.toList

/-- Whether `s` starts with `start`. -/
def hasStart (s start : String) : Bool :=
  start.toList.isPrefixOf s.toList

/-- The texts joined, with `sep` between each two. -/
def joinWith (sep : String) : List String → String
  | [] => ""
  | s :: rest => rest.foldl (fun joined t => joined ++ sep ++ t) s

@[simp] theorem joinWith_nil (sep : String) : joinWith sep [] = "" := rfl

@[simp] theorem joinWith_singleton (sep s : String) : joinWith sep [s] = s := rfl

/-- Joining after a first text is putting that text in front of what is joined. -/
theorem foldl_append_eq_append (sep s t : String) (rest : List String) :
    rest.foldl (fun joined u => joined ++ sep ++ u) (s ++ t) =
      s ++ rest.foldl (fun joined u => joined ++ sep ++ u) t := by
  induction rest generalizing t with
  | nil => rfl
  | cons u rest ih =>
    have h : s ++ t ++ sep ++ u = s ++ (t ++ sep ++ u) := by simp only [String.append_assoc]
    rw [List.foldl_cons, List.foldl_cons, h, ih]

/-- The first of several texts stands in front of the others, with the separator between. -/
theorem joinWith_cons_cons (sep s t : String) (rest : List String) :
    joinWith sep (s :: t :: rest) = s ++ sep ++ joinWith sep (t :: rest) :=
  foldl_append_eq_append sep (s ++ sep) t rest

end BracketScript.Text
