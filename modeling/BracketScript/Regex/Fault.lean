import BracketScript.Text.Split
import BracketScript.Text.Decimal

/-!
# Faults of patterns

What can be wrong with a pattern, and how it is reported: the pattern with carets below the part
at fault, then the reason.

## Main definitions

* `Regex.Place`, `Regex.Span`: parts of a pattern
* `Regex.FaultKind`, `Regex.Fault`: what is wrong and where
* `Regex.Fault.message`: the report
-/

namespace BracketScript.Regex

/-- A place in a pattern: line and column, counted from one. -/
structure Place where
  /-- The line. -/
  line : Nat
  /-- The column, counted in characters. -/
  column : Nat
  deriving DecidableEq, Repr, Inhabited

/-- The place after a character. -/
def Place.after (p : Place) (c : Char) : Place :=
  if c = '\n' then ⟨p.line + 1, 1⟩ else ⟨p.line, p.column + 1⟩

/-- The part of a pattern from one place to another. -/
structure Span where
  /-- Where it starts. -/
  start : Place
  /-- Where it ends: the place after its last character. -/
  stop : Place
  deriving DecidableEq, Repr, Inhabited

/-- What is wrong with a pattern. -/
inductive FaultKind where
  | classEscapeInvalid
  | classRangeInvalid
  | classRangeLiteral
  | classUnclosed
  | decimalEmpty
  | decimalInvalid
  | escapeHexEmpty
  | escapeHexInvalid
  | escapeHexInvalidDigit
  | escapeUnexpectedEnd
  | escapeUnrecognized
  | flagDanglingNegation
  | flagDuplicate
  | flagRepeatedNegation
  | flagUnexpectedEnd
  | flagUnrecognized
  | groupNameDuplicate
  | groupNameEmpty
  | groupNameInvalid
  | groupNameUnexpectedEnd
  | groupUnclosed
  | groupUnopened
  | repetitionCountInvalid
  | repetitionCountEmpty
  | repetitionCountUnclosed
  | repetitionMissing
  | wordBoundaryUnclosed
  | wordBoundaryUnrecognized
  | wordBoundaryUnexpectedEnd
  | propertyInvalid
  | backreference
  | lookAround
  | propertyNotFound
  | propertyValueNotFound
  | unicodeNotAllowed
  | invalidUtf8
  | nestedTooDeeply
  deriving DecidableEq, Repr, Inhabited

/-- The wording of a fault. -/
def FaultKind.message : FaultKind → String
  | classEscapeInvalid => "invalid escape sequence found in character class"
  | classRangeInvalid => "invalid character class range, the start must be <= the end"
  | classRangeLiteral => "invalid range boundary, must be a literal"
  | classUnclosed => "unclosed character class"
  | decimalEmpty => "decimal literal empty"
  | decimalInvalid => "decimal literal invalid"
  | escapeHexEmpty => "hexadecimal literal empty"
  | escapeHexInvalid => "hexadecimal literal is not a Unicode scalar value"
  | escapeHexInvalidDigit => "invalid hexadecimal digit"
  | escapeUnexpectedEnd => "incomplete escape sequence, reached end of pattern prematurely"
  | escapeUnrecognized => "unrecognized escape sequence"
  | flagDanglingNegation => "dangling flag negation operator"
  | flagDuplicate => "duplicate flag"
  | flagRepeatedNegation => "flag negation operator repeated"
  | flagUnexpectedEnd => "expected flag but got end of regex"
  | flagUnrecognized => "unrecognized flag"
  | groupNameDuplicate => "duplicate capture group name"
  | groupNameEmpty => "empty capture group name"
  | groupNameInvalid => "invalid capture group character"
  | groupNameUnexpectedEnd => "unclosed capture group name"
  | groupUnclosed => "unclosed group"
  | groupUnopened => "unopened group"
  | repetitionCountInvalid => "invalid repetition count range, the start must be <= the end"
  | repetitionCountEmpty => "repetition quantifier expects a valid decimal"
  | repetitionCountUnclosed => "unclosed counted repetition"
  | repetitionMissing => "repetition operator missing expression"
  | wordBoundaryUnclosed =>
    "special word boundary assertion is either unclosed or contains an invalid character"
  | wordBoundaryUnrecognized =>
    "unrecognized special word boundary assertion, valid choices are: " ++
      "start, end, start-half or end-half"
  | wordBoundaryUnexpectedEnd =>
    "found either the beginning of a special word boundary or a bounded repetition on a \\b " ++
      "with an opening brace, but no closing brace"
  | propertyInvalid => "invalid Unicode character class"
  | backreference => "backreferences are not supported"
  | lookAround => "look-around, including look-ahead and look-behind, is not supported"
  | propertyNotFound => "Unicode property not found"
  | propertyValueNotFound => "Unicode property value not found"
  | unicodeNotAllowed => "Unicode not allowed here"
  | invalidUtf8 => "pattern can match invalid UTF-8"
  | nestedTooDeeply => "exceed the maximum number of nested parentheses/brackets (250)"

/-- What is wrong with a pattern, and where. -/
structure Fault where
  /-- What is wrong. -/
  kind : FaultKind
  /-- The part at fault. -/
  span : Span
  /-- An earlier part that it clashes with. -/
  other : Option Span := none
  deriving DecidableEq, Repr

/-- The carets below a line for the spans on it, from left to right; `column` is the next column to
write. -/
def carets (column : Nat) : List Span → List Char
  | [] => []
  | span :: rest =>
    let width := max 1 (span.stop.column - span.start.column)
    List.replicate (span.start.column - column) ' ' ++ List.replicate width '^' ++
      carets (max column span.start.column + width) rest

/-- The spans that lie on one line, the leftmost first. -/
def onLine (spans : List Span) (line : Nat) : List Span :=
  (spans.filter fun s => s.start.line = line && s.stop.line = line).mergeSort
    fun a b => a.start.column ≤ b.start.column

/-- A number with spaces in front of it, of the given width. -/
def padded (width n : Nat) : List Char :=
  let digits := Text.Chars.ofNat n
  List.replicate (width - digits.length) ' ' ++ digits

/-- The lines of a pattern from the line number `line` on, each with the carets that belong below
it. Lines are numbered if `width` is not zero. -/
def notated (spans : List Span) (width : Nat) (line : Nat) : List (List Char) → List Char
  | [] => []
  | text :: rest =>
    let margin := if width = 0 then List.replicate 4 ' ' else padded width line ++ [':', ' ']
    let marks := match onLine spans line with
      | [] => []
      | here => List.replicate margin.length ' ' ++ carets 1 here ++ ['\n']
    margin ++ text ++ ['\n'] ++ marks ++ notated spans width (line + 1) rest

/-- A remark on a part of a pattern that goes over several lines. -/
def acrossLines (s : Span) : String :=
  "on line " ++ Text.natText s.start.line ++ " (column " ++ Text.natText s.start.column ++
    ") through line " ++ Text.natText s.stop.line ++ " (column " ++
    Text.natText (s.stop.column - 1) ++ ")"

/-- The report of a fault in a pattern. -/
def Fault.message (fault : Fault) (pattern : String) : String :=
  let cs := pattern.toList
  let lines := Text.Chars.lines cs
  let count := if cs.getLast? = some '\n' then lines.length + 1 else lines.length
  let width := if count ≤ 1 then 0 else (Text.Chars.ofNat count).length
  let spans := fault.span :: fault.other.toList
  let body := String.ofList (notated spans width 1 lines)
  let reason := "error: " ++ fault.kind.message
  if cs.contains '\n' then
    let divider := String.ofList (List.replicate 79 '~') ++ "\n"
    let remarks := (spans.filter fun s => s.start.line ≠ s.stop.line).map acrossLines
    let remarks := if remarks.isEmpty then "" else Text.joinWith "\n" remarks ++ "\n"
    "regex parse error:\n" ++ divider ++ body ++ divider ++ remarks ++ reason
  else "regex parse error:\n" ++ body ++ reason

end BracketScript.Regex
