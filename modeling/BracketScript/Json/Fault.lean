import BracketScript.Text.Utf8
import BracketScript.Text.Decimal

/-!
# Faults of JSON texts

What can be wrong with a JSON text, where, and how it is reported. A place is given by the number
of bytes that are still to be read there; lines are counted from one, and columns in bytes.

## Main definitions

* `Json.FaultKind`: what is wrong
* `Json.Fault`: what is wrong and where
* `Json.Fault.message`: the report, with line and column
-/

namespace BracketScript.Json

/-- What is wrong with a JSON text. -/
inductive FaultKind where
  | endInList
  | endInObject
  | endInString
  | endInValue
  | expectedColon
  | expectedListEnd
  | expectedObjectEnd
  | expectedIdent
  | expectedValue
  | invalidEscape
  | invalidNumber
  | numberOutOfRange
  | invalidCodePoint
  | controlCharacter
  | keyNotString
  | loneSurrogate
  | endOfHexEscape
  | trailingComma
  | trailingCharacters
  | recursionLimit
  /-- The text is JSON but not the value that is asked for. -/
  | unexpected (message : String)
  deriving DecidableEq, Repr

/-- The wording of a fault. -/
def FaultKind.message : FaultKind → String
  | endInList => "EOF while parsing a list"
  | endInObject => "EOF while parsing an object"
  | endInString => "EOF while parsing a string"
  | endInValue => "EOF while parsing a value"
  | expectedColon => "expected `:`"
  | expectedListEnd => "expected `,` or `]`"
  | expectedObjectEnd => "expected `,` or `\x7d`"
  | expectedIdent => "expected ident"
  | expectedValue => "expected value"
  | invalidEscape => "invalid escape"
  | invalidNumber => "invalid number"
  | numberOutOfRange => "number out of range"
  | invalidCodePoint => "invalid unicode code point"
  | controlCharacter => "control character (\\u0000-\\u001F) found while parsing a string"
  | keyNotString => "key must be a string"
  | loneSurrogate => "lone leading surrogate in hex escape"
  | endOfHexEscape => "unexpected end of hex escape"
  | trailingComma => "trailing comma"
  | trailingCharacters => "trailing characters"
  | recursionLimit => "recursion limit exceeded"
  | unexpected message => message

/-- What is wrong, and how many bytes of the text are left where it is noticed. -/
structure Fault where
  /-- What is wrong. -/
  kind : FaultKind
  /-- The number of bytes that follow the place of the fault. -/
  left : Nat
  deriving DecidableEq, Repr

/-- A fault right before `rest`. -/
def Fault.before (kind : FaultKind) (rest : Bytes) : Fault := ⟨kind, rest.length⟩

/-- A fault at the first byte of `rest`, which counts as read; at the end of the text the fault is
right there. -/
def Fault.on (kind : FaultKind) (rest : Bytes) : Fault := ⟨kind, rest.length - 1⟩

/-- The line feeds of a text and the bytes after the last of them. -/
def lineAndColumn (bytes : Bytes) : Nat × Nat :=
  bytes.foldl
    (fun ((line, column) : Nat × Nat) (b : UInt8) =>
      if b = 10 then (line + 1, 0) else (line, column + 1))
    (1, 0)

/-- The report of a fault in the text `bytes`. -/
def Fault.message (fault : Fault) (bytes : Bytes) : String :=
  let (line, column) := lineAndColumn (bytes.take (bytes.length - fault.left))
  fault.kind.message ++ " at line " ++ Text.natText line ++ " column " ++ Text.natText column

end BracketScript.Json
