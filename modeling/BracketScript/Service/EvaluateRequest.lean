import BracketScript.Json.Parser
import BracketScript.Service.Error
import BracketScript.Text.Blank
import BracketScript.Text.Quoted

/-!
# The request to evaluate a script

The body of a request to evaluate is a JSON object with the one member `File`, the path of the
script, or an array with the path as its one item. Anything else is refused, with the reason and the
place.

## Main definitions

* `EvaluateRequest.readText`: a string, where one is required
* `EvaluateRequest.read`: the path, off the front of a text
* `EvaluateRequest.decode`: the path that a request body gives
-/

namespace BracketScript.EvaluateRequest

open Json

/-- The name of the only member. -/
def fieldName : String := "File"

/-- The fault of a value that is not of the expected kind. -/
def invalidType (found expected : String) : FaultKind :=
  .unexpected ("invalid type: " ++ found ++ ", expected " ++ expected)

/-- How a number is described in a fault. -/
def describeNumber : Number → String
  | .integer n => "integer `" ++ Text.intText n ++ "`"
  | .binary x => "floating point `" ++ x.text ++ "`"

/-- The fault of the value that starts with the byte `b`, where another kind of value is expected.
A scalar counts as read, an array or object does not. -/
def refuse (expected : String) (b : UInt8) (rest : Bytes) : Fault :=
  let report (found : String) (after : Bytes) : Fault := .before (invalidType found expected) after
  let ofIdent (found : String) : Except Fault Bytes → Fault
    | .ok after => report found after
    | .error fault => fault
  let ofNumber : Except Fault (Number × Bytes) → Fault
    | .ok (n, after) => report (describeNumber n) after
    | .error fault => fault
  if b = 0x6e then ofIdent "null" (readIdent [0x75, 0x6c, 0x6c] rest)
  else if b = 0x74 then ofIdent "boolean `true`" (readIdent [0x72, 0x75, 0x65] rest)
  else if b = 0x66 then ofIdent "boolean `false`" (readIdent [0x61, 0x6c, 0x73, 0x65] rest)
  else if b = 0x2d then ofNumber (readNumber true rest)
  else if isDigitByte b then ofNumber (readNumber false (b :: rest))
  else if b = 0x22 then
    match readString rest with
    | .ok (s, after) => report ("string " ++ Text.quoted s) after
    | .error fault => fault
  else if b = 0x5b then report "sequence" (b :: rest)
  else if b = 0x7b then report "map" (b :: rest)
  else .on .expectedValue (b :: rest)

/-- Reads a string, where one is required. -/
def readText : Reader String := fun rest =>
  match skipGap rest with
  | [] => .error (.before .endInValue [])
  | b :: rest => if b = 0x22 then readString rest else .error (refuse "a string" b rest)

/-- The fault of a member that should not be there, noticed after its name. The end of the object
counts as read if it follows. -/
def refuseMember (message : String) (rest : Bytes) : Fault :=
  match skipGap rest with
  | b :: after =>
    .before (.unexpected message) (if b = 0x7d then after else b :: after)
  | [] => .before (.unexpected message) []

/-- Reads a member whose name's opening quote has been read, where `file` is the path if it has been
given already. -/
def readMember (file : Option String) : Reader String := fun rest => do
  let (name, rest) ← readString rest
  if name ≠ fieldName then
    .error (refuseMember ("unknown field `" ++ name ++ "`, expected `" ++ fieldName ++ "`") rest)
  else if file.isSome then
    .error (refuseMember ("duplicate field `" ++ fieldName ++ "`") rest)
  else
    let rest ← readColon rest
    readText rest

/-- Reads the members of an object after the path, of which there may be none, and the closing
brace. -/
def readEnd (file : String) (rest : Bytes) : Except Fault (String × Bytes) :=
  match skipGap rest with
  | [] => .error (.before .endInObject [])
  | b :: rest =>
    if b = 0x7d then .ok (file, rest)
    else if b = 0x2c then
      match skipGap rest with
      | [] => .error (.before .endInValue [])
      | c :: rest =>
        if c = 0x22 then (readMember (some file) rest)
        else if c = 0x7d then .error (.on .trailingComma (c :: rest))
        else .error (.on .keyNotString (c :: rest))
    else .error (.on .expectedObjectEnd (b :: rest))

/-- Reads an object whose opening brace has been read. -/
def readObject (rest : Bytes) : Except Fault (String × Bytes) :=
  match skipGap rest with
  | [] => .error (.before .endInObject [])
  | b :: rest =>
    if b = 0x7d then .error (.before (.unexpected ("missing field `" ++ fieldName ++ "`")) rest)
    else if b = 0x22 then do
      let (file, rest) ← readMember none rest
      readEnd file rest
    else .error (.on .keyNotString (b :: rest))

/-- Reads the end of an array after its one item. -/
def readArrayEnd (file : String) (rest : Bytes) : Except Fault (String × Bytes) :=
  match skipGap rest with
  | [] => .error (.before .endInList [])
  | b :: rest =>
    if b = 0x5d then .ok (file, rest)
    else if b = 0x2c then
      match skipGap rest with
      | [] => .error (.before .trailingCharacters [])
      | c :: rest =>
        if c = 0x5d then .error (.on .trailingComma (c :: rest))
        else .error (.on .trailingCharacters (c :: rest))
    else .error (.on .trailingCharacters (b :: rest))

/-- Reads an array whose opening bracket has been read. -/
def readArray (rest : Bytes) : Except Fault (String × Bytes) :=
  match skipGap rest with
  | [] => .error (.before .endInList [])
  | b :: rest =>
    if b = 0x5d then
      .error (.before
        (.unexpected "invalid length 0, expected struct EvaluateRequest with 1 element") rest)
    else do
      let (file, rest) ← readText (b :: rest)
      readArrayEnd file rest

/-- Reads the path off the front of a text. -/
def read : Reader String := fun rest =>
  match skipGap rest with
  | [] => .error (.before .endInValue [])
  | b :: rest =>
    if b = 0x5b then readArray rest
    else if b = 0x7b then readObject rest
    else .error (refuse "struct EvaluateRequest" b rest)

/-- The path that the body of a request gives. -/
def decode (body : Bytes) : Except ServiceError String :=
  let result : Except Fault String := do
    let (file, rest) ← read body
    requireEnd rest
    return file
  match result with
  | .error fault => .error (.badRequest ("error evaluate/decode: " ++ fault.message body))
  | .ok file =>
    if (Text.trim file).isEmpty then .error (.badRequest "File is a required field")
    else .ok file

end BracketScript.EvaluateRequest
