import BracketScript.Service.Error
import BracketScript.Text.Quoted
import BracketScript.Text.Split
import BracketScript.Text.Utf8

/-!
# Heads of requests

The head of a request is its request line and its header fields, with a line end between each two.
Of the fields only the length of the body matters.

## Main definitions

* `Head`: what a head says
* `Head.parse`: the head that bytes are
-/

namespace BracketScript

/-- What the head of a request says. -/
structure Head where
  /-- What is asked for. -/
  method : String
  /-- What it is asked of. -/
  path : String
  /-- How many bytes follow the head. -/
  contentLength : Nat
  deriving DecidableEq, Repr, Inhabited

namespace Head

/-- The name of a header field is that of the length of the body, in any case. -/
def isLengthName (name : List Char) : Bool :=
  (Text.Chars.trim name).map Text.asciiLower == "content-length".toList

/-- The method, target and version of a request line. -/
def requestLine (line : List Char) : Except ServiceError (String × String × String) :=
  match Text.Chars.words line with
  | [method, path, version] =>
    .ok (String.ofList method, String.ofList path, String.ofList version)
  | _ => .error (.badRequest ("malformed request line: " ++ Text.quoted (String.ofList line)))

/-- The length of the body after one more header field. -/
def readField (length : Nat) (line : List Char) : Except ServiceError Nat :=
  match Text.Chars.splitFirst ':' line with
  | none => .error (.badRequest ("malformed header: " ++ Text.quoted (String.ofList line)))
  | some (name, value) =>
    if isLengthName name then
      match Text.Chars.readNat Text.maxUInt64 (Text.Chars.trim value) with
      | .ok n => .ok n
      | .error _ =>
        .error (.badRequest
          ("invalid Content-Length: " ++ String.ofList (Text.Chars.trim value)))
    else .ok length

/-- The length of the body that header fields give; the last one that gives it counts. -/
def readFields : Nat → List (List Char) → Except ServiceError Nat
  | length, [] => .ok length
  | length, line :: rest =>
    if line.isEmpty then readFields length rest
    else match readField length line with
      | .ok length => readFields length rest
      | .error error => .error error

/-- The head that a text is. -/
def ofChars (cs : List Char) : Except ServiceError Head :=
  match Text.Chars.splitOn ['\r', '\n'] cs with
  | [] => .error (.badRequest ("malformed request line: " ++ Text.quoted ""))
  | line :: fields => do
    let (method, path, version) ← requestLine line
    if !Text.hasStart version "HTTP/1." then
      .error (.badRequest ("unsupported version " ++ version))
    else
      let length ← readFields 0 fields
      if maxBody < length then .error .payloadTooLarge
      else .ok ⟨method, path, length⟩

/-- The head that bytes are: everything before the empty line. -/
def parse (bytes : Bytes) : Except ServiceError Head :=
  match Bytes.toString? bytes with
  | some s => ofChars s.toList
  | none => .error (.badRequest "request head is not UTF-8")

end Head

end BracketScript
