import BracketScript.Service.Head

/-!
# Reading requests off a connection

A request arrives in pieces. Its head ends at the first empty line, and as many bytes follow as the
head says.

## Main definitions

* `Delivery`: what one read of a connection gives
* `Delivery.limited`: deliveries cut to the length that a read asks for
* `splitHead?`: a head and what follows the empty line after it
* `readRequest`: the request that a sequence of deliveries makes
-/

namespace BracketScript

/-- What one read of a connection gives. -/
inductive Delivery where
  /-- Some bytes; none at all means the end. -/
  | data (bytes : Bytes)
  /-- A failure of the connection. -/
  | failure (text : String)
  /-- Nothing, for longer than a request may take. -/
  | stall
  deriving DecidableEq, Repr, Inhabited

/-- How many bytes a read asks for. -/
def readLength : Nat := 4096

/-- Bytes in pieces of at most `readLength`, at most `count` of them. -/
def inPieces : Nat → Bytes → List Bytes
  | 0, _ => []
  | count + 1, bytes =>
    if bytes.length ≤ readLength then [bytes]
    else bytes.take readLength :: inPieces count (bytes.drop readLength)

/-- Deliveries as reads see them: a long one comes in several pieces. -/
def Delivery.limited (deliveries : List Delivery) : List Delivery :=
  deliveries.flatMap fun
    | .data bytes => (inPieces (bytes.length + 1) bytes).map .data
    | other => [other]

/-- The bytes before the first empty line and those after it; `before` holds what has been passed,
the last byte first. -/
def splitHeadFrom (before : Bytes) : Bytes → Option (Bytes × Bytes)
  | [] => none
  | b :: rest =>
    match b, rest with
    | 13, 10 :: 13 :: 10 :: after => some (before.reverse, after)
    | b, rest => splitHeadFrom (b :: before) rest

/-- The bytes before the first empty line, if there is one, and those after it. -/
def splitHead? (bytes : Bytes) : Option (Bytes × Bytes) := splitHeadFrom [] bytes

/-- Reads the rest of a body of which `count` bytes are missing. -/
def readBody : Nat → List Delivery → Except ServiceError Bytes
  | 0, _ => .ok []
  | _ + 1, [] => .error (.badRequest "connection closed mid-body")
  | _ + 1, .failure text :: _ => .error (.io text)
  | _ + 1, .stall :: _ => .error .timeout
  | _ + 1, .data [] :: _ => .error (.badRequest "connection closed mid-body")
  | count + 1, .data (b :: bytes) :: rest =>
    match readBody (count + 1 - (b :: bytes).length) rest with
    | .ok more => .ok ((b :: bytes).take (count + 1) ++ more)
    | .error error => .error error

/-- The request whose head is complete: the head, and the body from the bytes that came with the
head and the deliveries after it. -/
def finishRequest (head body : Bytes) (rest : List Delivery) :
    Except ServiceError (Head × Bytes) := do
  let head ← Head.parse head
  let more ← readBody (head.contentLength - body.length) rest
  return (head, body.take head.contentLength ++ more)

/-- The request when nothing more arrives. -/
def closeRequest (arrived : Bytes) : Except ServiceError (Head × Bytes) :=
  match splitHead? arrived with
  | some (head, body) => finishRequest head body []
  | none =>
    if maxHead < arrived.length then .error (.badRequest "request head too large")
    else .error (.badRequest "connection closed mid-request")

/-- Reads a request after the bytes that have arrived. -/
def readRequestFrom (arrived : Bytes) : List Delivery → Except ServiceError (Head × Bytes)
  | [] => closeRequest arrived
  | delivery :: rest =>
    match splitHead? arrived with
    | some (head, body) => finishRequest head body (delivery :: rest)
    | none =>
      if maxHead < arrived.length then .error (.badRequest "request head too large")
      else match delivery with
        | .data (b :: bytes) => readRequestFrom (arrived ++ b :: bytes) rest
        | .data [] => .error (.badRequest "connection closed mid-request")
        | .failure text => .error (.io text)
        | .stall => .error .timeout

/-- Reads one request: its head, then as many bytes as the head says. -/
def readRequest (deliveries : List Delivery) : Except ServiceError (Head × Bytes) :=
  readRequestFrom [] deliveries

end BracketScript
