import BracketScript.Json.Printer

/-!
# Exchanges with other services

A script sends requests and gets back the body of the response, or the reason why there is none.
What answers is a `Transport`: the answer may depend on the requests sent before.

## Main definitions

* `Headers`: header fields by name, in the order of the names
* `Request`: a request that is sent
* `ExchangeError`: why a request got no usable response
* `Transport`: what answers requests
* `Sent`: a request in the log of a run
* `Sent.listing`: the log, with simultaneous requests in a fixed order
-/

namespace BracketScript

/-- Header fields by name, in the order of the names. -/
abbrev Headers := List (String × String)

/-- Sets a header field; a field of the same name is replaced. -/
def Headers.insert (name value : String) : Headers → Headers
  | [] => [(name, value)]
  | (n, v) :: rest =>
    if name < n then (name, value) :: (n, v) :: rest
    else if name = n then (name, value) :: rest
    else (n, v) :: Headers.insert name value rest

/-- What a request asks for. -/
inductive Method where
  | get
  | post
  deriving DecidableEq, Repr, Inhabited

/-- The name of a method. -/
def Method.name : Method → String
  | get => "GET"
  | post => "POST"

/-- A request. -/
structure Request where
  /-- Where it goes. -/
  url : String
  /-- Its header fields. -/
  headers : Headers
  /-- What it asks for. -/
  method : Method
  /-- The JSON value it carries, if any. -/
  body : Option Json
  deriving Inhabited, Repr

/-- Why a request got no usable response. -/
inductive ExchangeError where
  /-- The service answered, with a status that means failure. -/
  | status (method : Method) (url : String) (code : Nat) (body : String)
  /-- There was no response. -/
  | connection (method : Method) (url : String) (reason : String)
  /-- The response could not be read. -/
  | unreadable (url : String) (reason : String)
  deriving DecidableEq, Repr, Inhabited

/-- The wording of an exchange error. The body of a failure response is given if it is not empty. -/
def ExchangeError.message : ExchangeError → String
  | status method url _ body =>
    "failed to send " ++ method.name ++ " request to " ++ url ++
      (if body.isEmpty then "" else ": " ++ body)
  | connection method url reason =>
    "failed to send " ++ method.name ++ " request to " ++ url ++ ": " ++ reason
  | unreadable url reason => "failed to read response from " ++ url ++ ": " ++ reason

/-- What answers requests: given the requests sent before and the one to answer, the body of the
response or why there is none. -/
abbrev Transport := List Request → Request → Except ExchangeError String

/-- A request as a JSON value: its body as compact text, its header fields, method and URL. -/
def Request.record (r : Request) : Json :=
  .object [
    ("body", match r.body with
      | some body => .string body.compact
      | none => .null),
    ("headers", .object (r.headers.map fun (name, value) => (name, .string value))),
    ("method", .string r.method.name),
    ("url", .string r.url)]

/-- A request in the log of a run. -/
structure Sent where
  /-- The request. -/
  request : Request
  /-- Whether it was one of several sent at the same time. -/
  simultaneous : Bool
  deriving Inhabited, Repr

/-- Inserts a request into a list ordered by the compact texts of the records. -/
def Request.insertByRecord (r : Request) : List Request → List Request
  | [] => [r]
  | s :: rest =>
    if r.record.compact ≤ s.record.compact then r :: s :: rest
    else s :: Request.insertByRecord r rest

/-- The requests of a log. Requests sent at the same time have no order of their own: each longest
run of them is listed in the order of the compact texts of their records. -/
def Sent.listing (log : List Sent) : List Request :=
  let (run, done) := log.foldr
    (fun sent (run, done) =>
      if sent.simultaneous then (sent.request.insertByRecord run, done)
      else ([], sent.request :: (run ++ done)))
    (([], []) : List Request × List Request)
  run ++ done

end BracketScript
