import BracketScript.Report.Summary
import BracketScript.Service.EvaluateRequest
import BracketScript.Service.Intake
import BracketScript.Service.Response
import BracketScript.Session.Run

/-!
# The service

The service runs scripts on behalf of callers and tells what failed and what passed. Failures of
scripts are part of a successful response.

## Main definitions

* `Results`: the lines that failed and those that passed
* `Service.evaluate`: the results of running a script in a new session
* `Service.handle`: the response to a request
* `Service.answer`: the bytes sent back on a connection
-/

namespace BracketScript

/-- What a run of a script came to. -/
structure Results where
  /-- The report lines of what failed. -/
  failures : List String
  /-- The report lines of what passed. -/
  successes : List String
  deriving DecidableEq, Repr, Inhabited

/-- The results that a report of running `file` comes to. If nothing failed, the file is listed as
passed. -/
def Results.ofReport (file : String) (report : Report) : Results :=
  let failures := report.failures
  let passed := if failures.isEmpty then [file ++ ": passed"] else []
  ⟨failures, report.successes ++ passed⟩

/-- Results as a JSON value. -/
def Results.json (r : Results) : Json :=
  .object [
    ("Failures", .array (r.failures.map .string)),
    ("Successes", .array (r.successes.map .string))]

namespace Service

/-- The results of running a script in a new session, and the session after it. -/
def evaluate (host : Host) (limit : Nat) (file : String) : Option (Results × Session) :=
  match Session.run host limit file {} with
  | some (.ok report, session) => some (Results.ofReport file report, session)
  | _ => none

/-- The part of a target before its query. -/
def withoutQuery (path : String) : String :=
  String.ofList (path.toList.takeWhile (· != '?'))

/-- The targets that tell whether the service is up. -/
def isHealthPath (path : String) : Bool := path == "/readiness" || path == "/liveness"

/-- The response to a request, and the session of the run that it caused. -/
def handle (host : Host) (limit : Nat) (method target : String) (body : Bytes) :
    Option (Response × Session) :=
  let path := withoutQuery target
  if method = "GET" ∧ isHealthPath path then
    some (.ok (.object [("Status", .string "ok")]), {})
  else if method = "POST" ∧ path = "/evaluate" then
    match EvaluateRequest.decode body with
    | .ok file => (evaluate host limit file).map fun (results, s) => (.ok results.json, s)
    | .error error => some (.error error.status error.message, {})
  else if isHealthPath path || path == "/evaluate" then
    some (.error 405 ("method " ++ method ++ " not allowed on " ++ path), {})
  else some (.error 404 ("no route for " ++ path), {})

/-- The bytes sent back on a connection with the given deliveries. A connection that fails gets
nothing. -/
def answer (host : Host) (limit : Nat) (deliveries : List Delivery) : Option Bytes :=
  match readRequest deliveries with
  | .ok (head, body) =>
    (handle host limit head.method head.path body).map fun (response, _) => response.encode
  | .error (.io _) => some []
  | .error error => some (Response.error error.status error.message).encode

end Service

end BracketScript
