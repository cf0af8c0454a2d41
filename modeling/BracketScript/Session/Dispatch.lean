import BracketScript.Report.Basic
import BracketScript.Session.Builtin
import BracketScript.Session.Exchanges
import BracketScript.Session.Placeholders

/-!
# Evaluating lines

A line is evaluated span by span. The failures of its spans are collected, so that one failure does
not keep the others from being seen; the report of a nested run ends the line at once.

All definitions here take an `Evaluator` for the parts of a line, and a bound on the number of
rounds of a loop.

## Main definitions

* `runSet`, `runCond`, ...: what each built-in does
* `Builtin.run`: what a built-in does, given its argument text
* `dispatch`: calling a built-in by name with argument text
* `callFunction`: calling a built-in by name with evaluated arguments
* `evalSpan`, `evalSpans`, `evalLine`: the value of a span, of several, and of a line
-/

namespace BracketScript

/-! ### Variables and control -/

/-- Assigns a variable: name, value and type. Commas may stand in the value. -/
def runSet (e : Evaluator) (raw : String) : Action Value := do
  match Brackets.arguments raw with
  | first :: second :: third :: rest =>
    let name := bareName first
    let value := Text.joinWith "," (second :: (third :: rest).dropLast)
    let type := bareName ((third :: rest).getLast (by simp))
    if type = "string" then Action.assign name (.str (← e.text value))
    else if type = "int" then Action.assign name (.int (← e.integer value))
    else if type = "boolean" ∨ type = "bool" then Action.assign name (.bool (← e.truth value))
    else throw (.unknownType type)
    return .pass
  | arguments => throw (.arity "Set" "3" arguments.length)

/-- Evaluates a body if a condition holds. -/
def runCond (e : Evaluator) (raw : String) : Action Value := do
  let (condition, body) ← liftExcept (exactlyTwo "If" raw)
  if ← e.truth condition then
    let _ ← e.line body
  return .pass

/-- Evaluates a body as long as a condition holds, for less than `limit` rounds. -/
def loopFrom (e : Evaluator) (condition body : String) : Nat → Action Unit
  | 0 => Action.cutOff
  | limit + 1 => do
    if ← e.truth condition then
      let _ ← e.line body
      loopFrom e condition body limit
    else pure ()

/-- Evaluates a body as long as a condition holds. -/
def runLoop (e : Evaluator) (limit : Nat) (raw : String) : Action Value := do
  let (condition, body) ← liftExcept (exactlyTwo "For" raw)
  loopFrom e condition body limit
  return .pass

/-! ### Assertions -/

/-- Requires two texts to be the same. -/
def runAssertEquals (e : Evaluator) (raw : String) : Action Value := do
  let (first, second) ← liftExcept (exactlyTwo "AssertEquals" raw)
  let got ← e.text first
  let expected ← e.text second
  if got = expected then return .pass
  else throw (.assertionFailed ("Expected " ++ expected ++ " but got " ++ got))

/-- Requires the first text to contain the second. -/
def runAssertContains (e : Evaluator) (raw : String) : Action Value := do
  let (first, second) ← liftExcept (exactlyTwo "AssertContains" raw)
  let haystack ← e.text first
  let needle ← e.text second
  if Text.contains haystack needle then return .pass
  else throw (.assertionFailed
    ("parameter 0: [" ++ haystack ++ "] does not contain parameter 1: [" ++ needle ++ "]"))

/-- The first two elements at the same place that differ. -/
def firstDifference : List String → List String → Option (String × String)
  | a :: as, b :: bs => if a = b then firstDifference as bs else some (a, b)
  | _, _ => none

/-- Requires two lists to have the same length, and the same elements: at the same places if
`ordered`, at any places otherwise. -/
def compareLists (ordered : Bool) (a b : List String) : Except ScriptError Unit :=
  if a.length ≠ b.length then .error (.assertionFailed "array sizes differ")
  else if ordered then
    match firstDifference a b with
    | some (x, y) => .error (.assertionFailed ("[" ++ x ++ "] does not equal [" ++ y ++ "]"))
    | none => .ok ()
  else match b.find? fun x => !a.contains x with
    | some x => .error (.assertionFailed ("[" ++ x ++ "] was not found in array a"))
    | none =>
      match a.find? fun x => !b.contains x with
      | some x => .error (.assertionFailed ("[" ++ x ++ "] was not found in array b"))
      | none => .ok ()

/-- Requires two lists of texts to be the same, in order or in any order. -/
def runAssertLists (e : Evaluator) (raw : String) : Action Value := do
  let (first, second, third) ← liftExcept (exactlyThree "AssertStringArrEquals" raw)
  let a ← e.text first
  let b ← e.text second
  let ordered ← e.truth third
  liftExcept (compareLists ordered (Text.splitOn listSeparator a) (Text.splitOn listSeparator b))
  return .pass

/-- Requires the last response not to start with an error code, and removes it. -/
def runAssertSuccess : Action Value := do
  let elements := responseElements (← get).env
  Action.remove responseName
  match ← liftExcept elements with
  | [] => throw (.response "response is empty")
  | first :: rest =>
    if Text.hasStart first "-" then
      throw (.assertionFailed
        ("expected success but failed with response: " ++ showList (first :: rest)))
    else return .pass

/-- Requires the last response to start with a given error code. -/
def runAssertFailure (e : Evaluator) (raw : String) : Action Value := do
  let argument ← liftExcept (exactlyOne "AssertFailure" raw)
  let code ← e.text argument
  match ← liftExcept (responseElements (← get).env) with
  | [] => throw (.response "response is empty")
  | first :: rest =>
    if first = code then return .pass
    else throw (.assertionFailed ("expected to fail with error: [" ++ code ++
      "] but got response: " ++ showList (first :: rest)))

/-! ### Responses, files and output -/

/-- The members of the stored response, if it is a JSON object. -/
def responseMembers (env : Environment) : List (String × Json) :=
  match env.response? with
  | some (.str body) =>
    match Json.parse body with
    | .ok (.object members) => members
    | _ => []
  | some (.json members) => members
  | _ => []

/-- A field of the last response, or else the variable of that name. -/
def runResponse (e : Evaluator) (raw : String) : Action Value := do
  let argument ← liftExcept (exactlyOne "Res" raw)
  let field ← e.text argument
  let env := (← get).env
  match Json.member? (responseMembers env) field with
  | some member => return .ofJson member
  | none =>
    match env.get? field with
    | some value => return value
    | none => throw (.missingField field)

/-- Evaluates several arguments to texts. -/
def evalTexts (e : Evaluator) : List String → Action (List String)
  | [] => pure []
  | source :: rest => do
    let text ← e.text source
    let texts ← evalTexts e rest
    return text :: texts

/-- Prints a line: a format and the arguments for its placeholders. -/
def runPrint (e : Evaluator) (raw : String) : Action Value := do
  match ← evalTexts e (Brackets.arguments raw) with
  | [] => return .pass
  | format :: arguments =>
    Action.print (Placeholders.fill format arguments)
    return .pass

/-- Reads a file into a variable: name of the variable and path. -/
def runReadFile (host : Host) (e : Evaluator) (raw : String) : Action Value := do
  let (first, second) ← liftExcept (exactlyTwo "ReadFile" raw)
  let name ← e.text first
  let path ← e.text second
  match host.scripts.read path with
  | .ok data =>
    Action.assign name (.str data)
    return .str data
  | .error error => throw (.io (path ++ ": " ++ error.message))

/-- Waits for a number of seconds, which leaves no trace in the session. -/
def runSleep (e : Evaluator) (raw : String) : Action Value := do
  let argument ← liftExcept (exactlyOne "Sleep" raw)
  let _ ← e.integer argument
  return .pass

/-! ### Outcomes and nested runs -/

/-- Fails with a message: the value of the argument text, or that text if it has no value. -/
def runFail (e : Evaluator) (raw : String) : Action Value := do
  match ← Action.attempt (e.text raw) with
  | .ok message => throw (.fail message)
  | .error _ => throw (.fail (Text.trim raw))

/-- A path as a text literal, unless it has a quote at one of its ends already. -/
def quotedPath (path : String) : String :=
  let cs := path.toList
  if cs.head? = some '"' ∨ cs.getLast? = some '"' then path else "\"" ++ path ++ "\""

/-- Runs a script and gives its report. A path that cannot be evaluated is reported too. -/
def runEvaluate (e : Evaluator) (raw : String) : Action Value := do
  let target := Text.trim raw
  match ← Action.attempt (e.text (quotedPath target)) with
  | .ok path => return .report (← e.run path)
  | .error error =>
    return .report ((Report.ofText target).add (.text target) (.text error.message))

/-! ### Calls and lines -/

/-- What a built-in does, given its argument text. -/
def Builtin.run (host : Host) (e : Evaluator) (limit : Nat) : Builtin → String → Action Value
  | .set, raw => runSet e raw
  | .cond, raw => runCond e raw
  | .loop, raw => runLoop e limit raw
  | .assertEquals, raw => runAssertEquals e raw
  | .assertContains, raw => runAssertContains e raw
  | .assertLists, raw => runAssertLists e raw
  | .assertSuccess, _ => runAssertSuccess
  | .assertFailure, raw => runAssertFailure e raw
  | .post, raw => runPost host e raw
  | .get, raw => runGet host e raw
  | .parallelPost, raw => runParallelPost host e raw
  | .print, raw => runPrint e raw
  | .readFile, raw => runReadFile host e raw
  | .response, raw => runResponse e raw
  | .sleep, raw => runSleep e raw
  | .fail, raw => runFail e raw
  | .pass, _ => return .pass
  | .evaluate, raw => runEvaluate e raw
  | .truth, raw => return .bool (← e.truth raw)

/-- Calls a built-in by name with argument text. -/
def dispatch (host : Host) (e : Evaluator) (limit : Nat) (name raw : String) : Action Value :=
  match Builtin.ofName? name with
  | some builtin => builtin.run host e limit raw
  | none => throw (.functionNotFound name)

/-- Calls a built-in by name with evaluated arguments, which are written as argument text. -/
def callFunction (host : Host) (e : Evaluator) (limit : Nat) (name : String)
    (values : List Value) : Action Value := do
  let (raw, env) := callText (← get).env values
  modify fun s => { s with env := env.set paramsName (.str raw) }
  dispatch host e limit name raw

/-- How expressions are connected to a session. -/
def sessionContext (host : Host) (e : Evaluator) (limit : Nat) : Context Session where
  lookup := Action.lookup
  call := callFunction host e limit

/-- The value of a span: of an expression if it has no brackets, of the call in it otherwise. -/
def evalSpan (host : Host) (e : Evaluator) (limit : Nat) (span : String) : Action Value := do
  if span.toList.any Brackets.isBracket then
    let call ← liftExcept (Call.parse span)
    Action.assign paramsName (.str call.raw)
    dispatch host e limit call.name call.raw
  else Expr.evalText (sessionContext host e limit) span

/-- The value of several spans, after the given failures, the last one first, and the given value of
the span before. A plain value is also kept in a variable. -/
def evalSpans (host : Host) (e : Evaluator) (limit : Nat) :
    List ScriptError → Value → List String → Action Value
  | errors, last, [] =>
    match ScriptError.ofList? errors.reverse with
    | none => pure last
    | some error => throw error
  | errors, last, span :: rest => do
    match ← Action.attempt (evalSpan host e limit span) with
    | .ok (.report tree) => return .report tree
    | .ok (.error message) => evalSpans host e limit (.fail message :: errors) last rest
    | .ok .pass => evalSpans host e limit errors .pass rest
    | .ok value =>
      Action.assign valueName value
      evalSpans host e limit errors value rest
    | .error error => evalSpans host e limit (error :: errors) last rest

/-- The value of a line. -/
def evalLine (host : Host) (e : Evaluator) (limit : Nat) (line : String) : Action Value :=
  evalSpans host e limit [] .pass (Brackets.spans line)

end BracketScript
