import BracketScript.Environment
import BracketScript.Expr.Eval
import BracketScript.Scripts.Store

/-!
# Sessions

A session is the state of one run of scripts: its variables, what has been printed and sent, and the
targets that are being run. What a session can reach outside of itself is its host.

Evaluation is given as one step over an `Evaluator` for the parts, so that the recursion through
lines, arguments and nested runs is tied in one place.

## Main definitions

* `Host`: what answers requests and where scripts are
* `Session`: the state of a run
* `Action`: a computation on sessions
* `Evaluator`: how lines are evaluated and targets are run
* `Evaluator.text`, `Evaluator.integer`, `Evaluator.truth`: evaluation to a given type
-/

namespace BracketScript

/-- What a session can reach outside of itself. -/
structure Host where
  /-- What answers requests. -/
  transport : Transport
  /-- Where the scripts are. -/
  scripts : ScriptStore

/-- The state of a run. -/
structure Session where
  /-- The variables. -/
  env : Environment := .empty
  /-- The lines printed so far. -/
  output : Array String := #[]
  /-- The requests sent so far. -/
  sent : Array Sent := #[]
  /-- The targets that are being run, the innermost first. -/
  active : List String := []
  deriving Inhabited

/-- A computation on sessions. -/
abbrev Action := Script Session

namespace Action

/-- The computation that is cut off. -/
def cutOff {α : Type} : Action α := fun _ => none

/-- Assigns a variable. -/
def assign (name : String) (value : Value) : Action Unit :=
  modify fun s => { s with env := s.env.set name value }

/-- Removes a variable. -/
def remove (name : String) : Action Unit :=
  modify fun s => { s with env := s.env.erase name }

/-- The value of a variable. -/
def lookup (name : String) : Action (Option Value) := do
  return (← get).env.get? name

/-- Prints a line. -/
def print (line : String) : Action Unit :=
  modify fun s => { s with output := s.output.push line }

/-- Sends a request; `simultaneous` tells that it is one of several sent at the same time. -/
def send (host : Host) (request : Request) (simultaneous : Bool) :
    Action (Except ExchangeError String) := do
  let s ← get
  set { s with sent := s.sent.push ⟨request, simultaneous⟩ }
  return host.transport (s.sent.toList.map (·.request)) request

/-- The result of a computation, an error included. -/
def attempt {α : Type} (x : Action α) : Action (Except ScriptError α) := fun s =>
  (x s).map fun (result, s) => (.ok result, s)

end Action

/-- How lines are evaluated and targets are run. -/
structure Evaluator where
  /-- The value of a line or of an argument. -/
  line : String → Action Value
  /-- The report of running a file or directory. -/
  run : String → Action Report

/-- The error for a value of the wrong type. A text is shown, any other value by its type. -/
def mismatch (expected : String) (found : Value) : ScriptError :=
  .typeMismatch expected <| match found with
    | .str s => "\"" ++ s ++ "\""
    | other => other.typeName

/-- A value as text: that of a scalar or of a JSON object. -/
def Value.asText (v : Value) : Except ScriptError String :=
  match v with
  | .str _ | .int _ | .bool _ | .json _ => .ok v.display
  | other => .error (mismatch "a string" other)

/-- A value as an integer: an integer, or a text that is one. -/
def Value.asInteger (v : Value) : Except ScriptError Int64 :=
  match v.toInt? with
  | some n => .ok n
  | none => .error (mismatch "an int" v)

/-- A value as a truth value: a truth value, or a text that stands for one. -/
def Value.asTruth (v : Value) : Except ScriptError Bool :=
  match v.toBool? with
  | some b => .ok b
  | none => .error (mismatch "a boolean" v)

namespace Evaluator

/-- Evaluates a text to a text. -/
def text (e : Evaluator) (source : String) : Action String := do
  liftExcept (← e.line source).asText

/-- Evaluates a text to an integer. -/
def integer (e : Evaluator) (source : String) : Action Int64 := do
  liftExcept (← e.line source).asInteger

/-- Evaluates a text to a truth value. -/
def truth (e : Evaluator) (source : String) : Action Bool := do
  liftExcept (← e.line source).asTruth

end Evaluator

end BracketScript
