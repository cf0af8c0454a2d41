import BracketScript.Exchange

/-!
# Errors of scripts

The ways in which an expression, a built-in or a line of a script fails.

## Main definitions

* `ScriptError`: a failure, or all the failures of one line in order
* `ScriptError.message`: its wording
* `ScriptError.leaves`: the failures that are not collections of others, in order

## Main results

* `ScriptError.messages_eq_map`: the wordings of several errors are those of each
-/

namespace BracketScript

/-- A failure of a script. -/
inductive ScriptError where
  /-- A text that is no expression or call. -/
  | malformed (text : String)
  /-- A call of something that is no built-in. -/
  | functionNotFound (name : String)
  /-- A built-in called with the wrong number of arguments. -/
  | arity (name : String) (expected : String) (got : Nat)
  /-- A value of the wrong type. -/
  | typeMismatch (expected : String) (found : String)
  /-- An assertion that does not hold. -/
  | assertionFailed (text : String)
  /-- A request without a usable response. -/
  | exchange (error : ExchangeError)
  /-- A file that cannot be read. -/
  | io (text : String)
  /-- A type that variables cannot have. -/
  | unknownType (name : String)
  /-- A variable without a value. -/
  | undefinedVariable (name : String)
  /-- A text that is not the JSON value asked for. -/
  | invalidJson (text : String)
  /-- Header fields in the wrong format. -/
  | invalidHeader (format : String)
  /-- Lists of different lengths. -/
  | lengthMismatch (text : String)
  /-- A field that is neither in the response nor a variable. -/
  | missingField (name : String)
  /-- A response that is missing or empty. -/
  | response (text : String)
  /-- An operation without a result. -/
  | expression (text : String)
  /-- A failure that the script asked for, or an error value. -/
  | fail (text : String)
  /-- All failures of one line, in order. -/
  | cascade (errors : List ScriptError)
  deriving Repr, Inhabited

namespace ScriptError

mutual

/-- The wording of an error. -/
def message : ScriptError → String
  | malformed text => "malformed expression: " ++ text
  | functionNotFound name => "function " ++ name ++ " not found"
  | arity name expected got =>
    name ++ " expected " ++ expected ++ " parameter(s) but got: " ++ Text.natText got
  | typeMismatch expected found =>
    "expression did not evaluate to " ++ expected ++ ": " ++ found
  | assertionFailed text => text
  | exchange error => error.message
  | io text => "io error: " ++ text
  | unknownType name => "variableType \"" ++ name ++ "\" does not exist"
  | undefinedVariable name => "undefined variable: " ++ name
  | invalidJson text => "invalid json: " ++ text
  | invalidHeader format => "header is not in the format '" ++ format ++ "'"
  | lengthMismatch text => text
  | missingField name => "field " ++ name ++ " could not be found in the response or environment"
  | response text => text
  | expression text => text
  | fail text => text
  | cascade errors => Text.joinWith ", " (messages errors)

/-- The wordings of several errors. -/
def messages : List ScriptError → List String
  | [] => []
  | e :: es => message e :: messages es

end

mutual

/-- The failures that an error is made of, those of a collection one after the other. -/
def leaves : ScriptError → List ScriptError
  | cascade errors => leavesAll errors
  | e => [e]

/-- The failures that several errors are made of. -/
def leavesAll : List ScriptError → List ScriptError
  | [] => []
  | e :: es => leaves e ++ leavesAll es

end

/-- One error for the failures of a line, if there are any: the only one, or all of them. -/
def ofList? : List ScriptError → Option ScriptError
  | [] => none
  | [e] => some e
  | errors => some (cascade errors)

/-- The wordings of several errors are those of each. -/
theorem messages_eq_map (errors : List ScriptError) : messages errors = errors.map message := by
  induction errors with
  | nil => rfl
  | cons e es ih => simp [messages, ih]

/-- The failures of several errors are those of each. -/
theorem leavesAll_eq_flatMap (errors : List ScriptError) :
    leavesAll errors = errors.flatMap leaves := by
  induction errors with
  | nil => rfl
  | cons e es ih => simp [leavesAll, ih]

end ScriptError

end BracketScript
