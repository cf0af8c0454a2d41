import BracketScript.Text.Split
import BracketScript.Json.Printer
import BracketScript.Report.Basic

/-!
# Values

The values that expressions of a script evaluate to.

## Main definitions

* `Value`: a value
* `Value.display`: its text
* `Value.typeName`: the name of its type, as messages give it
* `Value.toInt?`, `Value.toBool?`: a value seen as an integer or a truth value
* `Value.ofJson`: the value of a member of a response
-/

namespace BracketScript

/-- A value of a script. -/
inductive Value where
  /-- A text. -/
  | str (s : String)
  /-- An integer of 64 bits. -/
  | int (n : Int64)
  /-- A truth value. -/
  | bool (b : Bool)
  /-- A JSON object, by its members. -/
  | json (members : List (String × Json))
  /-- A failure kept as a value. -/
  | error (message : String)
  /-- The report of a nested run. -/
  | report (tree : Report)
  /-- The result of a step with nothing further to report. -/
  | pass
  deriving Inhabited, Repr

namespace Value

/-- The text of an integer of 64 bits. -/
def intText (n : Int64) : String := Text.intText n.toInt

/-- The text of a truth value. -/
def boolText (b : Bool) : String := if b then "true" else "false"

/-- The text of a value. -/
def display : Value → String
  | str s => s
  | int n => intText n
  | bool b => boolText b
  | json members => (Json.object members).compact
  | error message => message
  | report tree => tree.label.display
  | pass => passText

/-- The name of the type of a value. -/
def typeName : Value → String
  | str _ => "string"
  | int _ => "int"
  | bool _ => "boolean"
  | json _ => "json"
  | error _ => "error"
  | report _ => "report"
  | pass => "pass"

/-- The value is a text, an integer or a truth value. -/
def isScalar : Value → Bool
  | str _ | int _ | bool _ => true
  | _ => false

/-- A value seen as an integer: an integer, or a text that is one between white space. -/
def toInt? : Value → Option Int64
  | int n => some n
  | str s => Text.readInt64? (Text.trim s)
  | _ => none

/-- The truth value that a text stands for. -/
def boolOfText? (s : String) : Option Bool :=
  if s = "true" ∨ s = "TRUE" ∨ s = "True" ∨ s = "1" then some true
  else if s = "false" ∨ s = "FALSE" ∨ s = "False" ∨ s = "0" then some false
  else none

/-- A value seen as a truth value: a truth value, or a text that stands for one between white
space. -/
def toBool? : Value → Option Bool
  | bool b => some b
  | str s => boolOfText? (Text.trim s)
  | _ => none

/-- The value of a member of a response: an integer of 64 bits, a text, a truth value or an object
as such, and anything else by its text. -/
def ofJson : Json → Value
  | .string s => str s
  | .bool b => bool b
  | .number n => match n.toInt64? with
    | some i => int i
    | none => str n.text
  | .object members => json members
  | other => str other.compact

/-- Two values are the same; the two zeros in JSON objects are. -/
def equal : Value → Value → Bool
  | str a, str b => a == b
  | int a, int b => a == b
  | bool a, bool b => a == b
  | json a, json b => Json.equalMembers a b
  | error a, error b => a == b
  | report a, report b => a == b
  | pass, pass => true
  | _, _ => false

end Value

end BracketScript
