import BracketScript.Json.Printer
import BracketScript.Text.Decimal

/-!
# Expressions

The expressions that arguments and plain lines are made of: literals, variables, operators and
calls.

## Main definitions

* `UnaryOp`, `BinaryOp`: the operators
* `Expr`: an expression
* `Expr.outline`: an expression with each operator in front of its operands
-/

namespace BracketScript

/-- An operator with one operand. -/
inductive UnaryOp where
  | neg
  | not
  deriving DecidableEq, Repr, Inhabited

/-- An operator with two operands. -/
inductive BinaryOp where
  | add
  | sub
  | mul
  | div
  | rem
  | eq
  | ne
  | lt
  | le
  | gt
  | ge
  | and
  | or
  | matching
  | notMatching
  deriving DecidableEq, Repr, Inhabited

/-- An expression. -/
inductive Expr where
  | int (n : Int64)
  | str (s : String)
  | bool (b : Bool)
  | var (name : String)
  | unary (op : UnaryOp) (operand : Expr)
  | binary (op : BinaryOp) (left right : Expr)
  | call (name : String) (arguments : List Expr)
  deriving Repr, Inhabited

/-- The name of an operator in outlines. -/
def UnaryOp.name : UnaryOp → String
  | neg => "neg"
  | not => "not"

/-- The name of an operator in outlines. -/
def BinaryOp.name : BinaryOp → String
  | add => "add"
  | sub => "sub"
  | mul => "mul"
  | div => "div"
  | rem => "rem"
  | eq => "eq"
  | ne => "ne"
  | lt => "lt"
  | le => "le"
  | gt => "gt"
  | ge => "ge"
  | and => "and"
  | or => "or"
  | matching => "match"
  | notMatching => "nomatch"

namespace Expr

mutual

/-- An expression as nested lists, each operator in front of its operands, texts and names as JSON
strings. -/
def outline : Expr → String
  | int n => "(int " ++ Text.intText n.toInt ++ ")"
  | str s => "(str " ++ Json.quote s ++ ")"
  | bool b => "(bool " ++ (if b then "true" else "false") ++ ")"
  | var name => "(var " ++ Json.quote name ++ ")"
  | unary op e => "(" ++ op.name ++ " " ++ outline e ++ ")"
  | binary op l r => "(" ++ op.name ++ " " ++ outline l ++ " " ++ outline r ++ ")"
  | call name arguments => "(call " ++ Json.quote name ++ outlineAll arguments ++ ")"

/-- The outlines of several expressions, each after a space. -/
def outlineAll : List Expr → String
  | [] => ""
  | e :: es => " " ++ outline e ++ outlineAll es

end

end Expr

end BracketScript
