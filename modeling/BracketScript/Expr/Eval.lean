import BracketScript.Expr.Parser
import BracketScript.Regex.Search
import BracketScript.Value.Arithmetic

/-!
# Evaluating expressions

An expression is evaluated in a context that knows variables and functions. Evaluation may change
the state of the context, keeps the changes of a failed evaluation, and may be cut off.

## Main definitions

* `Script`: computations on a state that give a value, an error, or are cut off
* `Context`: how variables are looked up and functions are called
* `BinaryOp.apply`, `UnaryOp.apply`: the operators on values
* `Expr.eval`: the value of an expression
-/

namespace BracketScript

/-- A computation on states of type `σ`: a value or an error, and the state it leaves. There is no
outcome if the computation is cut off. -/
abbrev Script (σ : Type) := ExceptT ScriptError (StateT σ Option)

/-- How expressions are connected to a state: looking up a variable and calling a function. -/
structure Context (σ : Type) where
  /-- The value of a variable, if it has one. -/
  lookup : String → Script σ (Option Value)
  /-- The value of a function for given arguments. -/
  call : String → List Value → Script σ Value

/-- A value seen as a truth value, where one is required. -/
def Value.truth (v : Value) : Except ScriptError Bool :=
  match v.toBool? with
  | some b => .ok b
  | none => .error (.typeMismatch "a boolean" v.typeName)

/-- Whether the text of the second value, as a pattern, matches the text of the first. -/
def Value.matchesPattern (text pattern : Value) : Except ScriptError Bool :=
  (Regex.search pattern.display text.display).mapError fun report =>
    .expression ("invalid regex: " ++ report)

/-- The result of an arithmetic operation as that of an expression. -/
def ofArithmetic (result : Except Value.Fault Value) : Except ScriptError Value :=
  result.mapError fun fault => .expression fault.message

/-- The value of an operator with one operand. -/
def UnaryOp.apply : UnaryOp → Value → Except ScriptError Value
  | neg, v => ofArithmetic v.neg
  | not, v => v.truth.map fun b => .bool !b

/-- The value of an operator with two operands. -/
def BinaryOp.apply (op : BinaryOp) (a b : Value) : Except ScriptError Value :=
  match op with
  | add => ofArithmetic (a.add b)
  | sub => ofArithmetic (a.sub b)
  | mul => ofArithmetic (a.mul b)
  | div => ofArithmetic (a.div b)
  | rem => ofArithmetic (a.rem b)
  | eq => .ok (.bool (a.compare b == .eq))
  | ne => .ok (.bool (a.compare b != .eq))
  | lt => .ok (.bool (a.compare b == .lt))
  | le => .ok (.bool (a.compare b != .gt))
  | gt => .ok (.bool (a.compare b == .gt))
  | ge => .ok (.bool (a.compare b != .lt))
  | and => do return .bool (← (do if ← a.truth then b.truth else return false))
  | or => do return .bool (← (do if ← a.truth then return true else b.truth))
  | matching => (a.matchesPattern b).map .bool
  | notMatching => (a.matchesPattern b).map fun m => .bool !m

namespace Expr

mutual

/-- The value of an expression. Operands are evaluated from left to right, and the right operand of
`&&` and `||` only if the left one does not decide. -/
def eval {σ : Type} (ctx : Context σ) : Expr → Script σ Value
  | int n => pure (.int n)
  | str s => pure (.str s)
  | bool b => pure (.bool b)
  | var name => do
    match ← ctx.lookup name with
    | some v => pure v
    | none => throw (.undefinedVariable name)
  | unary op e => do
    let v ← eval ctx e
    liftExcept (op.apply v)
  | binary .and l r => do
    if ← liftExcept (← eval ctx l).truth then
      return .bool (← liftExcept (← eval ctx r).truth)
    else return .bool false
  | binary .or l r => do
    if ← liftExcept (← eval ctx l).truth then return .bool true
    else return .bool (← liftExcept (← eval ctx r).truth)
  | binary op l r => do
    let a ← eval ctx l
    let b ← eval ctx r
    liftExcept (op.apply a b)
  | call name arguments => do
    let values ← evalAll ctx arguments
    ctx.call name values

/-- The values of several expressions, from left to right. -/
def evalAll {σ : Type} (ctx : Context σ) : List Expr → Script σ (List Value)
  | [] => pure []
  | e :: es => do
    let v ← eval ctx e
    let vs ← evalAll ctx es
    return v :: vs

end

/-- The value of an expression given as text. -/
def evalText {σ : Type} (ctx : Context σ) (source : String) : Script σ Value := do
  let e ← liftExcept (parse source)
  eval ctx e

end Expr

end BracketScript
