import BracketScript.Error
import BracketScript.Expr.Basic
import BracketScript.Expr.Token

/-!
# Parsing expressions

Operators bind, from the loosest to the tightest: `||`, `&&`, comparisons and matches, `+` and `-`,
`*` and `/` and `%`, then the prefix operators. Operators of the same level associate to the left.

A level is parsed by `chain` from the parser of its operands, so that all levels share one
definition; only parentheses and arguments lead back to the loosest level.

## Main definitions

* `Expr.Fault`: why a list of tokens is no expression
* `Expr.chain`: operands joined by operators of one level
* `Expr.ofTokensWithin`: an expression off the front of a list of tokens
* `Expr.parse`: the expression that a whole text is
-/

namespace BracketScript.Expr

/-- Why a list of tokens is no expression. -/
inductive Fault where
  /-- The arguments of a call are not closed. -/
  | unclosedCall (name : String)
  /-- A parenthesis is not closed. -/
  | unclosedGroup
  /-- A character belongs to no token. -/
  | unexpectedCharacter (c : Char)
  /-- An operand is missing at the end. -/
  | empty
  /-- A token stands where an operand should. -/
  | unexpectedToken (t : Token)
  /-- A token follows a complete expression. -/
  | trailingToken (t : Token)
  deriving DecidableEq, Repr

/-- The wording of a fault. -/
def Fault.message : Fault → String
  | unclosedCall name => "expected ')' after args to " ++ name
  | unclosedGroup => "expected ')'"
  | unexpectedCharacter c => "unexpected character '" ++ String.singleton c ++ "'"
  | empty => "empty expression"
  | unexpectedToken t => "unexpected token " ++ t.shown
  | trailingToken t => "unexpected trailing token " ++ t.shown

/-- Parses an expression off the front of a list of tokens. -/
abbrev Parser := List Token → Except Fault (Expr × List Token)

/-- The operator `||`. -/
def orOp? : Token → Option BinaryOp
  | .or => some .or
  | _ => none

/-- The operator `&&`. -/
def andOp? : Token → Option BinaryOp
  | .and => some .and
  | _ => none

/-- The comparisons and matches. -/
def relationOp? : Token → Option BinaryOp
  | .equal => some .eq
  | .notEqual => some .ne
  | .less => some .lt
  | .lessEqual => some .le
  | .greater => some .gt
  | .greaterEqual => some .ge
  | .matching => some .matching
  | .notMatching => some .notMatching
  | _ => none

/-- The operators `+` and `-`. -/
def sumOp? : Token → Option BinaryOp
  | .plus => some .add
  | .minus => some .sub
  | _ => none

/-- The operators `*`, `/` and `%`. -/
def productOp? : Token → Option BinaryOp
  | .star => some .mul
  | .slash => some .div
  | .percent => some .rem
  | _ => none

/-- Continues the expression `left` with at most `count` further operators of one level and their
right operands. -/
def chainFrom (op? : Token → Option BinaryOp) (operand : Parser) : Nat → Expr → Parser
  | 0, left, ts => .ok (left, ts)
  | _ + 1, left, [] => .ok (left, [])
  | count + 1, left, t :: ts =>
    match op? t with
    | none => .ok (left, t :: ts)
    | some op =>
      match operand ts with
      | .ok (right, rest) => chainFrom op? operand count (.binary op left right) rest
      | .error fault => .error fault

/-- Operands joined by operators of one level, which associate to the left. Each operator takes a
token, so there are at most as many as tokens. -/
def chain (op? : Token → Option BinaryOp) (operand : Parser) : Parser := fun ts =>
  match operand ts with
  | .ok (left, rest) => chainFrom op? operand rest.length left rest
  | .error fault => .error fault

/-- Prefix operators and the operand they apply to. -/
def unaries (operand : Parser) : Parser
  | .minus :: ts => (unaries operand ts).map fun (e, rest) => (.unary .neg e, rest)
  | .bang :: ts => (unaries operand ts).map fun (e, rest) => (.unary .not e, rest)
  | ts => operand ts

/-- The further arguments of a call, at most `count` of them, each after a comma; `reversed` holds
the arguments so far, the last one first. -/
def argumentsFrom (expr : Parser) :
    Nat → List Expr → List Token → Except Fault (List Expr × List Token)
  | count + 1, reversed, .comma :: ts =>
    match expr ts with
    | .ok (e, rest) => argumentsFrom expr count (e :: reversed) rest
    | .error fault => .error fault
  | _, reversed, ts => .ok (reversed.reverse, ts)

/-- The arguments of a call whose opening parenthesis has been read, and the closing one. -/
def callArguments (expr : Parser) (name : String) : Parser
  | .rightParen :: ts => .ok (.call name [], ts)
  | ts =>
    match expr ts with
    | .error fault => .error fault
    | .ok (e, rest) =>
      match argumentsFrom expr rest.length [e] rest with
      | .error fault => .error fault
      | .ok (arguments, .rightParen :: rest) => .ok (.call name arguments, rest)
      | .ok _ => .error (.unclosedCall name)

/-- What a name alone stands for: a truth value or a variable. -/
def ofName (name : String) : Expr :=
  if name = "true" then .bool true
  else if name = "false" then .bool false
  else .var name

/-- A literal, a name, a call or an expression in parentheses. -/
def primary (expr : Parser) : Parser
  | .int n :: ts => .ok (.int n, ts)
  | .str s :: ts => .ok (.str s, ts)
  | .ident name :: .leftParen :: ts => callArguments expr name ts
  | .ident name :: ts => .ok (ofName name, ts)
  | .leftParen :: ts =>
    match expr ts with
    | .error fault => .error fault
    | .ok (e, .rightParen :: rest) => .ok (e, rest)
    | .ok _ => .error .unclosedGroup
  | .unknown c :: _ => .error (.unexpectedCharacter c)
  | t :: _ => .error (.unexpectedToken t)
  | [] => .error .empty

/-- An expression of the loosest level, from the parser of what stands between parentheses. -/
def levels (expr : Parser) : Parser :=
  chain orOp? (chain andOp? (chain relationOp? (chain sumOp? (chain productOp?
    (unaries (primary expr))))))

/-- An expression off the front of a list of tokens, with parentheses nested less than `depth`
deep. -/
def ofTokensWithin : Nat → Parser
  | 0, _ => .error .empty
  | depth + 1, ts => levels (fun rest => ofTokensWithin depth rest) ts

/-- The expression that a list of tokens is. A parenthesis takes a token, so that nesting is never
deeper than the list is long. -/
def ofTokens (ts : List Token) : Except Fault Expr :=
  match ofTokensWithin ts.length ts with
  | .error fault => .error fault
  | .ok (e, []) => .ok e
  | .ok (_, t :: _) => .error (.trailingToken t)

/-- The expression that a text is. -/
def parse (source : String) : Except ScriptError Expr :=
  (ofTokens (Token.scan source)).mapError fun fault =>
    .malformed (Text.trim source ++ ": " ++ fault.message)

end BracketScript.Expr
