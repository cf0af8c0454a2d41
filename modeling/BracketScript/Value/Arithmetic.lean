import BracketScript.Value.Basic

/-!
# Arithmetic and comparison of values

Integers are computed with modulo 2^64, division goes toward zero. Texts are joined by addition, and
take part in the other operations when they can be seen as integers.

## Main definitions

* `Value.Fault`: why an operation has no result
* `Value.add`, `Value.sub`, `Value.mul`, `Value.div`, `Value.rem`, `Value.neg`: the operations
* `Value.compare`: the order of two values
-/

namespace BracketScript.Value

/-- Why an operation has no result. -/
inductive Fault where
  /-- An operand cannot be seen as an integer. -/
  | operands (operator : String) (left right : String)
  /-- Division by zero. -/
  | divisionByZero
  /-- A remainder for the divisor zero. -/
  | moduloByZero
  /-- The operand of a negation cannot be seen as an integer. -/
  | negation (type : String)
  deriving DecidableEq, Repr

/-- The wording of a fault. -/
def Fault.message : Fault → String
  | operands operator left right =>
    "invalid operands for " ++ operator ++ ": " ++ left ++ " and " ++ right
  | divisionByZero => "division by zero"
  | moduloByZero => "modulo by zero"
  | negation type => "cannot negate " ++ type

/-- The two operands as integers. -/
def integers (operator : String) (a b : Value) : Except Fault (Int64 × Int64) :=
  match a.toInt?, b.toInt? with
  | some m, some n => .ok (m, n)
  | _, _ => .error (.operands operator a.typeName b.typeName)

/-- Whether a value is a text. -/
def isText : Value → Bool
  | str _ => true
  | _ => false

/-- The sum of two integers, or the texts of two scalars of which at least one is a text joined. -/
def add (a b : Value) : Except Fault Value :=
  match a, b with
  | int m, int n => .ok (int (m + n))
  | a, b =>
    if (a.isText || b.isText) && a.isScalar && b.isScalar then .ok (str (a.display ++ b.display))
    else (integers "+" a b).map fun (m, n) => int (m + n)

/-- The difference of two integers. -/
def sub (a b : Value) : Except Fault Value :=
  (integers "-" a b).map fun (m, n) => int (m - n)

/-- The product of two integers. -/
def mul (a b : Value) : Except Fault Value :=
  (integers "*" a b).map fun (m, n) => int (m * n)

/-- The quotient of two integers, rounded toward zero. -/
def div (a b : Value) : Except Fault Value :=
  match integers "/" a b with
  | .ok (m, n) => if n = 0 then .error .divisionByZero else .ok (int (m / n))
  | .error fault => .error fault

/-- The remainder of the quotient rounded toward zero. -/
def rem (a b : Value) : Except Fault Value :=
  match integers "%" a b with
  | .ok (m, n) => if n = 0 then .error .moduloByZero else .ok (int (m % n))
  | .error fault => .error fault

/-- The negative of an integer. -/
def neg (a : Value) : Except Fault Value :=
  match a.toInt? with
  | some n => .ok (int (-n))
  | none => .error (.negation a.typeName)

/-- The order of two texts, by code points. -/
def compareText (s t : String) : Ordering :=
  if s < t then .lt else if s = t then .eq else .gt

/-- The order of two integers. -/
def compareInt (m n : Int64) : Ordering :=
  if m < n then .lt else if m = n then .eq else .gt

/-- The order of two values: as integers if both can be seen as integers, by their texts
otherwise. -/
def compare (a b : Value) : Ordering :=
  match a.toInt?, b.toInt? with
  | some m, some n => compareInt m n
  | _, _ => compareText a.display b.display

end BracketScript.Value
