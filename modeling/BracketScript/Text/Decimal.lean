import BracketScript.Text.Letter

/-!
# Integers in decimal

Reading and writing integers of 64 bits in decimal. A number is an optional sign and at least one
ASCII digit; leading zeros are allowed and a number out of range is refused.

## Main definitions

* `readUInt64`: a natural number below 2^64, or why the text is none
* `readInt64?`: an integer from -2^63 to 2^63 - 1
* `natText`, `intText`: the decimal text of a number
-/

namespace BracketScript.Text

/-- Why a text is not a number in range. -/
inductive DecimalFault where
  /-- There is no character at all. -/
  | empty
  /-- Some character, or a sign alone, is not a digit. -/
  | invalidDigit
  /-- The number exceeds the largest one allowed. -/
  | tooLarge
  deriving DecidableEq, Repr

/-- The wording of a fault. -/
def DecimalFault.message : DecimalFault → String
  | empty => "cannot parse integer from empty string"
  | invalidDigit => "invalid digit found in string"
  | tooLarge => "number too large to fit in target type"

/-- The largest integer of 64 bits with a sign. -/
def maxInt64 : Nat := 0x7fffffffffffffff

/-- The largest integer of 64 bits without a sign. -/
def maxUInt64 : Nat := 0xffffffffffffffff

/-- An integer that 64 bits hold, with a sign. -/
def isInt64 (n : Int) : Bool := -(maxInt64 : Int) - 1 ≤ n && n ≤ (maxInt64 : Int)

namespace Chars

/-- The value of an ASCII digit. -/
def digitValue (c : Char) : Nat := c.toNat - 48

/-- The number read so far, extended by one more character; it may not exceed `limit`. -/
def addDigit (limit : Nat) (n : Nat) (c : Char) : Except DecimalFault Nat :=
  if isAsciiDigit c then
    let next := n * 10 + digitValue c
    if next ≤ limit then .ok next else .error .tooLarge
  else .error .invalidDigit

/-- The number that the digits `cs` continue, which may not exceed `limit`. -/
def readDigits (limit : Nat) : Nat → List Char → Except DecimalFault Nat
  | n, [] => .ok n
  | n, c :: cs =>
    match addDigit limit n c with
    | .ok next => readDigits limit next cs
    | .error fault => .error fault

/-- A non-empty row of digits as a number of at most `limit`; a row that is only a sign was no
number. -/
def readMagnitude (limit : Nat) (cs : List Char) : Except DecimalFault Nat :=
  if cs.isEmpty then .error .invalidDigit else readDigits limit 0 cs

/-- A natural number of at most `limit`, with an optional plus sign. -/
def readNat (limit : Nat) : List Char → Except DecimalFault Nat
  | [] => .error .empty
  | '+' :: cs => readMagnitude limit cs
  | cs => readMagnitude limit cs

/-- An integer from -2^63 to 2^63 - 1, with an optional sign. -/
def readInt? : List Char → Option Int
  | '-' :: cs => (readMagnitude (maxInt64 + 1) cs).toOption.map fun n => -(n : Int)
  | '+' :: cs => (readMagnitude maxInt64 cs).toOption.map Int.ofNat
  | cs => (readMagnitude maxInt64 cs).toOption.map Int.ofNat

/-- The decimal digits of a natural number. -/
def ofNat (n : Nat) : List Char := Nat.toDigits 10 n

/-- The decimal text of an integer. -/
def ofInt : Int → List Char
  | .ofNat n => ofNat n
  | .negSucc n => '-' :: ofNat (n + 1)

end Chars

/-- A natural number below 2^64, with an optional plus sign. -/
def readUInt64 (s : String) : Except DecimalFault Nat :=
  Chars.readNat maxUInt64 s.toList

/-- An integer of 64 bits, with an optional sign. -/
def readInt64? (s : String) : Option Int64 :=
  (Chars.readInt? s.toList).map Int64.ofInt

/-- The decimal text of a natural number. -/
def natText (n : Nat) : String := String.ofList (Chars.ofNat n)

/-- The decimal text of an integer. -/
def intText (n : Int) : String := String.ofList (Chars.ofInt n)

end BracketScript.Text
