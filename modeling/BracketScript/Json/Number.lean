import BracketScript.Text.Decimal

/-!
# Numbers of JSON texts

A number is an integer of 64 bits, with or without sign, or a binary floating-point number of 64
bits. Floating-point numbers are written with the fewest digits that read back as the same number.

## Main definitions

* `Binary64`: a floating-point number, given by its bits
* `Binary64.shortest`: the digits and the power of ten of its shortest decimal form
* `Binary64.text`: how it is written
* `Binary64.ofDecimal?`: the number a significand and a power of ten are read as
* `Number`: an integer or a floating-point number
-/

namespace BracketScript

/-- A floating-point number of 64 bits that is neither infinite nor undefined. -/
structure Binary64 where
  /-- Sign, exponent and fraction, from the highest bit to the lowest. -/
  bits : UInt64
  deriving DecidableEq, Repr, Inhabited

namespace Binary64

/-- The number is negative, or the negative zero. -/
def isNegative (x : Binary64) : Bool := x.bits >>> 63 == 1

/-- The bits of the exponent. -/
def exponentBits (x : Binary64) : Nat := ((x.bits >>> 52) &&& 0x7ff).toNat

/-- The bits of the fraction. -/
def fraction (x : Binary64) : Nat := (x.bits &&& 0xfffffffffffff).toNat

/-- The integer `m` of the absolute value `m * 2 ^ q`. -/
def significand (x : Binary64) : Nat :=
  if x.exponentBits = 0 then x.fraction else x.fraction + 0x10000000000000

/-- The power `q` of the absolute value `m * 2 ^ q`. -/
def power (x : Binary64) : Int := (max x.exponentBits 1 : Nat) - 1075

/-- Zero, of either sign. -/
def isZero (x : Binary64) : Bool := x.bits &&& 0x7fffffffffffffff == 0

/-- Numerically equal: the two zeros are equal. -/
def equal (x y : Binary64) : Bool := x.bits == y.bits || (x.isZero && y.isZero)

/-- `2 ^ p` or `10 ^ p` as a fraction of natural numbers. -/
def powerRatio (base : Nat) (p : Int) : Nat × Nat :=
  if 0 ≤ p then (Nat.pow base p.toNat, 1) else (1, Nat.pow base (-p).toNat)

/-- The multiple `t` of `10 ^ p` nearest to the absolute value of `x`, if some multiple of `10 ^ p`
reads back as that value. A multiple reads back when it lies between the midpoints to the
neighbouring numbers, ends included for an even significand; the lower neighbour is twice as near
when the significand is a power of two. -/
def onGrid? (x : Binary64) (p : Int) : Option Nat :=
  let m := x.significand
  let mid := 4 * m
  let low := if x.fraction = 0 ∧ 1 < x.exponentBits then mid - 1 else mid - 2
  let high := mid + 2
  let (binaryNum, binaryDen) := powerRatio 2 (x.power - 2)
  let (decimalNum, decimalDen) := powerRatio 10 p
  let unit := decimalNum * binaryDen
  let scale := binaryNum * decimalDen
  let below := mid * scale / unit
  let hits (t : Nat) : Bool :=
    if m % 2 = 0 then low * scale ≤ t * unit && t * unit ≤ high * scale
    else low * scale < t * unit && t * unit < high * scale
  let toBelow := mid * scale - below * unit
  let toAbove := (below + 1) * unit - mid * scale
  match hits below && below != 0, hits (below + 1) with
  | true, true =>
    if toBelow < toAbove then some below
    else if toAbove < toBelow then some (below + 1)
    else if below % 2 = 0 then some below else some (below + 1)
  | true, false => some below
  | false, true => some (below + 1)
  | false, false => none

/-- The coarsest decimal grid from `10 ^ p` downwards that holds a number read back as `x`, tried
for `count` grids. -/
def shortestFrom (x : Binary64) : Nat → Int → Nat × Int
  | 0, p => (0, p)
  | count + 1, p =>
    match x.onGrid? p with
    | some t => (t, p)
    | none => x.shortestFrom count (p - 1)

/-- The shortest decimal form `t * 10 ^ p` of the absolute value of `x`; of several, the one nearest
to it. -/
def shortest (x : Binary64) : Nat × Int :=
  x.shortestFrom 640 308

/-- Digits with a decimal point after the first `whole` of them, and at least one digit on either
side of it. -/
def positional (digits : List Char) (whole : Int) : List Char :=
  if whole ≤ 0 then
    ['0', '.'] ++ List.replicate (-whole).toNat '0' ++ digits
  else
    let n := whole.toNat
    if digits.length ≤ n then
      digits ++ List.replicate (n - digits.length) '0' ++ ['.', '0']
    else digits.take n ++ ['.'] ++ digits.drop n

/-- Digits with a decimal point after the first one, if more follow, and the power of ten with its
sign. -/
def scientific (digits : List Char) (exponent : Int) : List Char :=
  let mantissa := match digits with
    | d :: e :: rest => d :: '.' :: e :: rest
    | short => short
  let sign := if exponent < 0 then '-' else '+'
  mantissa ++ ['e', sign] ++ Text.Chars.ofNat exponent.natAbs

/-- How a floating-point number is written: with the fewest digits, positionally for powers of ten
from -5 to 15 and in scientific form beyond. -/
def text (x : Binary64) : String :=
  let sign := if x.isNegative then ['-'] else []
  if x.isZero then String.ofList (sign ++ ['0', '.', '0'])
  else
    let (t, p) := x.shortest
    let digits := Text.Chars.ofNat t
    let exponent := p + digits.length - 1
    let body :=
      if -5 ≤ exponent ∧ exponent ≤ 15 then positional digits (exponent + 1)
      else scientific digits exponent
    String.ofList (sign ++ body)

/-- The power `10 ^ n`, rounded to the nearest floating-point number. -/
def tenTo (n : Nat) : Float := Float.ofScientific 1 false n

/-- Divides by `10 ^ n`, in steps of `10 ^ 308` while `n` is larger than that; `count` bounds the
steps, of which three bring every number to zero. -/
def divideByTens : Nat → Float → Nat → Float
  | 0, f, _ => f
  | count + 1, f, n =>
    if n ≤ 308 then f / tenTo n
    else if f == 0 then f
    else divideByTens count (f / tenTo 308) (n - 308)

/-- The number that `significand * 10 ^ exponent` is read as: the significand is rounded first, then
the product or quotient with the power of ten. There is none when the result is too large. -/
def ofDecimal? (negative : Bool) (significand : Nat) (exponent : Int) : Option Binary64 :=
  let f := significand.toUInt64.toFloat
  let magnitude : Option Float :=
    if exponent < 0 then some (divideByTens 4 f (-exponent).toNat)
    else if exponent ≤ 308 then
      let g := f * tenTo exponent.toNat
      if g.isInf then none else some g
    else if f == 0 then some f
    else none
  magnitude.map fun g => ⟨(if negative then -g else g).toBits⟩

/-- The positive or the negative zero. -/
def zero (negative : Bool) : Binary64 := ⟨if negative then 0x8000000000000000 else 0⟩

end Binary64

/-- A number of a JSON text. -/
inductive Number where
  /-- An integer from -2^63 to 2^64 - 1. -/
  | integer (n : Int)
  /-- Any other number, rounded. -/
  | binary (x : Binary64)
  deriving DecidableEq, Repr, Inhabited

namespace Number

/-- Two numbers are equal when they are of the same kind and numerically equal. -/
def equal : Number → Number → Bool
  | integer n, integer m => n == m
  | binary x, binary y => x.equal y
  | _, _ => false

/-- How a number is written. -/
def text : Number → String
  | integer n => Text.intText n
  | binary x => x.text

/-- The number as a signed integer of 64 bits, if it is an integer in that range. -/
def toInt64? : Number → Option Int64
  | integer n => if Text.isInt64 n then some (Int64.ofInt n) else none
  | binary _ => none

end Number

end BracketScript
