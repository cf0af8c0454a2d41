import BracketScript.Json.Fault
import BracketScript.Json.Basic

/-!
# Reading JSON texts

A reader takes the bytes of a JSON text and gives the value and the bytes after it, or the first
fault. Arrays and objects may be nested 127 deep.

## Main definitions

* `Json.Reader`: what reads a value off the front of a text
* `Json.readString`, `Json.readNumber`, `Json.readValue`: readers of the parts of a text
* `Json.parse`: the value of a whole text
-/

namespace BracketScript.Json

/-- Reads a value off the front of a text: the value and the bytes after it, or what is wrong. -/
abbrev Reader (α : Type) := Bytes → Except Fault (α × Bytes)

/-- A byte that may stand between the parts of a text: a space, tab, line feed or carriage
return. -/
def isGap (b : UInt8) : Bool := b == 0x20 || b == 0x0a || b == 0x09 || b == 0x0d

/-- The text without the gap at its front. -/
def skipGap (bytes : Bytes) : Bytes := bytes.dropWhile isGap

/-- A byte that is an ASCII digit. -/
def isDigitByte (b : UInt8) : Bool := 0x30 ≤ b && b ≤ 0x39

/-- The value of a digit. -/
def digitOf (b : UInt8) : Nat := b.toNat - 48

/-- Reads the rest of one of the words `null`, `true` and `false`. -/
def readIdent (word : Bytes) (rest : Bytes) : Except Fault Bytes :=
  match word, rest with
  | [], rest => .ok rest
  | _ :: _, [] => .error (.before .endInValue [])
  | w :: word, b :: rest =>
    if w = b then readIdent word rest else .error (.before .expectedIdent rest)

/-! ### Strings -/

/-- The value of a hexadecimal digit. -/
def hexValue? (b : UInt8) : Option Nat :=
  if isDigitByte b then some (digitOf b)
  else if 0x61 ≤ b && b ≤ 0x66 then some (b.toNat - 87)
  else if 0x41 ≤ b && b ≤ 0x46 then some (b.toNat - 55)
  else none

/-- The value of four hexadecimal digits. -/
def hexQuad? (a b c d : UInt8) : Option Nat := do
  return (((← hexValue? a) * 16 + (← hexValue? b)) * 16 + (← hexValue? c)) * 16 + (← hexValue? d)

/-- The character that a one-letter escape stands for. -/
def shortEscape? (b : UInt8) : Option UInt8 :=
  if b == 0x22 then some 0x22
  else if b == 0x5c then some 0x5c
  else if b == 0x2f then some 0x2f
  else if b == 0x62 then some 0x08
  else if b == 0x66 then some 0x0c
  else if b == 0x6e then some 0x0a
  else if b == 0x72 then some 0x0d
  else if b == 0x74 then some 0x09
  else none

/-- The bytes of the character of a code point, before `rest` in reverse order. -/
def pushCodePoint (n : Nat) (reversed : Bytes) : Bytes :=
  (Bytes.ofString (String.singleton (Char.ofNat n))).reverse ++ reversed

/-- Reads a string whose opening quote has been read; `reversed` holds the bytes of the string so
far, the last one first. -/
def readStringFrom (reversed : Bytes) : Reader String
  | [] => .error (.before .endInString [])
  | b :: rest =>
    if b = 0x22 then
      match Bytes.toString? reversed.reverse with
      | some s => .ok (s, rest)
      | none => .error (.before .invalidCodePoint (b :: rest))
    else if b < 0x20 then .error (.before .controlCharacter rest)
    else if b ≠ 0x5c then readStringFrom (b :: reversed) rest
    else match rest with
      | [] => .error (.before .endInString [])
      | e :: rest =>
        if e ≠ 0x75 then
          match shortEscape? e with
          | some c => readStringFrom (c :: reversed) rest
          | none => .error (.before .invalidEscape rest)
        else match rest with
          | h1 :: h2 :: h3 :: h4 :: rest =>
            match hexQuad? h1 h2 h3 h4 with
            | none => .error (.before .invalidEscape rest)
            | some n =>
              if 0xdc00 ≤ n && n ≤ 0xdfff then .error (.before .loneSurrogate rest)
              else if n < 0xd800 || 0xdbff < n then readStringFrom (pushCodePoint n reversed) rest
              else match rest with
                | [] => .error (.before .endInString [])
                | s :: rest =>
                  if s ≠ 0x5c then .error (.before .endOfHexEscape rest)
                  else match rest with
                    | [] => .error (.before .endInString [])
                    | u :: rest =>
                      if u ≠ 0x75 then .error (.before .endOfHexEscape rest)
                      else match rest with
                        | t1 :: t2 :: t3 :: t4 :: rest =>
                          match hexQuad? t1 t2 t3 t4 with
                          | none => .error (.before .invalidEscape rest)
                          | some m =>
                            if m < 0xdc00 || 0xdfff < m then .error (.before .loneSurrogate rest)
                            else
                              readStringFrom
                                (pushCodePoint
                                  ((n - 0xd800) * 0x400 + (m - 0xdc00) + 0x10000) reversed)
                                rest
                        | _ => .error (.before .endInString [])
          | _ => .error (.before .endInString [])

/-- Reads a string whose opening quote has been read. -/
def readString : Reader String := readStringFrom []

/-! ### Numbers -/

/-- The largest natural number of 64 bits. -/
def maxSignificand : Nat := Text.maxUInt64

/-- The largest exponent that is kept. -/
def maxExponent : Nat := 0x7fffffff

/-- A floating-point number with the given significand and power of ten. -/
def finishBinary (negative : Bool) (significand : Nat) (exponent : Int) : Reader Number :=
  fun rest =>
    match Binary64.ofDecimal? negative significand exponent with
    | some x => .ok (.binary x, rest)
    | none => .error (.before .numberOutOfRange rest)

/-- Reads the further digits of an exponent. An exponent beyond all bounds makes the number zero if
it is negative or the significand is zero, and too large otherwise. -/
def readExponentDigits (negative : Bool) (significand : Nat) (start : Int) (down : Bool)
    (exponent : Nat) : Reader Number
  | [] => finishBinary negative significand (if down then start - exponent else start + exponent) []
  | b :: rest =>
    if isDigitByte b then
      if exponent * 10 + digitOf b ≤ maxExponent then
        readExponentDigits negative significand start down (exponent * 10 + digitOf b) rest
      else if significand ≠ 0 && !down then .error (.before .numberOutOfRange rest)
      else .ok (.binary (Binary64.zero negative), rest.dropWhile isDigitByte)
    else
      finishBinary negative significand (if down then start - exponent else start + exponent)
        (b :: rest)

/-- Reads the first digit of an exponent whose sign has been read. -/
def readExponentStart (negative : Bool) (significand : Nat) (start : Int) (down : Bool) :
    Reader Number
  | [] => .error (.before .endInValue [])
  | b :: rest =>
    if isDigitByte b then readExponentDigits negative significand start down (digitOf b) rest
    else .error (.before .invalidNumber rest)

/-- Reads an exponent whose letter has been read; `start` is the power of ten so far. -/
def readExponent (negative : Bool) (significand : Nat) (start : Int) : Reader Number
  | 0x2b :: rest => readExponentStart negative significand start false rest
  | 0x2d :: rest => readExponentStart negative significand start true rest
  | rest => readExponentStart negative significand start false rest

/-- Ends a number whose digits have been read: with an exponent, or here. -/
def finishDecimal (negative : Bool) (significand : Nat) (exponent : Int) : Reader Number
  | [] => finishBinary negative significand exponent []
  | b :: rest =>
    if b = 0x65 ∨ b = 0x45 then readExponent negative significand exponent rest
    else finishBinary negative significand exponent (b :: rest)

/-- Reads the digits after a decimal point. Digits that the significand has no room for are
dropped; `any` tells whether there has been a digit. -/
def readFraction (negative : Bool) (significand : Nat) (exponent : Int) (any : Bool) :
    Reader Number
  | [] =>
    if any then finishDecimal negative significand exponent []
    else .error (.before .endInValue [])
  | b :: rest =>
    if isDigitByte b then
      if significand * 10 + digitOf b ≤ maxSignificand then
        readFraction negative (significand * 10 + digitOf b) (exponent - 1) true rest
      else finishDecimal negative significand exponent (rest.dropWhile isDigitByte)
    else if any then finishDecimal negative significand exponent (b :: rest)
    else .error (.on .invalidNumber (b :: rest))

/-- Reads the digits of an integer that the significand has no room for: each raises the power of
ten. -/
def readLongInteger (negative : Bool) (significand : Nat) (exponent : Nat) : Reader Number
  | [] => finishBinary negative significand exponent []
  | b :: rest =>
    if isDigitByte b then readLongInteger negative significand (exponent + 1) rest
    else if b = 0x2e then readFraction negative significand exponent false rest
    else finishDecimal negative significand exponent (b :: rest)

/-- An integer whose digits have been read. The negative zero and integers below -2^63 are
floating-point numbers. -/
def finishInteger (negative : Bool) (significand : Nat) (rest : Bytes) :
    Except Fault (Number × Bytes) :=
  if !negative then .ok (.integer significand, rest)
  else if significand = 0 ∨ Text.maxInt64 + 1 < significand then
    finishBinary true significand 0 rest
  else .ok (.integer (-significand), rest)

/-- Reads what may follow the digits of an integer. -/
def readAfterInteger (negative : Bool) (significand : Nat) : Reader Number
  | [] => finishInteger negative significand []
  | b :: rest =>
    if b = 0x2e then readFraction negative significand 0 false rest
    else if b = 0x65 ∨ b = 0x45 then readExponent negative significand 0 rest
    else finishInteger negative significand (b :: rest)

/-- Reads the further digits of an integer. -/
def readInteger (negative : Bool) (significand : Nat) : Reader Number
  | [] => readAfterInteger negative significand []
  | b :: rest =>
    if isDigitByte b then
      if significand * 10 + digitOf b ≤ maxSignificand then
        readInteger negative (significand * 10 + digitOf b) rest
      else readLongInteger negative significand 0 (b :: rest)
    else readAfterInteger negative significand (b :: rest)

/-- Reads a number whose sign has been read. A leading zero stands alone. -/
def readNumber (negative : Bool) : Reader Number
  | [] => .error (.before .endInValue [])
  | b :: rest =>
    if b = 0x30 then
      match rest with
      | [] => readAfterInteger negative 0 []
      | c :: _ =>
        if isDigitByte c then .error (.on .invalidNumber rest) else readAfterInteger negative 0 rest
    else if isDigitByte b then readInteger negative (digitOf b) rest
    else .error (.before .invalidNumber rest)

/-! ### Arrays, objects and values -/

/-- Reads the further items of an array, each after a comma, and the closing bracket; `reversed`
holds the items so far, the last one first. There are at most `count` further items. -/
def readItems (item : Reader Json) : Nat → List Json → Reader Json
  | 0, _, rest => .error (.on .endInList rest)
  | count + 1, reversed, rest =>
    match skipGap rest with
    | [] => .error (.before .endInList [])
    | b :: rest =>
      if b = 0x5d then .ok (.array reversed.reverse, rest)
      else if b = 0x2c then
        match skipGap rest with
        | [] => .error (.before .endInValue [])
        | c :: rest =>
          if c = 0x5d then .error (.on .trailingComma (c :: rest))
          else match item (c :: rest) with
            | .ok (value, rest) => readItems item count (value :: reversed) rest
            | .error fault => .error fault
      else .error (.on .expectedListEnd (b :: rest))

/-- Reads an array whose opening bracket has been read. -/
def readArray (item : Reader Json) : Reader Json := fun rest =>
  match skipGap rest with
  | [] => .error (.before .endInList [])
  | b :: rest =>
    if b = 0x5d then .ok (.array [], rest)
    else match item (b :: rest) with
      | .ok (value, rest) => readItems item (rest.length + 1) [value] rest
      | .error fault => .error fault

/-- Reads the colon after a member's name. -/
def readColon (rest : Bytes) : Except Fault Bytes :=
  match skipGap rest with
  | [] => .error (.before .endInObject [])
  | b :: rest => if b = 0x3a then .ok rest else .error (.on .expectedColon (b :: rest))

/-- Reads a member whose name's opening quote has been read. -/
def readMember (item : Reader Json) : Reader (String × Json) := fun rest => do
  let (name, rest) ← readString rest
  let rest ← readColon rest
  let (value, rest) ← item rest
  return ((name, value), rest)

/-- Reads the further members of an object, each after a comma, and the closing brace; a later
member replaces an earlier one of the same name. There are at most `count` further members. -/
def readMembers (item : Reader Json) : Nat → List (String × Json) → Reader Json
  | 0, _, rest => .error (.on .endInObject rest)
  | count + 1, members, rest =>
    match skipGap rest with
    | [] => .error (.before .endInObject [])
    | b :: rest =>
      if b = 0x7d then .ok (.object members, rest)
      else if b = 0x2c then
        match skipGap rest with
        | [] => .error (.before .endInValue [])
        | c :: rest =>
          if c = 0x22 then
            match readMember item rest with
            | .ok ((name, value), rest) =>
              readMembers item count (insertMember name value members) rest
            | .error fault => .error fault
          else if c = 0x7d then .error (.on .trailingComma (c :: rest))
          else .error (.on .keyNotString (c :: rest))
      else .error (.on .expectedObjectEnd (b :: rest))

/-- Reads an object whose opening brace has been read. -/
def readObject (item : Reader Json) : Reader Json := fun rest =>
  match skipGap rest with
  | [] => .error (.before .endInObject [])
  | b :: rest =>
    if b = 0x7d then .ok (.object [], rest)
    else if b = 0x22 then
      match readMember item rest with
      | .ok ((name, value), rest) => readMembers item (rest.length + 1) [(name, value)] rest
      | .error fault => .error fault
    else .error (.on .keyNotString (b :: rest))

/-- Reads a value in which arrays and objects may be nested less than `depth` deep. -/
def readValue : Nat → Reader Json
  | 0, rest => .error (.on .recursionLimit rest)
  | depth + 1, rest =>
    match skipGap rest with
    | [] => .error (.before .endInValue [])
    | b :: rest =>
      if b = 0x6e then (readIdent [0x75, 0x6c, 0x6c] rest).map fun rest => (.null, rest)
      else if b = 0x74 then (readIdent [0x72, 0x75, 0x65] rest).map fun rest => (.bool true, rest)
      else if b = 0x66 then
        (readIdent [0x61, 0x6c, 0x73, 0x65] rest).map fun rest => (.bool false, rest)
      else if b = 0x2d then (readNumber true rest).map fun (n, rest) => (.number n, rest)
      else if isDigitByte b then
        (readNumber false (b :: rest)).map fun (n, rest) => (.number n, rest)
      else if b = 0x22 then (readString rest).map fun (s, rest) => (.string s, rest)
      else if b = 0x5b then
        if depth = 0 then .error (.on .recursionLimit (b :: rest))
        else readArray (readValue depth) rest
      else if b = 0x7b then
        if depth = 0 then .error (.on .recursionLimit (b :: rest))
        else readObject (readValue depth) rest
      else .error (.on .expectedValue (b :: rest))

/-- How deep arrays and objects may be nested, plus one. -/
def maxDepth : Nat := 128

/-- Requires that nothing but a gap is left of a text. -/
def requireEnd (rest : Bytes) : Except Fault Unit :=
  match skipGap rest with
  | [] => .ok ()
  | b :: rest => .error (.on .trailingCharacters (b :: rest))

/-- The value of a whole text. -/
def parseBytes (bytes : Bytes) : Except Fault Json := do
  let (value, rest) ← readValue maxDepth bytes
  requireEnd rest
  return value

/-- The value of a whole text, or the report of what is wrong with it. -/
def parse (s : String) : Except String Json :=
  (parseBytes (Bytes.ofString s)).mapError fun fault => fault.message (Bytes.ofString s)

end BracketScript.Json
