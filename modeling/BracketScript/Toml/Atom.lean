import BracketScript.Text.Decimal
import BracketScript.Toml.Basic

/-!
# Numbers, dates and truth values of TOML documents

Values that are written without quotes or brackets. Digits may be parted by single underscores.
Integers have 64 bits; a number with a fraction or an exponent must not be too large to be rounded
to a floating-point number.

## Main definitions

* `Toml.ungroup?`: digits without the underscores between them
* `Toml.integer?`: the value of an integer
* `Toml.isReal`, `Toml.isMoment`: the other numbers, dates and times
* `Toml.atom?`: the value of a text without quotes and brackets
-/

namespace BracketScript.Toml

/-- The digits of a text in which single underscores may stand between digits. -/
def ungroup? (isDigit : Char → Bool) : List Char → Option (List Char)
  | [] => none
  | [c] => if isDigit c then some [c] else none
  | c :: '_' :: rest => if isDigit c then (ungroup? isDigit rest).map (c :: ·) else none
  | c :: rest => if isDigit c then (ungroup? isDigit rest).map (c :: ·) else none

/-- The value of a digit, of a base up to sixteen. -/
def digitValue (c : Char) : Nat :=
  if Text.isAsciiDigit c then c.toNat - 48
  else if 'a' ≤ c then c.toNat - 87
  else c.toNat - 55

/-- A digit of the given base, of up to sixteen. -/
def isDigitOf (base : Nat) (c : Char) : Bool :=
  (Text.isAsciiDigit c || ('a' ≤ c && c ≤ 'f') || ('A' ≤ c && c ≤ 'F')) && digitValue c < base

/-- The number that a row of digits denotes. -/
def ofDigits (base : Nat) (digits : List Char) : Nat :=
  digits.foldl (fun n c => n * base + digitValue c) 0

/-- The text without a sign at its front, and whether that sign is a minus. -/
def splitSign : List Char → Bool × List Char
  | '-' :: cs => (true, cs)
  | '+' :: cs => (false, cs)
  | cs => (false, cs)

/-- The digits of a decimal number that does not start with a zero in front of other digits. -/
def wholeDigits? (cs : List Char) : Option (List Char) :=
  match ungroup? Text.isAsciiDigit cs with
  | some ('0' :: _ :: _) => none
  | digits? => digits?

/-- An integer in decimal, or without a sign in base sixteen, eight or two. -/
def integer? (cs : List Char) : Option Int :=
  let inBase (base : Nat) (rest : List Char) : Option Int :=
    (ungroup? (isDigitOf base) rest).bind fun digits =>
      let n : Int := ofDigits base digits
      if Text.isInt64 n then some n else none
  match cs with
  | '0' :: 'x' :: rest => inBase 16 rest
  | '0' :: 'o' :: rest => inBase 8 rest
  | '0' :: 'b' :: rest => inBase 2 rest
  | cs =>
    let (negative, rest) := splitSign cs
    (wholeDigits? rest).bind fun digits =>
      let magnitude : Int := ofDigits 10 digits
      let n := if negative then -magnitude else magnitude
      if Text.isInt64 n then some n else none

/-- The number with the given digits times `10 ^ exponent` is rounded to infinity. -/
def isHuge (digits : List Char) (exponent : Int) : Bool :=
  let digits := digits.dropWhile (· == '0')
  let width : Int := digits.length + exponent
  if digits.isEmpty || width < 309 then false
  else if 309 < width then true
  else
    let least := Nat.pow 2 1024 - Nat.pow 2 970
    if 0 ≤ exponent then least ≤ ofDigits 10 digits * Nat.pow 10 exponent.toNat
    else least * Nat.pow 10 (-exponent).toNat ≤ ofDigits 10 digits

/-- A digit or an underscore. -/
def isGroupChar (c : Char) : Bool := Text.isAsciiDigit c || c == '_'

/-- The exponent that a text without a fraction part consists of; there is none in an empty text. -/
def exponent? : List Char → Option Int
  | [] => some 0
  | c :: cs =>
    if c = 'e' ∨ c = 'E' then
      let (negative, rest) := splitSign cs
      (ungroup? Text.isAsciiDigit rest).map fun digits =>
        let n : Int := ofDigits 10 digits
        if negative then -n else n
    else none

/-- The digits and the power of ten of a decimal number with a fraction or an exponent. -/
def realParts? (cs : List Char) : Option (List Char × Int) := do
  let whole ← wholeDigits? (cs.takeWhile isGroupChar)
  match cs.dropWhile isGroupChar with
  | [] => none
  | '.' :: rest =>
    let fraction ← ungroup? Text.isAsciiDigit (rest.takeWhile isGroupChar)
    let exponent ← exponent? (rest.dropWhile isGroupChar)
    return (whole ++ fraction, exponent - fraction.length)
  | rest =>
    let exponent ← exponent? rest
    return (whole, exponent)

/-- A number with a fraction or an exponent, or one of the words for infinity and no number. A
positive number must not be too large. -/
def isReal (cs : List Char) : Bool :=
  let (negative, rest) := splitSign cs
  rest == ['i', 'n', 'f'] || rest == ['n', 'a', 'n'] ||
    match realParts? rest with
    | some (digits, exponent) => negative || !isHuge digits exponent
    | none => false

/-! ### Dates and times -/

/-- A number of two digits at the front of a text, and the rest of the text. -/
def twoDigits? : List Char → Option (Nat × List Char)
  | a :: b :: rest =>
    if Text.isAsciiDigit a && Text.isAsciiDigit b then some (ofDigits 10 [a, b], rest) else none
  | _ => none

/-- The number of days of a month. -/
def daysOf (year month : Nat) : Nat :=
  if month = 2 then
    if year % 4 = 0 ∧ (year % 100 ≠ 0 ∨ year % 400 = 0) then 29 else 28
  else if month = 4 ∨ month = 6 ∨ month = 9 ∨ month = 11 then 30
  else 31

/-- What follows a date of the calendar. -/
def afterDate? (cs : List Char) : Option (List Char) := do
  let (century, cs) ← twoDigits? cs
  let (years, cs) ← twoDigits? cs
  let '-' :: cs := cs | none
  let (month, cs) ← twoDigits? cs
  let '-' :: cs := cs | none
  let (day, cs) ← twoDigits? cs
  if 1 ≤ month ∧ month ≤ 12 ∧ 1 ≤ day ∧ day ≤ daysOf (century * 100 + years) month then some cs
  else none

/-- What follows hours and minutes. -/
def afterMinutes? (cs : List Char) : Option (List Char) := do
  let (hour, cs) ← twoDigits? cs
  let ':' :: cs := cs | none
  let (minute, cs) ← twoDigits? cs
  if hour ≤ 23 ∧ minute ≤ 59 then some cs else none

/-- What follows a time of the day, with seconds and perhaps a fraction of them. -/
def afterTime? (cs : List Char) : Option (List Char) := do
  let cs ← afterMinutes? cs
  let ':' :: cs := cs | none
  let (second, cs) ← twoDigits? cs
  if 60 < second then none
  else match cs with
    | '.' :: c :: rest =>
      if Text.isAsciiDigit c then some (rest.dropWhile Text.isAsciiDigit) else some cs
    | cs => some cs

/-- The text is empty or the distance of a zone from universal time. -/
def isOffset : List Char → Bool
  | [] => true
  | c :: cs =>
    if c == 'Z' || c == 'z' then cs.isEmpty
    else (c == '+' || c == '-') && afterMinutes? cs == some []

/-- A time of the day with or without a zone. -/
def isZonedTime (cs : List Char) : Bool :=
  match afterTime? cs with
  | some rest => isOffset rest
  | none => false

/-- A date alone. -/
def isDate (cs : List Char) : Bool := afterDate? cs == some []

/-- A date, a time of the day, or a date and a time parted by the letter T. -/
def isMoment (cs : List Char) : Bool :=
  afterTime? cs == some [] ||
    match afterDate? cs with
    | some [] => true
    | some (c :: rest) => (c == 'T' || c == 't') && isZonedTime rest
    | none => false

/-- The value of a text without quotes, brackets and blanks. -/
def atom? (cs : List Char) : Option Toml :=
  if cs = ['t', 'r', 'u', 'e'] then some (.boolean true)
  else if cs = ['f', 'a', 'l', 's', 'e'] then some (.boolean false)
  else if isMoment cs then some (.moment (String.ofList cs))
  else if isReal cs then some (.real (String.ofList cs))
  else (integer? cs).map .integer

end BracketScript.Toml
