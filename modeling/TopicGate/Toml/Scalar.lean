import TopicGate.Number.Double
import TopicGate.Toml.Text

/-!
# Bare values in TOML

Values without quotes or brackets: truth values, integers, floats, dates and times.  Each is a run
of letters, digits and the marks `_ + - . :`, so a whole run is cut off first and then classified.

## Sections
1. Scalars
2. Digits
3. Integers
4. Floats
5. Dates and times
6. Classifying a run
-/

namespace TopicGate.Toml

open Text (isDigitOf natOfDigits)

/-! ## §1 Scalars -/

/-- A bare value. -/
inductive Scalar where
  | bool (value : Bool)
  | int (value : Int)
  | real (value : Double)
  | dateTime (text : String)
deriving Repr

/-! ## §2 Digits -/

/-- Digits without the underscores between them; an underscore stands between two digits only, and
there is a digit. -/
def ungrouped? (isDigit : Char → Bool) : List Char → Option (List Char)
  | [] => none
  | [c] => if isDigit c then some [c] else none
  | c :: '_' :: rest => if isDigit c then (ungrouped? isDigit rest).map (c :: ·) else none
  | c :: rest => if isDigit c then (ungrouped? isDigit rest).map (c :: ·) else none

/-- The sign of a number and what follows it. -/
def signed : List Char → Bool × List Char
  | '+' :: rest => (false, rest)
  | '-' :: rest => (true, rest)
  | run => (false, run)

/-- Decimal digits without needless leading zeros. -/
def wholeDigits? (run : List Char) : Option (List Char) := do
  let digits ← ungrouped? Char.isDigit run
  if digits.head? = some '0' ∧ digits.length ≠ 1 then none else some digits

/-! ## §3 Integers -/

/-- The integer, if it has at most 64 bits. -/
def bounded? (n : Int) : Option Scalar :=
  if Int64.minValue.toInt ≤ n ∧ n ≤ Int64.maxValue.toInt then some (.int n) else none

/-- An integer: decimal with a sign, or with a mark for another base and without. -/
def integer? (run : List Char) : Option Scalar :=
  match run with
  | '0' :: 'x' :: rest => based 16 rest
  | '0' :: 'o' :: rest => based 8 rest
  | '0' :: 'b' :: rest => based 2 rest
  | _ => do
    let (negative, body) := signed run
    let digits ← wholeDigits? body
    let n : Int := natOfDigits 10 digits
    bounded? (if negative then -n else n)
where
  based (base : Nat) (rest : List Char) : Option Scalar := do
    let digits ← ungrouped? (isDigitOf base) rest
    bounded? (natOfDigits base digits)

/-! ## §4 Floats -/

/-- The double nearest to `± digits · 10 ^ exponent`.  A positive number beyond the greatest double
is refused. -/
def nearestDouble? (negative : Bool) (digits : Nat) (exponent : Int) : Option Double :=
  -- Far outside the range of doubles the powers of ten need not be computed.
  let point := exponent + (Nat.toDigits 10 digits).length
  let found :=
    if digits = 0 ∨ point < -400 then some (.zero negative)
    else if 400 < point then none
    else if 0 ≤ exponent then Double.nearest? negative (digits * Nat.pow 10 exponent.toNat) 1
    else Double.nearest? negative digits (Nat.pow 10 (-exponent).toNat)
  if negative then some (found.getD (.zero true)) else found

/-- A float: a whole part with a fraction, an exponent, or both.  Infinite and undefined numbers are
read as zero; no field of a configuration takes any float. -/
def float? (run : List Char) : Option Scalar := do
  let (negative, body) := signed run
  if body ∈ ["inf".toList, "nan".toList] then return .real (.zero negative)
  let isMark (c : Char) : Bool := c == 'e' || c == 'E'
  let mantissa := body.takeWhile fun c => !isMark c
  let whole ← wholeDigits? (mantissa.takeWhile (· != '.'))
  let fraction ← match mantissa.dropWhile (· != '.') with
    | [] => some []
    | _ :: digits => ungrouped? Char.isDigit digits
  let exponent : Int ← match body.dropWhile (fun c => !isMark c) with
    | [] => if mantissa.contains '.' then some 0 else none
    | _ :: rest =>
      let (down, digits) := signed rest
      (ungrouped? Char.isDigit digits).map fun digits =>
        if down then -(natOfDigits 10 digits : Int) else natOfDigits 10 digits
  let digits := natOfDigits 10 (whole ++ fraction)
  let value ← nearestDouble? negative digits (exponent - fraction.length)
  return .real value

/-! ## §5 Dates and times -/

/-- The number of two decimal digits, if it lies within bounds. -/
def twoDigits? (low high : Nat) (a b : Char) : Option Nat :=
  if a.isDigit && b.isDigit then
    let n := natOfDigits 10 [a, b]
    if low ≤ n ∧ n ≤ high then some n else none
  else none

def daysOf (year month : Nat) : Nat :=
  if month = 2 then
    if year % 4 = 0 ∧ (year % 100 ≠ 0 ∨ year % 400 = 0) then 29 else 28
  else if month ∈ [4, 6, 9, 11] then 30
  else 31

/-- What follows a date. -/
def afterDate? : List Char → Option (List Char)
  | y0 :: y1 :: y2 :: y3 :: '-' :: m0 :: m1 :: '-' :: d0 :: d1 :: rest => do
    let year := [y0, y1, y2, y3]
    let month ← twoDigits? 1 12 m0 m1
    let _ ← twoDigits? 1 (daysOf (natOfDigits 10 year) month) d0 d1
    if year.all Char.isDigit then some rest else none
  | _ => none

/-- What follows a time of day. -/
def afterTime? : List Char → Option (List Char)
  | h0 :: h1 :: ':' :: m0 :: m1 :: ':' :: s0 :: s1 :: rest => do
    let _ ← twoDigits? 0 23 h0 h1
    let _ ← twoDigits? 0 59 m0 m1
    let _ ← twoDigits? 0 60 s0 s1
    match rest with
    | '.' :: digits =>
      if digits.head?.any Char.isDigit then some (digits.dropWhile Char.isDigit) else none
    | _ => some rest
  | _ => none

/-- Whether a run is an offset from universal time. -/
def isOffset : List Char → Bool
  | [c] => c == 'Z' || c == 'z'
  | [sign, h0, h1, ':', m0, m1] =>
    (sign == '+' || sign == '-') && (twoDigits? 0 23 h0 h1).isSome && (twoDigits? 0 59 m0 m1).isSome
  | _ => false

/-- Whether a run is a date, a time, or both, then perhaps with an offset. -/
def isDateTime (run : List Char) : Bool :=
  match afterDate? run with
  | some [] => true
  | some (separator :: rest) =>
    (separator == 'T' || separator == 't' || separator == ' ') &&
      (afterTime? rest).any fun rest => rest.isEmpty || isOffset rest
  | none => afterTime? run == some []

/-! ## §6 Classifying a run -/

/-- A character of bare values. -/
def isBareChar (c : Char) : Bool :=
  c.isAlphanum || c == '_' || c == '+' || c == '-' || c == '.' || c == ':'

/-- The run at the beginning, and what follows it.  A date and a time may stand apart by a space. -/
def cutRun (cs : List Char) : List Char × List Char :=
  let run := cs.takeWhile isBareChar
  let rest := cs.dropWhile isBareChar
  match rest with
  | ' ' :: c :: more =>
    if c.isDigit && afterDate? run == some [] then
      (run ++ ' ' :: (c :: more).takeWhile isBareChar, (c :: more).dropWhile isBareChar)
    else (run, rest)
  | _ => (run, rest)

def ofRun? (run : List Char) : Option Scalar :=
  if run = "true".toList then some (.bool true)
  else if run = "false".toList then some (.bool false)
  else if isDateTime run then some (.dateTime (String.ofList run))
  else float? run <|> integer? run

/-- The bare value at the beginning, and what follows it. -/
def Scalar.read? (cs : List Char) : Option (Scalar × List Char) :=
  let (run, rest) := cutRun cs
  (ofRun? run).map (·, rest)

end TopicGate.Toml
