/-!
# Double-precision numbers

Finite binary floating-point numbers with a 53-bit significand, in exact natural-number arithmetic:
rounding a quotient to the nearest representable number, reading a decimal, and writing the fewest
digits that read back.

## Sections
1. The type
2. Rounding a quotient
3. Reading a decimal
4. The fewest digits
5. The written form
-/

namespace TopicGate

/-! ## §1 The type -/

/-- The finite number `± significand · 2 ^ exponent`.  The significand has 53 bits, except that it
may be shorter at the least exponent, -1074. -/
structure Double where
  negative : Bool
  significand : Nat
  exponent : Int
deriving Repr, DecidableEq

namespace Double

def minExponent : Int := -1074

def maxExponent : Int := 971

/-- The number zero with a sign. -/
def zero (negative : Bool) : Double := ⟨negative, 0, minExponent⟩

/-! ## §2 Rounding a quotient -/

/-- The integer nearest to `num / den`; of two equally near the even one. -/
def roundHalfEven (num den : Nat) : Nat :=
  let quotient := num / den
  let rest := num % den
  if den < 2 * rest ∨ (2 * rest = den ∧ quotient % 2 = 1) then quotient + 1 else quotient

/-- `num / den / 2 ^ e` as a quotient of integers. -/
def scale (num den : Nat) (e : Int) : Nat × Nat :=
  if 0 ≤ e then (num, den * Nat.pow 2 e.toNat) else (num * Nat.pow 2 (-e).toNat, den)

/-- The magnitude nearest to `num / den`, as significand and exponent, ties to the even
significand; `none` when it lies beyond the greatest finite number. -/
def nearestMagnitude? (num den : Nat) : Option (Nat × Int) :=
  if num = 0 then some (0, minExponent)
  else
    -- The first guess is the exponent wanted or one more than it.
    let guess : Int := (num.log2 : Int) - (den.log2 : Int) - 52
    let (n, d) := scale num den guess
    let normal := if n < d * Nat.pow 2 52 then guess - 1 else guess
    let e := max normal minExponent
    let (n, d) := scale num den e
    let m := roundHalfEven n d
    let (m, e) := if m = Nat.pow 2 53 then (Nat.pow 2 52, e + 1) else (m, e)
    if e ≤ maxExponent then some (m, e) else none

def nearest? (negative : Bool) (num den : Nat) : Option Double :=
  (nearestMagnitude? num den).map fun (m, e) => ⟨negative, m, e⟩

def magnitude (x : Double) : Nat × Nat :=
  if 0 ≤ x.exponent then (x.significand * Nat.pow 2 x.exponent.toNat, 1)
  else (x.significand, Nat.pow 2 (-x.exponent).toNat)

/-! ## §3 Reading a decimal -/

/-- The greatest power of ten below the greatest double is `10 ^ 308`. -/
def maxPowerOfTen : Nat := 308

/-- The double nearest to `10 ^ k`, for `k` up to `maxPowerOfTen`. -/
def powerOfTen (k : Nat) : Double := (nearest? false (Nat.pow 10 k) 1).getD (zero false)

def mul? (x y : Double) : Option Double :=
  let (xn, xd) := x.magnitude
  let (yn, yd) := y.magnitude
  nearest? (x.negative != y.negative) (xn * yn) (xd * yd)

def div? (x y : Double) : Option Double :=
  let (xn, xd) := x.magnitude
  let (yn, yd) := y.magnitude
  nearest? (x.negative != y.negative) (xn * yd) (xd * yn)

/-- Divides by `10 ^ k`, with a rounding after each step of at most `10 ^ 308`. -/
def divPowerOfTen (x : Double) (k : Nat) : Double :=
  if x.significand = 0 then x
  else if k ≤ maxPowerOfTen then (x.div? (powerOfTen k)).getD x
  else divPowerOfTen ((x.div? (powerOfTen maxPowerOfTen)).getD x) (k - maxPowerOfTen)
termination_by k
decreasing_by simp only [maxPowerOfTen] at *; omega

/-- Reads the decimal `± digits · 10 ^ exponent`, with one rounding of the digits and one for each
scaling by a power of ten; `none` when the number is out of range. -/
def ofDecimal? (negative : Bool) (digits : Nat) (exponent : Int) : Option Double := do
  let whole ← nearest? negative digits 1
  if exponent < 0 then
    return whole.divPowerOfTen (-exponent).toNat
  else if exponent.toNat ≤ maxPowerOfTen then
    whole.mul? (powerOfTen exponent.toNat)
  else if digits = 0 then
    return whole
  else
    none

/-! ## §4 The fewest digits -/

/-- `num / den` against `10 ^ k`: whether the quotient is at least the power. -/
def atLeastPowerOfTen (num den : Nat) (k : Int) : Bool :=
  if 0 ≤ k then den * Nat.pow 10 k.toNat ≤ num else den ≤ num * Nat.pow 10 (-k).toNat

/-- The decimal point of a positive quotient: the least `k` with `num / den < 10 ^ k`, searched
upward from a lower bound `start` over at most `steps` candidates. -/
def decimalPoint (num den : Nat) (start : Int) : Nat → Int
  | 0 => start
  | steps + 1 =>
    if atLeastPowerOfTen num den start then decimalPoint num den (start + 1) steps else start

/-- A decimal of `count` digits whose first digit stands right after the point: the value is
`digits · 10 ^ (point - count)`. -/
structure Decimal where
  digits : Nat
  count : Nat
  point : Int
deriving Repr, DecidableEq

/-- The bounds of the numbers that round to `x`, in quarters of the unit `2 ^ exponent`. -/
def bounds (x : Double) : Nat × Nat :=
  let m := 4 * x.significand
  -- Below a power of two the neighbour is only half as far.
  let below := if x.significand = Nat.pow 2 52 ∧ x.exponent ≠ minExponent then 1 else 2
  (m - below, m + 2)

/-- The decimal of `count` digits that reads back as `x`, if there is one: of the two neighbours of
`x` on that grid the nearer one that lies within the bounds. -/
def decimalOfCount? (x : Double) (point : Int) (count : Nat) : Option Decimal :=
  let (low, high) := x.bounds
  let inclusive := x.significand % 2 = 0
  -- Everything is measured in the common unit `2 ^ (exponent - 2) / den`.
  let shift := point - count
  let unit2 := x.exponent - 2
  let two : Nat := if 0 ≤ unit2 then Nat.pow 2 unit2.toNat else 1
  let half : Nat := if 0 ≤ unit2 then 1 else Nat.pow 2 (-unit2).toNat
  let ten : Nat := if 0 ≤ shift then Nat.pow 10 shift.toNat else 1
  let tenth : Nat := if 0 ≤ shift then 1 else Nat.pow 10 (-shift).toNat
  let value := 4 * x.significand * two * tenth
  let gridStep := ten * half
  let floor := value / gridStep
  let inside (c : Nat) : Bool :=
    let spot := c * gridStep
    if inclusive then low * two * tenth ≤ spot ∧ spot ≤ high * two * tenth
    else low * two * tenth < spot ∧ spot < high * two * tenth
  let down := value - floor * gridStep
  let up := (floor + 1) * gridStep - value
  let candidates :=
    if down < up ∨ (down = up ∧ floor % 2 = 0) then [floor, floor + 1] else [floor + 1, floor]
  (candidates.find? inside).map fun c => ⟨c, count, point⟩

/-- The fewest digits that read back as the positive number `x`. -/
def shortest (x : Double) : Decimal :=
  let (num, den) := x.magnitude
  let start : Int := ((num.log2 : Int) - (den.log2 : Int) - 1) * 3 / 10 - 1
  let point := decimalPoint num den start 8
  ((List.range 17).findSome? fun n => x.decimalOfCount? point (n + 1)).getD ⟨0, 1, point⟩

/-! ## §5 The written form -/

/-- The digits of a natural number, most significant first. -/
def digitsOf (n : Nat) : List Char := Nat.toDigits 10 n

/-- The written form of a decimal: positional from `1e-5` up to below `1e16`, always with a
fraction, and with a signed exponent outside that range. -/
def Decimal.text (d : Decimal) : List Char :=
  let all := digitsOf d.digits
  -- Rounding up may have produced one more digit than asked for.
  let point := d.point + ((all.length : Int) - (d.count : Int))
  let digits := (all.reverse.dropWhile (· = '0')).reverse
  if 0 < point ∧ point ≤ 16 then
    let k := point.toNat
    if digits.length ≤ k then digits ++ List.replicate (k - digits.length) '0' ++ ['.', '0']
    else digits.take k ++ '.' :: digits.drop k
  else if -5 < point ∧ point ≤ 0 then
    '0' :: '.' :: (List.replicate (-point).toNat '0' ++ digits)
  else
    let e := point - 1
    let fraction := match digits.drop 1 with
      | [] => []
      | rest => '.' :: rest
    digits.take 1 ++ fraction ++ 'e' :: (if 0 ≤ e then '+' else '-') :: digitsOf e.natAbs

def text (x : Double) : String :=
  let sign := if x.negative then ['-'] else []
  let body := if x.significand = 0 then ['0', '.', '0'] else x.shortest.text
  String.ofList (sign ++ body)

end Double

end TopicGate
