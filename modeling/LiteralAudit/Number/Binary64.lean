/-!
# Binary floating-point numbers of 64 bits

A finite number that is not negative is kept exactly, as a mantissa times a power of two. All
rounding goes through one function from ratios to the nearest number, ties to the even mantissa. The
text of a number has the fewest digits that read back as the same number.
-/

namespace LiteralAudit

/-- The number `mantissa * 2 ^ exponent`. -/
structure Binary64 where
  mantissa : Nat
  exponent : Int
  deriving DecidableEq, Repr

namespace Binary64

def leastExponent : Int := -1074

def greatestExponent : Int := 971

/-- The least mantissa of 53 bits. -/
def leastFull : Nat := 0x10000000000000

def zero : Binary64 := ⟨0, leastExponent⟩

/-- The ratio scaled so that the number with the given exponent has its mantissa as integral
part. -/
def scaled (numerator denominator : Nat) (exponent : Int) : Nat × Nat :=
  if exponent ≥ 0 then (numerator, denominator * Nat.pow 2 exponent.toNat)
  else (numerator * Nat.pow 2 (-exponent).toNat, denominator)

/-- Divides and rounds to the nearest integer, a tie to the even one. -/
def divideToEven (numerator denominator : Nat) : Nat :=
  let quotient := numerator / denominator
  let twice := 2 * (numerator % denominator)
  if twice < denominator then quotient
  else if denominator < twice then quotient + 1
  else quotient + quotient % 2

/-- The exponent at which the mantissa of a positive ratio has 53 bits. -/
def fittingExponent (numerator denominator : Nat) : Int :=
  let guess : Int := (numerator.log2 : Int) - (denominator.log2 : Int) - 52
  let (dividend, divisor) := scaled numerator denominator guess
  if dividend / divisor < leastFull then guess - 1 else guess

/-- The number nearest to a ratio, or nothing when it is too great. -/
def ofRatio? (numerator denominator : Nat) : Option Binary64 :=
  if numerator = 0 then some zero
  else
    let exponent := max (fittingExponent numerator denominator) leastExponent
    let (dividend, divisor) := scaled numerator denominator exponent
    let mantissa := divideToEven dividend divisor
    let rounded : Binary64 :=
      if mantissa = 2 * leastFull then ⟨leastFull, exponent + 1⟩ else ⟨mantissa, exponent⟩
    if rounded.exponent ≤ greatestExponent then some rounded else none

def ratio (number : Binary64) : Nat × Nat :=
  if number.exponent ≥ 0 then (number.mantissa * Nat.pow 2 number.exponent.toNat, 1)
  else (number.mantissa, Nat.pow 2 (-number.exponent).toNat)

def ofNat? (number : Nat) : Option Binary64 := ofRatio? number 1

def mul? (left right : Binary64) : Option Binary64 :=
  ofRatio? (left.ratio.1 * right.ratio.1) (left.ratio.2 * right.ratio.2)

def div? (left right : Binary64) : Option Binary64 :=
  ofRatio? (left.ratio.1 * right.ratio.2) (left.ratio.2 * right.ratio.1)

def isZero (number : Binary64) : Bool := number.mantissa == 0

/-- Three integers on one scale: the lower end of the interval of reals that round to a number, the
number and the upper end; the fourth is the unit of the scale. -/
def neighbourhood (number : Binary64) : Nat × Nat × Nat × Nat :=
  let scale (quarters : Nat) : Nat × Nat := scaledQuarters quarters number.exponent
  let below :=
    if number.mantissa = leastFull ∧ number.exponent > leastExponent then 4 * number.mantissa - 1
    else 4 * number.mantissa - 2
  ((scale below).1, (scale (4 * number.mantissa)).1, (scale (4 * number.mantissa + 2)).1,
    (scale 0).2)
where
  scaledQuarters (quarters : Nat) (exponent : Int) : Nat × Nat :=
    if exponent ≥ 2 then (quarters * Nat.pow 2 (exponent - 2).toNat, 1)
    else (quarters, Nat.pow 2 (2 - exponent).toNat)

/-- The power of ten of the first digit of a positive ratio. -/
def decimalExponent (numerator denominator : Nat) : Int :=
  if denominator ≤ numerator then
    ((Nat.toDigits 10 (numerator / denominator)).length : Int) - 1
  else
    match (List.range 330).find? fun power => denominator ≤ numerator * Nat.pow 10 power with
    | some power => -(power : Int)
    | none => 0

/-- The one of two neighbours on the grid of the given power of ten that lies in the interval of the
number and nearest to it. -/
def nearestOnGrid? (number : Binary64) (power : Int) : Option Nat :=
  let (lower, exact, upper, unit) := number.neighbourhood
  let up := Nat.pow 10 power.toNat
  let down := Nat.pow 10 (-power).toNat
  -- a grid point `digits` stands for `digits * up / down`, compared after clearing denominators
  let inside (digits : Nat) : Bool :=
    let point := digits * up * unit
    if number.mantissa % 2 = 0 then
      decide (lower * down ≤ point) && decide (point ≤ upper * down)
    else
      decide (lower * down < point) && decide (point < upper * down)
  let floor := exact * down / (up * unit)
  let distanceBelow := exact * down - floor * up * unit
  let distanceAbove := (floor + 1) * up * unit - exact * down
  let belowFirst :=
    decide (distanceBelow < distanceAbove) || (distanceBelow == distanceAbove && floor % 2 == 0)
  let (first, second) := if belowFirst then (floor, floor + 1) else (floor + 1, floor)
  if inside first then some first else if inside second then some second else none

/-- The fewest digits that read back as the number, and the power of ten of the last one. -/
def shortestDigits (number : Binary64) : List Char × Int :=
  let first := decimalExponent number.ratio.1 number.ratio.2
  let attempt (count : Nat) : Option (List Char × Int) :=
    let power := first - (count : Int)
    (number.nearestOnGrid? power).map fun digits => (Nat.toDigits 10 digits, power)
  ((List.range 18).findSome? attempt).getD (['0'], 0)

/-- Removes zeros at the end of a digit list, counting them into the power of ten. -/
def dropZeros (digits : List Char) (power : Int) : List Char × Int :=
  let kept := (digits.reverse.dropWhile (· == '0')).reverse
  (kept, power + (digits.length - kept.length : Nat))

/-- An exponent is written with its sign. -/
private def exponentText (exponent : Int) : List Char :=
  (if exponent < 0 then '-' else '+') :: Nat.toDigits 10 exponent.natAbs

/-- Text of a number: positional from five places after the point up to sixteen before it, else with
an exponent; always with a point or an exponent. -/
def text (number : Binary64) : String :=
  if number.isZero then "0.0"
  else
    let (allDigits, lastPower) := number.shortestDigits
    let (digits, power) := dropZeros allDigits lastPower
    let count : Int := digits.length
    let point := count + power
    if 0 ≤ power ∧ point ≤ 16 then
      String.ofList (digits ++ List.replicate power.toNat '0' ++ ['.', '0'])
    else if 0 < point ∧ point ≤ 16 then
      String.ofList (digits.take point.toNat ++ '.' :: digits.drop point.toNat)
    else if -5 < point ∧ point ≤ 0 then
      String.ofList (['0', '.'] ++ List.replicate (-point).toNat '0' ++ digits)
    else
      match digits with
      | [single] => String.ofList (single :: 'e' :: exponentText (point - 1))
      | leading :: further =>
          String.ofList (leading :: '.' :: further ++ 'e' :: exponentText (point - 1))
      | [] => "0.0"

end Binary64

end LiteralAudit
