import RefExpand.Number.Binary64

namespace RefExpand

/-!
# The fewest digits that read back

A double stands for the interval of reals that round to it, its ends included
exactly when the mantissa is even. On the grids of one, two, … seventeen digits
the two neighbours of the value are tried; the first grid that has a neighbour
in the interval wins, of two the nearer, and of two equally near the larger.
-/

namespace Number

/-- The digits of a positive decimal and the power of ten after which its point stands. -/
structure DecimalDigits where
  digits : Text
  point : Int
  deriving Repr, DecidableEq

/-- A double's value and rounding interval, as numerators over one denominator. -/
structure RoundingInterval where
  low : Nat
  value : Nat
  high : Nat
  den : Nat
  closed : Bool

/-- The rounding interval of a positive double with this mantissa and exponent. -/
def roundingInterval (mantissa : Nat) (exponent : Int) : RoundingInterval :=
  let below := if mantissa = twoTo 52 ∧ -1074 < exponent then 1 else 2
  let (low, den) := scaleByTwo (4 * mantissa - below) (exponent - 2)
  let (value, _) := scaleByTwo (4 * mantissa) (exponent - 2)
  let (high, _) := scaleByTwo (4 * mantissa + 2) (exponent - 2)
  { low, value, high, den, closed := mantissa % 2 == 0 }

/-- The number of the last power of ten that is not above the value. -/
def RoundingInterval.leadingPower (interval : RoundingInterval) : Int :=
  ((Decimal.ofNat (interval.value * Decimal.tenTo 400 / interval.den)).length : Int) - 401

/-- The multiple of `10 ^ power` that is nearest to the value among those in the interval. -/
def RoundingInterval.onGrid? (interval : RoundingInterval) (power : Int) : Option Nat :=
  let up := if power < 0 then Decimal.tenTo power.natAbs else 1
  let den := interval.den * (if power < 0 then 1 else Decimal.tenTo power.natAbs)
  let floor := interval.value * up / den
  let inside (n : Nat) : Bool :=
    if interval.closed then
      interval.low * up ≤ n * den && n * den ≤ interval.high * up
    else
      interval.low * up < n * den && n * den < interval.high * up
  let downward := inside floor && 0 < floor
  let upward := inside (floor + 1)
  if downward && upward then
    if interval.value * up - floor * den < (floor + 1) * den - interval.value * up then
      some floor
    else
      some (floor + 1)
  else if downward then some floor
  else if upward then some (floor + 1)
  else none

/-- Drop the trailing zeros of a digit string. -/
def dropTrailingZeros (digits : Text) : Text :=
  (digits.reverse.dropWhile (· == '0')).reverse

/-- The fewest digits that read back as the positive double with this mantissa and exponent. -/
def shortestDigits (mantissa : Nat) (exponent : Int) : DecimalDigits :=
  let interval := roundingInterval mantissa exponent
  let leading := interval.leadingPower
  let hit :=
    (List.range 17).findSome? fun (extra : Nat) =>
      let power := leading - (extra : Int)
      (interval.onGrid? power).map fun n => (n, power)
  match hit with
  | some (n, power) =>
      let digits := Decimal.ofNat n
      { digits := dropTrailingZeros digits, point := digits.length + power }
  | none => { digits := ['0'], point := 1 }

/-- Digits with the point set out in full: no exponent, no fraction unless there is one. -/
def DecimalDigits.positional (decimal : DecimalDigits) : Text :=
  let size : Int := decimal.digits.length
  if decimal.point ≤ 0 then
    '0' :: '.' :: (List.replicate decimal.point.natAbs '0' ++ decimal.digits)
  else if size ≤ decimal.point then
    decimal.digits ++ List.replicate (decimal.point - size).toNat '0'
  else
    decimal.digits.take decimal.point.toNat ++ '.' :: decimal.digits.drop decimal.point.toNat

/-- One digit, the others as a fraction, and a signed exponent of at least two digits. -/
def DecimalDigits.scientific (decimal : DecimalDigits) : Text :=
  let mantissa :=
    match decimal.digits with
    | [] => []
    | [d] => [d]
    | d :: fraction => d :: '.' :: fraction
  let power := decimal.point - 1
  mantissa ++ 'E' :: (if power < 0 then '-' else '+') :: Decimal.padded 2 power.natAbs

/--
The text of a double: whole numbers without a fraction, the fewest digits
otherwise, and an exponent from `1e15` on and below `1e-4`.
-/
def floatText (f : Float) : Text :=
  match FloatShape.of f with
  | .nan => "NaN"
  | .infinite false => "Infinity"
  | .infinite true => "-Infinity"
  | .finite negative mantissa exponent =>
      if mantissa = 0 then ['0']
      else
        let sign : Text := if negative then ['-'] else []
        let decimal := shortestDigits mantissa exponent
        sign ++
          if f.abs ≥ 1e15 || f.abs < 1e-4 then decimal.scientific else decimal.positional

/-- Write a quotient with `places` digits after the point, halves going to the even neighbour. -/
def fixedQuotient (places num den : Nat) : Text :=
  let digits := Decimal.padded (places + 1) (divNearestEven (num * Decimal.tenTo places) den)
  let whole := digits.take (digits.length - places)
  if places = 0 then whole else whole ++ '.' :: digits.drop (digits.length - places)

/-- Write a double with `places` digits after the point, from its exact value. -/
def fixedText (places : Nat) (f : Float) : Text :=
  match FloatShape.of f with
  | .nan => "NaN"
  | .infinite negative => if negative then "-inf" else "inf"
  | .finite negative mantissa exponent =>
      let (num, den) := scaleByTwo mantissa exponent
      (if negative then ['-'] else []) ++ fixedQuotient places num den

end Number

end RefExpand
