import RefExpand.Number.Decimal

namespace RefExpand

/-!
# The exact value of a double

A finite double is a sign, a natural mantissa and a power of two. Rounding,
truncation and remainder are done on these exact values.
-/

/-- A power of two. -/
def twoTo (exponent : Nat) : Nat :=
  Nat.pow 2 exponent

/-- What the bits of a double stand for. -/
inductive FloatShape where
  | nan
  | infinite (negative : Bool)
  | finite (negative : Bool) (mantissa : Nat) (exponent : Int)
  deriving Repr, DecidableEq

namespace FloatShape

/-- Decode the 64 bits of a double. -/
def ofBits (bits : Nat) : FloatShape :=
  let negative := (bits / twoTo 63) % 2 == 1
  let biased : Nat := (bits / twoTo 52) % twoTo 11
  let fraction := bits % twoTo 52
  if biased = 2047 then
    if fraction = 0 then .infinite negative else .nan
  else if biased = 0 then
    .finite negative fraction (-1074)
  else
    .finite negative (fraction + twoTo 52) ((biased : Int) - 1075)

/-- Decode a double. -/
def of (f : Float) : FloatShape :=
  ofBits f.toBits.toNat

end FloatShape

/-- The whole number nearest to a quotient, halves going to the even one. -/
def divNearestEven (num den : Nat) : Nat :=
  let quotient := num / den
  let twice := 2 * (num % den)
  if twice < den then quotient
  else if den < twice then quotient + 1
  else if quotient % 2 = 0 then quotient
  else quotient + 1

/-- A natural power-of-two multiple of a mantissa as a quotient of naturals. -/
def scaleByTwo (mantissa : Nat) (exponent : Int) : Nat × Nat :=
  if exponent < 0 then (mantissa, twoTo exponent.natAbs) else (mantissa * twoTo exponent.natAbs, 1)

/-- Put a sign on a natural number. -/
def signed (negative : Bool) (n : Nat) : Int :=
  if negative then -(n : Int) else n

namespace Number

/-- The integer nearest to a finite double, halves going to the even one. -/
def nearestInt? (f : Float) : Option Int :=
  match FloatShape.of f with
  | .finite negative mantissa exponent =>
      let (num, den) := scaleByTwo mantissa exponent
      some (signed negative (divNearestEven num den))
  | _ => none

/-- The bits of the finite double `mantissa * 2 ^ exponent`, or of infinity beyond the range. -/
def packBits (mantissa : Nat) (exponent : Int) : Nat :=
  if mantissa < twoTo 52 then mantissa
  else if 971 < exponent then 2047 * twoTo 52
  else (exponent + 1075).toNat * twoTo 52 + (mantissa - twoTo 52)

/-- The exponent at which a positive quotient has a mantissa of 53 bits, or the least there is. -/
def quotientExponent (num den : Nat) : Int :=
  let estimate : Int := (num.log2 : Int) - den.log2 - 52
  let (n, d) := (scaleByTwo num (-estimate), den)
  let quotient := n.1 / (n.2 * d)
  let exponent :=
    if twoTo 53 ≤ quotient then estimate + 1
    else if quotient < twoTo 52 then estimate - 1
    else estimate
  max exponent (-1074)

/-- The bits of the double nearest to a quotient, halves going to the even mantissa. -/
def nearestBits (num den : Nat) : Nat :=
  if num = 0 then 0
  else
    let exponent := quotientExponent num den
    let (n, d) := scaleByTwo num (-exponent)
    let mantissa := divNearestEven n (d * den)
    if mantissa = twoTo 53 then packBits (twoTo 52) (exponent + 1) else packBits mantissa exponent

/-- The double nearest to a quotient of naturals, with a sign. -/
def nearestFloat (negative : Bool) (num den : Nat) : Float :=
  let sign := if negative then twoTo 63 else 0
  Float.ofBits (UInt64.ofNat (sign + nearestBits num den))

/-- The double nearest to a natural number, with a sign. -/
def floatOfNat (negative : Bool) (n : Nat) : Float :=
  nearestFloat negative n 1

/-- The double nearest to an integer. -/
def floatOfInt (n : Int) : Float :=
  floatOfNat (n < 0) n.natAbs

/-- Round to a whole number, halves going to the even one. -/
def roundEven (f : Float) : Float :=
  match FloatShape.of f with
  | .finite negative mantissa exponent =>
      if 0 ≤ exponent then f
      else floatOfNat negative (divNearestEven mantissa (twoTo exponent.natAbs))
  | _ => f

/-- Drop the fraction. -/
def truncate (f : Float) : Float :=
  match FloatShape.of f with
  | .finite negative mantissa exponent =>
      if 0 ≤ exponent then f
      else floatOfNat negative (mantissa / twoTo exponent.natAbs)
  | _ => f

/-- The double is a whole number. -/
def isWhole (f : Float) : Bool :=
  match FloatShape.of f with
  | .finite _ mantissa exponent =>
      0 ≤ exponent || mantissa % twoTo exponent.natAbs == 0
  | _ => false

/-- The whole part as a 64-bit integer, clamped to its range; zero for what is no number. -/
def toInt64Clamped (f : Float) : Int64 :=
  match FloatShape.of f with
  | .nan => 0
  | .infinite negative => if negative then Int64.minValue else Int64.maxValue
  | .finite negative mantissa exponent =>
      let (num, den) := scaleByTwo mantissa exponent
      clamp (signed negative (num / den))
where
  clamp (n : Int) : Int64 :=
    if n < Int64.minValue.toInt then Int64.minValue
    else if Int64.maxValue.toInt < n then Int64.maxValue
    else Int64.ofInt n

/-- The double nearest to a signed multiple of a power of two. -/
def scaled (negative : Bool) (mantissa : Nat) (exponent : Int) : Float :=
  let (num, den) := scaleByTwo mantissa exponent
  nearestFloat negative num den

/-- The remainder of the truncated quotient, with the sign of the dividend. -/
def remainder (dividend divisor : Float) : Float :=
  match FloatShape.of dividend, FloatShape.of divisor with
  | .nan, _ | _, .nan | .infinite _, _ => 0.0 / 0.0
  | .finite .., .infinite _ => dividend
  | .finite negative m e, .finite _ n d =>
      if n = 0 then 0.0 / 0.0
      else
        let low := min e d
        let rest := (m * twoTo (e - low).toNat) % (n * twoTo (d - low).toNat)
        scaled negative rest low

/-- The larger of two doubles; a number wins against what is none. -/
def maximum (left right : Float) : Float :=
  if left.isNaN then right
  else if right.isNaN then left
  else if left < right then right
  else left

/-- The smaller of two doubles; a number wins against what is none. -/
def minimum (left right : Float) : Float :=
  if left.isNaN then right
  else if right.isNaN then left
  else if right < left then right
  else left

/-- A key that puts all doubles in one order: by value, -0 before 0, and what is no number outside. -/
def orderKey (f : Float) : Int :=
  let bits := f.toBits.toNat
  if bits < twoTo 63 then (bits : Int) else -((bits - twoTo 63 : Nat) : Int) - 1

end Number

end RefExpand
