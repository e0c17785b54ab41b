import RefExpand.Number.Binary64

namespace RefExpand

/-!
# Reading a double

The grammar is an optional sign, digits with an optional point among or beside
them, and an optional exponent. The value is the double nearest to the decimal.
-/

namespace Number

/-- A decimal that was read: digits as a number, and the power of ten it is multiplied with. -/
structure ReadDecimal where
  digits : Nat
  power : Int
  deriving Repr, DecidableEq

/-- Read an exponent: nothing, or `e` with an optional sign and digits, to the end of the text. -/
def readExponent? : Text → Option Int
  | [] => some 0
  | c :: rest => if c == 'e' || c == 'E' then Decimal.readInt? rest else none

/-- Read an unsigned decimal that fills the text. -/
def readUnsigned? (text : Text) : Option ReadDecimal :=
  let whole := text.takeWhile Char.isDigit
  let afterWhole := text.dropWhile Char.isDigit
  let (fraction, afterFraction) : Text × Text :=
    match afterWhole with
    | '.' :: rest => (rest.takeWhile Char.isDigit, rest.dropWhile Char.isDigit)
    | rest => ([], rest)
  if whole.isEmpty && fraction.isEmpty then
    none
  else
    (readExponent? afterFraction).map fun exponent =>
      { digits := Decimal.digitsValue (whole ++ fraction)
        power := exponent - fraction.length }

/-- The signed double nearest to a decimal; powers far outside the range give zero or infinity. -/
def ReadDecimal.toFloat (negative : Bool) (decimal : ReadDecimal) : Float :=
  let size : Int := (Decimal.ofNat decimal.digits).length
  if decimal.digits = 0 || decimal.power + size < -400 then nearestFloat negative 0 1
  else if 400 < decimal.power + size then nearestFloat negative (twoTo 1024) 1
  else if decimal.power < 0 then
    nearestFloat negative decimal.digits (Decimal.tenTo decimal.power.natAbs)
  else
    nearestFloat negative (decimal.digits * Decimal.tenTo decimal.power.natAbs) 1

/-- Read a double in decimal notation. -/
def readDecimalFloat? (text : Text) : Option Float :=
  match text with
  | '-' :: rest => (readUnsigned? rest).map (ReadDecimal.toFloat true)
  | '+' :: rest => (readUnsigned? rest).map (ReadDecimal.toFloat false)
  | rest => (readUnsigned? rest).map (ReadDecimal.toFloat false)

/-- Read a double: the three words for what is not finite, or decimal notation, between blanks. -/
def readFloat? (text : Text) : Option Float :=
  let text := text.trim
  if text = ("NaN" : Text) then some (0.0 / 0.0)
  else if text = ("Infinity" : Text) || text = ("+Infinity" : Text) then some (1.0 / 0.0)
  else if text = ("-Infinity" : Text) then some (-1.0 / 0.0)
  else readDecimalFloat? text

/-- Read a signed 64-bit integer between blanks. -/
def readInteger? (text : Text) : Option Int64 :=
  Decimal.readInt64? text.trim

end Number

end RefExpand
