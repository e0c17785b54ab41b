import RefExpand.Text.Blank

namespace RefExpand

/-!
# Decimal texts of whole numbers

Writing gives no leading zero and a minus sign where needed. Reading takes an
optional sign and at least one ASCII digit, and refuses what does not fit in the
wanted number of bits.
-/

namespace Decimal

/-- The decimal digits of a natural number. -/
def ofNat (n : Nat) : Text :=
  Nat.toDigits 10 n

/-- The decimal text of an integer. -/
def ofInt : Int → Text
  | .ofNat n => ofNat n
  | .negSucc n => '-' :: ofNat (n + 1)

/-- The decimal text of a 64-bit integer. -/
def ofInt64 (n : Int64) : Text :=
  ofInt n.toInt

/-- Put zeros in front of a text until it has `width` characters. -/
def padZeros (width : Nat) (text : Text) : Text :=
  List.replicate (width - text.length) '0' ++ text

/-- The decimal digits of a natural number, with at least `width` of them. -/
def padded (width n : Nat) : Text :=
  padZeros width (ofNat n)

/-- A power of ten. -/
def tenTo (exponent : Nat) : Nat :=
  Nat.pow 10 exponent

/-- The value of a digit string, most significant first. -/
def digitsValue (digits : Text) : Nat :=
  digits.foldl (fun value c => 10 * value + (c.toNat - 48)) 0

/-- Read a non-empty string of ASCII digits. -/
def readDigits? (text : Text) : Option Nat :=
  if !text.isEmpty && text.all Char.isDigit then some (digitsValue text) else none

/-- Read a natural number with an optional plus sign. -/
def readNat? (text : Text) : Option Nat :=
  match text with
  | '+' :: digits => readDigits? digits
  | digits => readDigits? digits

/-- Read a natural number of at most 64 bits with an optional plus sign. -/
def readNat64? (text : Text) : Option Nat :=
  (readNat? text).filter (· < UInt64.size)

/-- Read an integer with an optional sign. -/
def readInt? (text : Text) : Option Int :=
  match text with
  | '-' :: digits => (readDigits? digits).map fun n => -(n : Int)
  | text => (readNat? text).map Int.ofNat

/-- The integer has a signed representation in 64 bits. -/
def fitsInt64 (n : Int) : Bool :=
  Int64.minValue.toInt ≤ n && n ≤ Int64.maxValue.toInt

/-- The integer has a signed representation in 32 bits. -/
def fitsInt32 (n : Int) : Bool :=
  Int32.minValue.toInt ≤ n && n ≤ Int32.maxValue.toInt

/-- Read a signed 64-bit integer, refusing one out of range. -/
def readInt64? (text : Text) : Option Int64 :=
  ((readInt? text).filter fitsInt64).map Int64.ofInt

/-- The hexadecimal digits of a natural number, in upper case. -/
def hex (n : Nat) : Text :=
  (Nat.toDigits 16 n).map Char.toUpper

end Decimal

end RefExpand
