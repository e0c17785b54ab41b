import RefExpand.Failure
import RefExpand.Value.Basic

namespace RefExpand

/-!
# Number patterns

A pattern is a row of zeros, or a letter with a precision: `D` pads an integer,
`X` writes it in base 16, `F` has a fixed number of digits after the point, and
`N` groups the digits before it by three.
-/

namespace NumberPattern

/-- Group every digit after the first; a comma stands where a multiple of three digits follows. -/
def groupTail : Text → Text
  | [] => []
  | c :: rest =>
      if (rest.length + 1) % 3 = 0 then ',' :: c :: groupTail rest else c :: groupTail rest

/-- Group digits by three, from the right. -/
def group : Text → Text
  | [] => []
  | c :: rest => c :: groupTail rest

/-- Group the digits between a sign and a point. -/
def groupThousands (fixed : Text) : Text :=
  let (sign, unsigned) : Text × Text :=
    match fixed with
    | '-' :: rest => (['-'], rest)
    | rest => ([], rest)
  match Text.breakAt? (· == '.') unsigned with
  | some (whole, fraction) => sign ++ group whole ++ '.' :: fraction
  | none => sign ++ group unsigned

/-- An integer with at least `width` digits after its sign. -/
def padInteger (width : Nat) (n : Int) : Text :=
  if n < 0 then '-' :: Decimal.padded width n.natAbs else Decimal.padded width n.natAbs

/-- The base-16 digits of the 64 bits of an integer, at least `width` of them. -/
def hexadecimal (width : Nat) (n : Int64) : Text :=
  Decimal.padZeros width (Decimal.hex n.toUInt64.toNat)

/-- A number under a letter and a precision. -/
def byLetter (letter : Char) (precision : Option Nat) : Value → Option Text
  | .int n =>
      match letter with
      | 'D' | 'd' => some (padInteger (precision.getD 1) n.toInt)
      | 'X' => some (hexadecimal (precision.getD 1) n)
      | 'x' => some (hexadecimal (precision.getD 1) n).lowerAscii
      | 'F' | 'f' => some (Number.fixedText (precision.getD 2) (Number.floatOfInt n.toInt))
      | 'N' | 'n' =>
          some (groupThousands (Number.fixedText (precision.getD 2) (Number.floatOfInt n.toInt)))
      | _ => none
  | .float f =>
      match letter with
      | 'F' | 'f' => some (Number.fixedText (precision.getD 2) f)
      | 'N' | 'n' => some (groupThousands (Number.fixedText (precision.getD 2) f))
      | _ => none
  | _ => none

/-- A number under a row of zeros. -/
def byZeros (width : Nat) : Value → Option Text
  | .int n => some (padInteger width n.toInt)
  | .float f => some (padInteger width (Number.toInt64Clamped (Number.roundEven f)).toInt)
  | _ => none

/-- Read a precision: nothing, or a natural number. -/
def readPrecision? (text : Text) : Option (Option Nat) :=
  if text.isEmpty then some none else (Decimal.readNat64? text).map some

end NumberPattern

namespace Value

/--
The text of a value under a number pattern, none if the pattern does not apply
to it. The letter is taken to be one byte.
-/
def formatNumber (value : Value) (pattern : Text) : Except Halt (Option Text) :=
  match pattern.trim with
  | [] => .ok (some value.raw)
  | letter :: rest =>
      if (letter :: rest).all (· == '0') then
        .ok (NumberPattern.byZeros (rest.length + 1) value)
      else if letter.utf8Size ≠ 1 then
        .error (.cutCharacter 1 (letter :: rest))
      else
        .ok <|
          (NumberPattern.readPrecision? rest).bind fun precision =>
            NumberPattern.byLetter letter precision value

end Value

end RefExpand
