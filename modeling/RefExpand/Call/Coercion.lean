import RefExpand.Call.Parameter
import RefExpand.Number.FloatReading
import RefExpand.Value.Basic

namespace RefExpand

/-!
# Coercion of arguments

An evaluated argument fits a parameter exactly, or is converted to it, or is
refused. Null becomes null for a text and the zero of the type for a number.
-/

/-- An evaluated argument. -/
inductive Operand where
  | value (content : Value)
  | out
  deriving Inhabited

namespace Operand

/-- The value of an operand that is no placeholder. -/
def value? : Operand → Option Value
  | .value content => some content
  | .out => none

/-- The operand is the out placeholder. -/
def isOut : Operand → Bool
  | .value _ => false
  | .out => true

end Operand

namespace Value

/-- The value is a character. -/
def isChar : Value → Bool
  | .char _ => true
  | _ => false

/-- The value has the parameter's type as it is. -/
def fits (value : Value) (parameter : ParameterType) : Bool :=
  match parameter, value with
  | .any, _ => true
  | .str, .str _ | .str, .null => true
  | .int, .int n => Decimal.fitsInt32 n.toInt
  | .long, .int _ => true
  | .float, .float _ => true
  | .bool, .bool _ => true
  | .char, .char _ => true
  | .charArray, .seq items => items.all isChar
  | .version, .version _ => true
  | _, _ => false

/-- The integer that a value stands for; a double is rounded and must be in range. -/
def toInteger? : Value → Option Int64
  | .null => some 0
  | .int n => some n
  | .float f =>
      let aboveRange : Int := Int64.maxValue.toInt + 1
      ((Number.nearestInt? f).filter fun n => Int64.minValue.toInt ≤ n && n ≤ aboveRange).map
        fun n => if n = aboveRange then Int64.maxValue else Int64.ofInt n
  | .bool b => some (if b then 1 else 0)
  | .char c => some (Int64.ofNat c.toNat)
  | .str text => Number.readInteger? text
  | _ => none

/-- The integer of 32 bits that a value stands for. -/
def toInteger32? (value : Value) : Option Int64 :=
  value.toInteger?.filter fun n => Decimal.fitsInt32 n.toInt

/-- The double that a value stands for. -/
def toFloat? : Value → Option Float
  | .null => some 0.0
  | .int n => some (Number.floatOfInt n.toInt)
  | .float f => some f
  | .bool b => some (if b then 1.0 else 0.0)
  | .str text => Number.readFloat? text
  | _ => none

/-- Read one of the two words for truth values, between blanks. -/
def readBool? (text : Text) : Option Bool :=
  if Text.sameName text.trim "true" then some true
  else if Text.sameName text.trim "false" then some false
  else none

/-- The truth value that a value stands for. -/
def toBool? : Value → Option Bool
  | .null => some false
  | .bool b => some b
  | .int n => some (n != 0)
  | .float f => some (f != 0.0)
  | .str text => readBool? text
  | _ => none

/-- The character with this code, if it is one. -/
def charOfCode? (n : Int) : Option Char :=
  if 0 ≤ n ∧ n.toNat.isValidChar then some (Char.ofNat n.toNat) else none

/-- The character that a value stands for. -/
def toChar? : Value → Option Char
  | .null => some '\x00'
  | .char c => some c
  | .int n => charOfCode? n.toInt
  | .str [c] => some c
  | _ => none

/-- The characters that a value stands for; null stays null. -/
def toChars? : Value → Option Value
  | .null => some .null
  | .str text => some (.seq (text.map .char))
  | .char c => some (.seq [.char c])
  | .seq items => if items.all isChar then some (.seq items) else none
  | _ => none

/-- The version that a value stands for. -/
def toVersion? : Value → Option Version
  | .version v => some v
  | .str text => Version.read? text
  | _ => none

end Value

namespace EnumType

/-- The text without a qualifier and a point, up to the case of the qualifier. -/
def dropQualifier? (qualifier text : Text) : Option Text :=
  if Text.sameName (text.take qualifier.length) qualifier then
    match text.drop qualifier.length with
    | '.' :: rest => some rest
    | _ => none
  else
    none

/-- The number of one member, which may be qualified with the name of the enumeration. -/
def readMember? (enumType : EnumType) (text : Text) : Option Int64 :=
  let member :=
    (dropQualifier? enumType.name text).or (dropQualifier? enumType.shortName text)
  enumType.valueOf? (member.getD text)

/-- Read a number, a member, or members of a set of flags separated by bars or commas. -/
def read? (enumType : EnumType) (text : Text) : Option Int64 :=
  match Number.readInteger? text with
  | some n => some n
  | none =>
      let parts := (Text.splitAtChars (fun c => c == '|' || c == ',') text.trim).map Text.trim
      ((parts.mapM enumType.readMember?).filter fun _ => parts.length ≤ 1 || enumType.flags).map
        (·.foldl (· ||| ·) 0)

end EnumType

namespace Value

/-- The number of an enumeration that a value stands for. -/
def toEnum? (enumType : EnumType) : Value → Option Int64
  | .null => some 0
  | .int n => some n
  | .str text => enumType.read? text
  | _ => none

/-- The raw text of a value; null stays null. -/
def toStr : Value → Value
  | .null => .null
  | .str text => .str text
  | other => .str other.raw

/-- The value converted to the parameter's type. -/
def coerce? (value : Value) : ParameterType → Option Value
  | .any => some value
  | .str => some value.toStr
  | .int => value.toInteger32?.map .int
  | .long => value.toInteger?.map .int
  | .float => value.toFloat?.map .float
  | .bool => value.toBool?.map .bool
  | .char => value.toChar?.map .char
  | .charArray => value.toChars?
  | .enumeration enumType => (value.toEnum? enumType).map .int
  | .version => value.toVersion?.map .version
  | .out => none

end Value

namespace Operand

/-- The operand has the parameter's type as it is. -/
def fits (operand : Operand) (parameter : ParameterType) : Bool :=
  match operand, parameter with
  | .out, .out => true
  | .out, _ | .value _, .out => false
  | .value content, parameter => content.fits parameter

/-- The operand converted to the parameter's type; a placeholder gives null. -/
def coerce? (operand : Operand) (parameter : ParameterType) : Option Value :=
  match operand, parameter with
  | .out, .out => some .null
  | .out, _ | .value _, .out => none
  | .value content, parameter => content.coerce? parameter

/-- All operands converted, if there are as many as parameters. -/
def coerceAll? : List Operand → List ParameterType → Option (List Value)
  | [], [] => some []
  | operand :: operands, parameter :: parameters => do
      let first ← operand.coerce? parameter
      let others ← coerceAll? operands parameters
      return first :: others
  | _, _ => none

end Operand

end RefExpand
