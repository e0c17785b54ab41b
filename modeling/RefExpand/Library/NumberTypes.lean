import RefExpand.Call.Catalog

namespace RefExpand

/-!
# Types of numbers and truth values

Mathematics, conversions, and the readers and limits of the number types.
Rounding to digits scales, rounds to the even neighbour and scales back.
-/

namespace NumberTypes

/-- A function of one double. -/
def onFloat (operation : Float → Float) : Body := fun call => do
  return .float (operation (← call.float 0))

/-- A function of two doubles. -/
def onTwoFloats (operation : Float → Float → Float) : Body := fun call => do
  return .float (operation (← call.float 0) (← call.float 1))

/-- A function of two integers. -/
def onTwoIntegers (operation : Int64 → Int64 → Int64) : Body := fun call => do
  return .int (operation (← call.integer 0) (← call.integer 1))

/-- The absolute value of an integer, which the least one does not have. -/
def absInteger : Body := fun call => do
  let n ← call.integer 0
  if n = Int64.minValue then
    throw <| .failed
      "Negating the minimum value of a twos complement number is invalid."
  else
    return .int (if n < 0 then -n else n)

/-- A double rounded to so many decimal digits. -/
def roundToDigits : Body := fun call => do
  let digits ← call.integer 1
  if digits < 0 ∨ 15 < digits then
    throw (.failed "Rounding digits must be between 0 and 15, inclusive.")
  else
    let scale := Number.floatOfNat false (Decimal.tenTo digits.toInt.toNat)
    return .float (Number.roundEven ((← call.float 0) * scale) / scale)

/-- The sign of an integer. -/
def signOfInteger : Body := fun call => do
  let n ← call.integer 0
  return .int (if n < 0 then -1 else if n = 0 then 0 else 1)

/-- The sign of a double that is a number. -/
def signOfFloat : Body := fun call => do
  let f ← call.float 0
  if f.isNaN then
    throw (.failed "Function does not accept floating point Not-a-Number values.")
  else
    return .int (if f > 0.0 then 1 else if f < 0.0 then -1 else 0)

/-- A member with an overload for integers and one for doubles. -/
def byKind (name : String) (count : Nat) (integers floats : Body) : Member :=
  { name
    overloads := [
      { parameters := List.replicate count .long, body := integers },
      { parameters := List.replicate count .float, body := floats }] }

/-- Mathematics. -/
def mathType : TypeEntry :=
  { name := "System.Math"
    members := [
      byKind "Abs" 1 absInteger (onFloat Float.abs),
      byKind "Max" 2 (onTwoIntegers max) (onTwoFloats Number.maximum),
      byKind "Min" 2 (onTwoIntegers min) (onTwoFloats Number.minimum),
      .single "Floor" [.float] (onFloat Float.floor),
      .single "Ceiling" [.float] (onFloat Float.ceil),
      { name := "Round"
        overloads := [
          { parameters := [.float], body := onFloat Number.roundEven },
          { parameters := [.float, .int], body := roundToDigits }] },
      .single "Pow" [.float, .float] (onTwoFloats Float.pow),
      .single "Sqrt" [.float] (onFloat Float.sqrt),
      .single "Truncate" [.float] (onFloat Number.truncate),
      byKind "Sign" 1 signOfInteger signOfFloat] }

/-- The first argument, already converted. -/
def converted : Body := fun call => .ok (call.argument 0)

/-- The raw text of the first argument. -/
def convertedText : Body := fun call => .ok (.str (call.argument 0).raw)

/-- Conversions. -/
def convertType : TypeEntry :=
  { name := "System.Convert"
    members := [
      .single "ToInt32" [.int] converted,
      .single "ToInt64" [.long] converted,
      .single "ToDouble" [.float] converted,
      .single "ToBoolean" [.bool] converted,
      .single "ToString" [.any] convertedText] }

/-- Read a text that must not be null, or fail with a message. -/
def reading (message : Text) (read? : Text → Option Value) : Body := fun call => do
  match read? (← call.text 0) with
  | some value => return value
  | none => throw (.failed message)

/-- The text can be read; null counts as empty. -/
def canRead (read? : Text → Option Value) : Body := fun call => do
  return .bool (read? (← call.textOrEmpty 0)).isSome

/-- A value that needs no arguments. -/
def limit (name : String) (value : Value) : Member :=
  .single name [] fun _ => .ok value

/-- The two readers of a type. -/
def readers (message : Text) (read? : Text → Option Value) : List Member := [
  .single "Parse" [.str] (reading message read?),
  .single "TryParse" [.str, .out] (canRead read?)]

/-- What is said of a text that is no number. -/
def noNumber : Text :=
  "Input string was not in a correct format."

/-- Read an integer of 32 bits. -/
def readInteger32? (text : Text) : Option Value :=
  ((Number.readInteger? text).filter fun n => Decimal.fitsInt32 n.toInt).map .int

/-- Read an integer of 64 bits. -/
def readInteger64? (text : Text) : Option Value :=
  (Number.readInteger? text).map .int

/-- Read a double. -/
def readDouble? (text : Text) : Option Value :=
  (Number.readFloat? text).map .float

/-- Read a truth value. -/
def readTruth? (text : Text) : Option Value :=
  (Value.readBool? text).map .bool

/-- Integers of 32 bits. -/
def int32Type : TypeEntry :=
  { name := "System.Int32"
    members := readers noNumber readInteger32? ++
      [limit "MaxValue" (.int 2147483647), limit "MinValue" (.int (-2147483648))] }

/-- Integers of 64 bits. -/
def int64Type : TypeEntry :=
  { name := "System.Int64"
    members := readers noNumber readInteger64? ++
      [limit "MaxValue" (.int Int64.maxValue), limit "MinValue" (.int Int64.minValue)] }

/-- The largest finite double, with a sign. -/
def largest (negative : Bool) : Value :=
  .float (Number.floatOfNat negative ((twoTo 53 - 1) * twoTo 971))

/-- Doubles. -/
def doubleType : TypeEntry :=
  { name := "System.Double"
    members := readers noNumber readDouble? ++
      [limit "MaxValue" (largest false), limit "MinValue" (largest true)] }

/-- Truth values. -/
def booleanType : TypeEntry :=
  { name := "System.Boolean"
    members := readers "String was not recognized as a valid Boolean." readTruth? }

end NumberTypes

end RefExpand
