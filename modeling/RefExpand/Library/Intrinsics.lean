import RefExpand.Call.Catalog
import RefExpand.Project.Path
import RefExpand.Text.Base64
import RefExpand.Text.Escaping
import RefExpand.Text.StableHash
import RefExpand.Text.Utf8

namespace RefExpand

/-!
# Intrinsic functions

The functions of the engine itself: arithmetic on integers and doubles, bits,
escaping, paths, the search for a file in the directories above, and versions.
Sums and products wrap to 64 bits; a quotient that has no value fails.
-/

namespace Intrinsics

/-- An operation on two integers. -/
def onIntegers (operation : Int64 → Int64 → Int64) : Body := fun call => do
  return .int (operation (← call.integer 0) (← call.integer 1))

/-- An operation on two doubles. -/
def onFloats (operation : Float → Float → Float) : Body := fun call => do
  return .float (operation (← call.float 0) (← call.float 1))

/-- What is said of a result that has no 64 bits. -/
def overflow : CallError :=
  .failed "Arithmetic operation resulted in an overflow."

/-- A division of integers: the divisor is not zero, and the quotient fits in 64 bits. -/
def dividing (operation : Int64 → Int64 → Int64) : Body := fun call => do
  let divisor ← call.integer 1
  if divisor = 0 then
    throw (.failed "Attempted to divide by zero.")
  else
    let dividend ← call.integer 0
    if dividend = Int64.minValue ∧ divisor = -1 then throw overflow
    else return .int (operation dividend divisor)

/-- An integer of 32 bits. -/
def integer32 (call : Invocation) (index : Nat) : Except CallError Int64 := do
  let n ← call.integer index
  if Decimal.fitsInt32 n.toInt then return n else throw overflow

/-- An operation on the bits of two integers of 32 bits. -/
def onBits (operation : Int64 → Int64 → Int64) : Body := fun call => do
  return .int (operation (← integer32 call 0) (← integer32 call 1))

/-- The complement of the bits of an integer of 32 bits. -/
def complement : Body := fun call => do
  return .int (~~~ (← integer32 call 0))

/-- The escaped form of a text. -/
def escape : Body := fun call => do
  return .str (← call.textOrEmpty 0).escape

/-- The plain form of a text. -/
def unescape : Body := fun call => do
  return .str (← call.textOrEmpty 0).unescape

/-- The bytes of a text in base 64. -/
def toBase64 : Body := fun call => do
  return .str (Base64.encode (Utf8.encode (← call.textOrEmpty 0)))

/-- The text whose bytes are given in base 64. -/
def fromBase64 : Body := fun call => do
  let written := Text.trim (← call.textOrEmpty 0)
  match Base64.decode written with
  | .error fault =>
      throw (.failed ("The input is not a valid Base-64 string: ".toList ++ fault.message))
  | .ok bytes =>
      match Utf8.decode bytes with
      | .error fault => throw (.failed fault.message)
      | .ok text => return .str text

/-- A text, or another one if it is empty. -/
def valueOrDefault : Body := fun call => do
  let value ← call.textOrEmpty 0
  if value.isEmpty then return .str (← call.textOrEmpty 1) else return .str value

/-- A character that may stand in a plain file name. -/
def isPlain (c : Char) : Bool :=
  ' ' ≤ c && c ≤ '~' && !("\"<>|:*?\\/".toList).contains c

/-- A stretch of a text with an underscore for every character that is not plain. -/
def substringByAsciiChars : Body := fun call => do
  let text ← call.textOrEmpty 0
  let start ← call.natural 1 "start index cannot be negative"
  let length ← call.natural 2 "length cannot be negative"
  return .str (((text.drop start).take length).map fun c => if isPlain c then c else '_')

/-- A number that depends on nothing but the text. -/
def stableStringHash : Body := fun call => do
  return .int (Text.stableHash (← call.textOrEmpty 0)).toInt64

/-- All arguments as texts. -/
def textArguments (call : Invocation) : Except CallError (List Text) :=
  (List.range call.count).mapM call.text

/-- The full path of all arguments put together. -/
def normalizedPath (call : Invocation) : Except CallError Text := do
  let parts ← textArguments call
  let combined := parts.tail.foldl Path.combine (parts.headD [])
  return Path.fullPath (Path.fixSeparators combined) (← call.surroundings.currentDirectory)

/-- The full path of all arguments put together. -/
def normalizePath : Body := fun call =>
  (normalizedPath call).map .str

/-- The full path of all arguments put together, with a separator at its end. -/
def normalizeDirectory : Body := fun call =>
  (normalizedPath call).map fun path => .str (Path.ensureTrailingSlash path)

/-- A path with a separator at its end. -/
def ensureTrailingSlash : Body := fun call => do
  return .str (Path.ensureTrailingSlash (← call.textOrEmpty 0))

/-- The way from a directory to a path. -/
def makeRelative : Body := fun call => do
  let base ← call.textOrEmpty 0
  let path ← call.textOrEmpty 1
  return .str (Path.makeRelative base path (← call.surroundings.currentDirectory))

/-- A path without one separator at its end, unless it is a root. -/
def dropTrailingSeparator (path : Text) : Text :=
  if Path.endsWithSeparator path && !(Path.afterRoot path).isEmpty then path.dropLast else path

/-- The nearest of a directory and those above it that holds a file; empty if none does. -/
def directoryHolding (fs : FileSystem) (file directory : Text) : Text :=
  let candidates := directory :: Path.ancestors directory
  (candidates.find? fun candidate => fs.fileExists (Path.combine candidate file)).getD []

/-- The nearest directory from a starting one upwards that holds a file. -/
def directoryOfFileAbove (call : Invocation) (start file : Text) : Except CallError Text := do
  let directory := Path.fullPath start (← call.surroundings.currentDirectory)
  return directoryHolding call.surroundings.fileSystem file (dropTrailingSeparator directory)

/-- The nearest directory from the first argument upwards that holds the second. -/
def getDirectoryNameOfFileAbove : Body := fun call => do
  let start ← call.textOrEmpty 0
  return .str (← directoryOfFileAbove call start (← call.text 1))

/-- The path of the nearest file of a name, in the directories from a starting one upwards. -/
def getPathOfFileAbove : Body := fun call => do
  let file ← call.text 0
  if Path.fileName file ≠ file then
    throw <| .failed <|
      ExpandError.quoted file ++ " must be a file name without directory information".toList
  else
    let start ←
      if call.count = 1 then call.surroundings.startingDirectory else call.textOrEmpty 1
    let directory ← directoryOfFileAbove call start file
    if directory.isEmpty then return .str []
    else return .str (Path.normalize (Path.combine directory file))

/-- A lenient version. -/
def simpleVersion (text : Text) : Except CallError (List Nat) :=
  match Version.readSimple? text with
  | some components => .ok components
  | none => .error (.failed (Version.refusal text))

/-- A test of the order of two lenient versions. -/
def comparingVersions (test : Ordering → Bool) : Body := fun call => do
  let left ← simpleVersion (← call.textOrEmpty 0)
  let right ← simpleVersion (← call.textOrEmpty 1)
  return .bool (test (compareOfLessAndEq left right))

/-- The name of the platform. -/
def platform : Text := "linux"

/-- The platform has this name. -/
def isOSPlatform : Body := fun call => do
  return .bool (Text.lowerAscii (Text.trim (← call.textOrEmpty 0)) == platform)

/-- A body that ignores its arguments. -/
def constant (value : Value) : Body := fun _ => .ok value

/-- An integer and a double overload of one operation. -/
def numeric (name : String) (integers floats : Body) : Member :=
  { name
    overloads := [
      { parameters := [.long, .long], body := integers },
      { parameters := [.float, .float], body := floats }] }

/-- One to four texts. -/
def textLists : List (List ParameterType) :=
  [[.str], [.str, .str], [.str, .str, .str], [.str, .str, .str, .str]]

/-- The members of the engine's own type. -/
def members : List Member := [
  numeric "Add" (onIntegers (· + ·)) (onFloats (· + ·)),
  numeric "Subtract" (onIntegers (· - ·)) (onFloats (· - ·)),
  numeric "Multiply" (onIntegers (· * ·)) (onFloats (· * ·)),
  numeric "Divide" (dividing (· / ·)) (onFloats (· / ·)),
  numeric "Modulo" (dividing (· % ·)) (onFloats Number.remainder),
  .single "BitwiseOr" [.int, .int] (onBits (· ||| ·)),
  .single "BitwiseAnd" [.int, .int] (onBits (· &&& ·)),
  .single "BitwiseXor" [.int, .int] (onBits (· ^^^ ·)),
  .single "BitwiseNot" [.int] complement,
  .single "Escape" [.str] escape,
  .single "Unescape" [.str] unescape,
  .single "ConvertToBase64" [.str] toBase64,
  .single "ConvertFromBase64" [.str] fromBase64,
  .single "ValueOrDefault" [.str, .str] valueOrDefault,
  .shared "NormalizePath" textLists normalizePath,
  .shared "NormalizeDirectory" textLists normalizeDirectory,
  .single "EnsureTrailingSlash" [.str] ensureTrailingSlash,
  .single "MakeRelative" [.str, .str] makeRelative,
  .single "GetDirectoryNameOfFileAbove" [.str, .str] getDirectoryNameOfFileAbove,
  .shared "GetPathOfFileAbove" [[.str], [.str, .str]] getPathOfFileAbove,
  .single "VersionEquals" [.str, .str] (comparingVersions Ordering.isEq),
  .single "VersionNotEquals" [.str, .str] (comparingVersions Ordering.isNe),
  .single "VersionGreaterThan" [.str, .str] (comparingVersions Ordering.isGT),
  .single "VersionGreaterThanOrEquals" [.str, .str] (comparingVersions Ordering.isGE),
  .single "VersionLessThan" [.str, .str] (comparingVersions Ordering.isLT),
  .single "VersionLessThanOrEquals" [.str, .str] (comparingVersions Ordering.isLE),
  .single "IsOSPlatform" [.str] isOSPlatform,
  .single "IsOsUnixLike" [] (constant (.bool true)),
  .single "IsOsBsdLike" [] (constant (.bool false)),
  .single "StableStringHash" [.str] stableStringHash,
  .single "DoesTaskHostExist" [.str, .str] (constant (.bool false)),
  .single "SubstringByAsciiChars" [.str, .int, .int] substringByAsciiChars]

/-- The engine's own type. -/
def entry : TypeEntry :=
  { name := "MSBuild"
    members
    isIntrinsic := true
    arithmetic := ["Add", "Subtract", "Multiply", "Divide", "Modulo"]
    preescaped := ["Escape", "Unescape", "ConvertFromBase64"] }

end Intrinsics

end RefExpand
