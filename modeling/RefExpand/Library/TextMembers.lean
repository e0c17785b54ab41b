import RefExpand.Call.Catalog
import RefExpand.Text.Order

namespace RefExpand

/-!
# Members of texts

What can be called on a text. Positions are counted in characters; a comparison
number that is odd asks to ignore case.
-/

namespace TextMembers

/-- What is said of a position that is not in the text. -/
def outOfRange : CallError :=
  .failed "Index and length must refer to a location within the string."

/-- A position argument. -/
def position (call : Invocation) (index : Nat) : Except CallError Nat :=
  call.natural index "Index and length must refer to a location within the string."

/-- The value of a position that was found, or -1. -/
def positionValue (found : Option Nat) : Value :=
  .int ((found.map Int64.ofNat).getD (-1))

/-- The text that is there, or a failure. -/
def within (part : Option Text) : Except CallError Text :=
  match part with
  | some text => .ok text
  | none => .error outOfRange

/-- The comparison ignores case. -/
def ignoresCase (comparison : Int64) : Bool :=
  comparison % 2 == 1

/-- The comparison argument ignores case; without one, case counts. -/
def ignoresCaseAt (call : Invocation) (index : Nat) : Except CallError Bool :=
  if index < call.count then (call.integer index).map ignoresCase else .ok false

/-- The number of characters. -/
def length : Body := fun call => do
  return .int (Int64.ofNat (← call.thisText).length)

/-- The character at a position. -/
def charAt : Body := fun call => do
  let index ← position call 0
  match (← call.thisText)[index]? with
  | some c => return .char c
  | none => throw (.failed "Index was outside the bounds of the array.")

/-- The text from a position on, or a stretch of it. -/
def substring : Body := fun call => do
  let start ← position call 0
  if call.count = 2 then
    let length ← position call 1
    return .str (← within ((← call.thisText).stretch? start length))
  else
    return .str (← within ((← call.thisText).tailFrom? start))

/-- The text in upper case. -/
def toUpper : Body := fun call => do
  return .str (← call.thisText).upper

/-- The text in lower case. -/
def toLower : Body := fun call => do
  return .str (← call.thisText).lower

/-- The characters that a trim removes: those given, or else blanks. -/
def trimmed (call : Invocation) : Except CallError (Char → Bool) := do
  let given ← if call.count = 0 then pure [] else call.chars 0
  return fun c => if given.isEmpty then isBlank c else given.contains c

/-- The text without the characters of a set at both ends. -/
def trim : Body := fun call => do
  let inSet ← trimmed call
  return .str ((← call.thisText).trimBy inSet)

/-- The text without the characters of a set at its beginning. -/
def trimStart : Body := fun call => do
  let inSet ← trimmed call
  return .str ((← call.thisText).trimStartBy inSet)

/-- The text without the characters of a set at its end. -/
def trimEnd : Body := fun call => do
  let inSet ← trimmed call
  return .str ((← call.thisText).trimEndBy inSet)

/-- Every occurrence of a text replaced by another, which may be null. -/
def replace : Body := fun call => do
  let needle ← call.text 0
  if needle.isEmpty then
    throw (.failed "String cannot be of zero length.")
  else
    let this ← call.thisText
    return .str (Text.replace needle (← call.textOrEmpty 1) this)

/-- The text holds another one. -/
def contains : Body := fun call => do
  let this ← call.thisText
  return .bool (Text.holds (← call.text 0) this)

/-- The text starts with another one, perhaps up to case. -/
def startsWith : Body := fun call => do
  let ignoreCase ← ignoresCaseAt call 1
  let this ← call.thisText
  let beginning ← call.text 0
  return .bool (Text.startsWith (beginning.folded ignoreCase) (this.folded ignoreCase))

/-- The text ends with another one, perhaps up to case. -/
def endsWith : Body := fun call => do
  let ignoreCase ← ignoresCaseAt call 1
  let this ← call.thisText
  let ending ← call.text 0
  return .bool (Text.endsWith (ending.folded ignoreCase) (this.folded ignoreCase))

/-- The text equals another one, perhaps up to case; it never equals null. -/
def equals : Body := fun call => do
  let ignoreCase ← ignoresCaseAt call 1
  match ← call.optionalText 0 with
  | some other => return .bool (Text.equalUnder ignoreCase (← call.thisText) other)
  | none => return .bool false

/-- The first position of another text, perhaps up to case. -/
def indexOf : Body := fun call => do
  let ignoreCase ← ignoresCaseAt call 1
  let this ← call.thisText
  let needle ← call.text 0
  return positionValue (Text.indexFrom? (needle.folded ignoreCase) (this.folded ignoreCase) 0)

/-- The first position of another text from a position on. -/
def indexOfFrom : Body := fun call => do
  let this ← call.thisText
  let start ← position call 1
  if this.length < start then
    throw (.failed "Index was out of range.")
  else
    return positionValue (Text.indexFrom? (← call.text 0) this start)

/-- The last position of another text, perhaps up to case. -/
def lastIndexOf : Body := fun call => do
  let ignoreCase ← ignoresCaseAt call 1
  let this ← call.thisText
  let needle ← call.text 0
  return positionValue (Text.lastIndex? (needle.folded ignoreCase) (this.folded ignoreCase))

/-- The first position of a character of a set. -/
def indexOfAny : Body := fun call => do
  let set ← call.chars 0
  return positionValue ((← call.thisText).indexWhere? set.contains)

/-- The pieces of a split: the first option bit drops empty ones, the second trims. -/
def finishSplit (options : Int64) (pieces : List Text) : Value :=
  let pieces := if options &&& 2 != 0 then pieces.map Text.trim else pieces
  let pieces := if options &&& 1 != 0 then pieces.filter (!·.isEmpty) else pieces
  .seq (pieces.map .str)

/-- The options of a split. -/
def splitOptions (call : Invocation) : Except CallError Int64 :=
  if 1 < call.count then call.integer 1 else .ok 0

/-- The stretches between the characters of a set, or between blanks. -/
def split : Body := fun call => do
  let separators ← call.chars 0
  let options ← splitOptions call
  let isSeparator := fun c => if separators.isEmpty then isBlank c else separators.contains c
  return finishSplit options (Text.splitAtChars isSeparator (← call.thisText))

/-- The stretches between the occurrences of another text. -/
def splitByText : Body := fun call => do
  let separator ← call.textOrEmpty 0
  let options ← splitOptions call
  return finishSplit options (Text.splitOn separator (← call.thisText))

/-- The padding that a text lacks to a width. -/
def padding (call : Invocation) : Except CallError (Text × Text) := do
  let width ← call.natural 0 "Non-negative number required."
  let fill ← if 1 < call.count then call.char 1 else pure ' '
  let this ← call.thisText
  return (List.replicate (width - this.length) fill, this)

/-- The text with characters put before it up to a width. -/
def padLeft : Body := fun call => do
  let (fill, this) ← padding call
  return .str (fill ++ this)

/-- The text with characters put behind it up to a width. -/
def padRight : Body := fun call => do
  let (fill, this) ← padding call
  return .str (this ++ fill)

/-- The text with another one put in at a position. -/
def insert : Body := fun call => do
  let this ← call.thisText
  let start ← position call 0
  let head ← within (this.stretch? 0 start)
  let tail ← within (this.tailFrom? start)
  return .str (head ++ (← call.text 1) ++ tail)

/-- The text before a position, and what follows a stretch of a length. -/
def remove : Body := fun call => do
  let this ← call.thisText
  let start ← position call 0
  let head ← within (this.stretch? 0 start)
  if call.count = 2 then
    let length ← position call 1
    return .str (head ++ (← within (this.tailFrom? (start + length))))
  else
    return .str head

/-- The order of the text and another one; null comes first. -/
def compareTo : Body := fun call => do
  match ← call.optionalText 0 with
  | some other => return .int (orderNumber (Text.order (← call.thisText) other))
  | none => return .int 1

/-- The characters of the text. -/
def toCharArray : Body := fun call => do
  return .seq ((← call.thisText).map .char)

/-- The raw text of any receiver. -/
def toText : Body := fun call => do
  return .str (← call.this).raw

/-- The name of the type of any receiver. -/
def getType : Body := fun call => do
  return .str (← call.this).typeName

/-- The member that every value has. -/
def typeMember : Member :=
  .single "GetType" [] getType

/-- A text and a way to compare. -/
def textAndComparison : List ParameterType :=
  [.str, .enumeration .stringComparison]

/-- The members of a text. -/
def members : List Member := [
  .single "Length" [] length,
  .single "Chars" [.int] charAt,
  .shared "Substring" [[.int], [.int, .int]] substring,
  .single "ToUpper" [] toUpper,
  .single "ToLower" [] toLower,
  .single "ToUpperInvariant" [] toUpper,
  .single "ToLowerInvariant" [] toLower,
  .shared "Trim" [[], [.charArray]] trim,
  .shared "TrimStart" [[], [.charArray]] trimStart,
  .shared "TrimEnd" [[], [.charArray]] trimEnd,
  .single "Replace" [.str, .str] replace,
  .single "Contains" [.str] contains,
  .shared "StartsWith" [[.str], textAndComparison] startsWith,
  .shared "EndsWith" [[.str], textAndComparison] endsWith,
  .shared "Equals" [[.str], textAndComparison] equals,
  { name := "IndexOf"
    overloads := [
      { parameters := [.str], body := indexOf },
      { parameters := [.str, .int], body := indexOfFrom },
      { parameters := textAndComparison, body := indexOf }] },
  .shared "LastIndexOf" [[.str], textAndComparison] lastIndexOf,
  .single "IndexOfAny" [.charArray] indexOfAny,
  { name := "Split"
    overloads := [
      { parameters := [.charArray], body := split },
      { parameters := [.charArray, .enumeration .stringSplitOptions], body := split },
      { parameters := [.str, .enumeration .stringSplitOptions], body := splitByText }] },
  .shared "PadLeft" [[.int], [.int, .char]] padLeft,
  .shared "PadRight" [[.int], [.int, .char]] padRight,
  .single "Insert" [.int, .str] insert,
  .shared "Remove" [[.int], [.int, .int]] remove,
  .single "CompareTo" [.str] compareTo,
  .single "ToString" [] toText,
  .single "ToCharArray" [] toCharArray,
  typeMember]

end TextMembers

end RefExpand
