import RefExpand.Library.TextMembers
import RefExpand.Pattern.Replacement
import RefExpand.Value.Composite

namespace RefExpand

/-!
# Types of texts, characters and patterns

What is called by the name of the text type, the character type and the type of
regular patterns.
-/

namespace TextTypes

open TextMembers (ignoresCaseAt)

/-- A character repeated. -/
def repeated : Body := fun call => do
  let count ← call.natural 1 "count cannot be negative"
  return .str (List.replicate count (← call.char 0))

/-- The text of an array of characters. -/
def ofChars : Body := fun call => do
  return .str (← call.chars 0)

/-- The text is null or empty. -/
def isNullOrEmpty : Body := fun call => do
  return .bool ((← call.optionalText 0).all List.isEmpty)

/-- The text is null or blank. -/
def isNullOrBlank : Body := fun call => do
  return .bool ((← call.optionalText 0).all fun text => text.trim.isEmpty)

/-- All texts one behind the other. -/
def concat : Body := fun call => do
  return .str ((← (List.range call.count).mapM call.textOrEmpty).flatten)

/-- The text itself. -/
def copy : Body := fun call => do
  return .str (← call.text 0)

/-- Two texts are equal, perhaps up to case, or both are null. -/
def equals : Body := fun call => do
  let ignoreCase ← ignoresCaseAt call 2
  match ← call.optionalText 0, ← call.optionalText 1 with
  | some left, some right => return .bool (Text.equalUnder ignoreCase left right)
  | none, none => return .bool true
  | _, _ => return .bool false

/-- The order of two texts under a comparison. -/
def compareBy : Body := fun call => do
  let ignoreCase ← ignoresCaseAt call 2
  let left ← call.textOrEmpty 0
  return .int (orderNumber (Text.orderUnder ignoreCase left (← call.textOrEmpty 1)))

/-- The order of two texts, up to case if a flag says so. -/
def compareIgnoring : Body := fun call => do
  let left ← call.textOrEmpty 0
  let right ← call.textOrEmpty 1
  return .int (orderNumber (Text.orderUnder (← call.bool 2) left right))

/-- The raw texts of the other arguments, or of the items of a lone sequence, with a text between. -/
def join : Body := fun call => do
  let separator ← call.textOrEmpty 0
  let items :=
    match call.arguments.drop 1 with
    | [.seq items] => items
    | others => others
  return .str (Text.join separator (items.map Value.raw))

/-- A composite format filled with the other arguments. -/
def format : Body := fun call => do
  return .str (← Composite.format (call.arguments.drop 1) (← call.text 0))

/-- Lists of two to four texts. -/
def someTexts : List (List ParameterType) :=
  [[.str, .str], [.str, .str, .str], [.str, .str, .str, .str]]

/-- The text type. -/
def textType : TypeEntry :=
  { name := "System.String"
    members := [
      { name := "new"
        overloads := [
          { parameters := [.char, .int], body := repeated },
          { parameters := [.charArray], body := ofChars }] },
      .single "IsNullOrEmpty" [.str] isNullOrEmpty,
      .single "IsNullOrWhiteSpace" [.str] isNullOrBlank,
      .shared "Concat" someTexts concat,
      .single "Copy" [.str] copy,
      .shared "Equals" [[.str, .str], [.str, .str, .enumeration .stringComparison]] equals,
      { name := "Compare"
        overloads := [
          { parameters := [.str, .str], body := compareBy },
          { parameters := [.str, .str, .bool], body := compareIgnoring },
          { parameters := [.str, .str, .enumeration .stringComparison], body := compareBy }] },
      .shared "Join" [[.str, .any], [.str, .str, .str], [.str, .str, .str, .str]] join,
      .shared "Format"
        [[.str, .any], [.str, .any, .any], [.str, .any, .any, .any]] format] }

/-- The character argument, or the one at a position of a text. -/
def charArgument (call : Invocation) : Except CallError Char :=
  if call.count = 1 then
    call.char 0
  else do
    let text ← call.text 0
    let index ← call.natural 1 "Index was out of range."
    match text[index]? with
    | some c => return c
    | none => throw (.failed "Index was out of range.")

/-- A test of a character. -/
def testing (test : Char → Bool) : Body := fun call => do
  return .bool (test (← charArgument call))

/-- A test of a character or of one in a text. -/
def charTest (name : String) (test : Char → Bool) : Member :=
  .shared name [[.char], [.str, .int]] (testing test)

/-- The character type. -/
def charType : TypeEntry :=
  { name := "System.Char"
    members := [
      charTest "IsDigit" Unicode.isNumeric,
      charTest "IsLetter" Unicode.isAlphabetic,
      charTest "IsLetterOrDigit" fun c => Unicode.isAlphabetic c || Unicode.isNumeric c,
      charTest "IsWhiteSpace" isBlank,
      charTest "IsUpper" Unicode.isUppercase,
      charTest "IsLower" Unicode.isLowercase] }

/-- The second argument read as a pattern. -/
def patternArgument (call : Invocation) : Except CallError Pattern.Written := do
  let text ← call.text 1
  (Pattern.read text).mapError fun fault =>
    .failed (call.surroundings.host.patternRefusal text fault)

/-- The pattern occurs in the text. -/
def isMatch : Body := fun call => do
  let written ← patternArgument call
  return .bool (written.pattern.occursIn (← call.text 0))

/-- Every match of the pattern replaced. -/
def replaceMatches : Body := fun call => do
  let written ← patternArgument call
  let text ← call.text 0
  return .str (written.replaceAll (← call.textOrEmpty 2) text)

/-- The text as a pattern that matches only itself. -/
def escapePattern : Body := fun call => do
  return .str (Pattern.escapeText (← call.text 0))

/-- The first match of the pattern, empty if there is none. -/
def firstMatch : Body := fun call => do
  let written ← patternArgument call
  let text ← call.text 0
  return .str <|
    ((written.pattern.find? text).map fun found =>
      Pattern.slice text found.start found.finish).getD []

/-- The stretches between the matches of the pattern. -/
def splitAtMatches : Body := fun call => do
  let written ← patternArgument call
  return .seq ((written.pattern.split (← call.text 0)).map .str)

/-- The type of regular patterns. -/
def patternType : TypeEntry :=
  { name := "System.Text.RegularExpressions.Regex"
    members := [
      .single "IsMatch" [.str, .str] isMatch,
      .single "Replace" [.str, .str, .str] replaceMatches,
      .single "Escape" [.str] escapePattern,
      .single "Match" [.str, .str] firstMatch,
      .single "Split" [.str, .str] splitAtMatches] }

end TextTypes

end RefExpand
