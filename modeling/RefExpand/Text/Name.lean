import RefExpand.Text.Basic

namespace RefExpand

/-!
# Names

Item types, properties and metadata share one grammar of ASCII names: a letter
or underscore, then letters, digits, underscores and dashes. A name that is
read greedily still leaves the dash of an arrow `->` alone.
-/

namespace Text

/-- A character that may begin a name. -/
def isNameStart (c : Char) : Bool :=
  c.isAlpha || c == '_'

/-- A character that may continue a name. -/
def isNameContinue (c : Char) : Bool :=
  isNameStart c || c.isDigit || c == '-'

/-- The longest continuation of a name that does not reach into an arrow, and the rest. -/
def takeNameTail : Text → Text × Text
  | [] => ([], [])
  | c :: rest =>
      if isNameContinue c && !(c == '-' && rest.head? == some '>') then
        let (tail, after) := takeNameTail rest
        (c :: tail, after)
      else
        ([], c :: rest)

/-- The name at the beginning of the text, empty if there is none, and the rest. -/
def takeName : Text → Text × Text
  | [] => ([], [])
  | c :: rest =>
      if isNameStart c then
        let (tail, after) := takeNameTail rest
        (c :: tail, after)
      else
        ([], c :: rest)

/-- The name at the beginning of the text, taking the dash of an arrow too. -/
def takeDashedName : Text → Text × Text
  | [] => ([], [])
  | c :: rest =>
      if isNameStart c then
        (c :: rest.takeWhile isNameContinue, rest.dropWhile isNameContinue)
      else
        ([], c :: rest)

/-- The whole text is one name. -/
def isName (text : Text) : Bool :=
  !text.isEmpty && (takeName text).2.isEmpty

theorem takeNameTail_append (text : Text) :
    (takeNameTail text).1 ++ (takeNameTail text).2 = text := by
  induction text with
  | nil => rfl
  | cons c rest inductionHypothesis =>
      simp only [takeNameTail]
      split
      · simp [inductionHypothesis]
      · rfl

theorem takeName_append (text : Text) :
    (takeName text).1 ++ (takeName text).2 = text := by
  cases text with
  | nil => rfl
  | cons c rest =>
      simp only [takeName]
      split
      · simp [takeNameTail_append]
      · rfl

theorem takeDashedName_append (text : Text) :
    (takeDashedName text).1 ++ (takeDashedName text).2 = text := by
  cases text with
  | nil => rfl
  | cons c rest =>
      simp only [takeDashedName]
      split
      · simp
      · rfl

end Text

end RefExpand
