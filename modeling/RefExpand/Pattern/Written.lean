import RefExpand.Number.Decimal
import RefExpand.Pattern.Brackets
import RefExpand.Pattern.Size
import RefExpand.Text.Casing

namespace RefExpand.Pattern

/-!
# Written patterns

The notation of patterns: literals, sets, escapes, groups with names and flags,
alternatives, and repetitions with their lazy forms. Look-around and back
references are refused, and so are patterns that nest too deep or grow too large.
-/

/-- A part of a sequence: what it means, how deeply it nests, and whether it may be repeated. -/
structure Element where
  pattern : Pattern
  depth : Nat := 0
  repeatable : Bool := true

/-- The greatest depth among elements. -/
def greatestDepth (elements : List Element) : Nat :=
  elements.foldl (fun depth element => max depth element.depth) 0

/-- The elements of a sequence, the latest first, as one. -/
def closeSequence (elements : List Element) : Element :=
  match elements with
  | [only] => { only with repeatable := true }
  | [] => { pattern := .empty }
  | several =>
      { pattern := inSequence (several.reverse.map (·.pattern))
        depth := greatestDepth several + 1 }

/-- Alternatives, the latest first, as one element. -/
def closeAlternatives (alternatives : List Element) : Element :=
  match alternatives with
  | [only] => only
  | several =>
      { pattern := inChoice (several.reverse.map (·.pattern))
        depth := greatestDepth several + 1 }

/-- The bounds of a counted repetition, from the text between its braces. -/
def readCount (inner : Text) : Except Fault (Nat × Option Nat) :=
  let number? (part : Text) : Option Nat := (Decimal.readDigits? part.trim).filter (· < UInt32.size)
  match Text.splitAtChars (· == ',') inner with
  | [count] =>
      match number? count with
      | some n => .ok (n, some n)
      | none => .error .badCount
  | [least, most] =>
      match number? least, most.isEmpty, number? most with
      | some least, true, _ => .ok (least, none)
      | some least, false, some most =>
          if least ≤ most then .ok (least, some most) else .error .badCount
      | _, _, _ => .error .badCount
  | _ => .error .badCount

/-- Repeat the latest element; a question mark right behind turns the greed round. -/
def repeatLatest (flags : Flags) (least : Nat) (most : Option Nat) (elements : List Element)
    (rest : Text) : Except Fault (List Element × Text) :=
  match elements with
  | latest :: earlier =>
      if latest.repeatable then
        let (greedy, rest) :=
          match rest with
          | '?' :: rest => (flags.swapGreed, rest)
          | rest => (!flags.swapGreed, rest)
        let pattern := latest.pattern.times least most greedy
        .ok ({ pattern, depth := latest.depth + 1 } :: earlier, rest)
      else
        .error .missingOperand
  | [] => .error .missingOperand

/-- Repeat the latest element as often as the text behind an opening brace says. -/
def repeatCounted (flags : Flags) (elements : List Element) (text : Text) :
    Except Fault (List Element × Text) :=
  match upToBrace? flags false text with
  | none => .error .badCount
  | some (inner, rest) => do
      let (least, most) ← readCount inner
      repeatLatest flags least most elements (flags.skip rest)

/-- What follows an opening parenthesis. -/
inductive GroupHead where
  | capture (name : Option Text)
  | plain (flags : Flags)
  | setFlags (flags : Flags)

/-- A character that a group name may begin with. -/
def beginsGroupName (c : Char) : Bool :=
  c == '_' || Unicode.isAlphabetic c

/-- A character that a group name may go on with. -/
def continuesGroupName (c : Char) : Bool :=
  c == '_' || c == '.' || c == '[' || c == ']' || Unicode.isAlphabetic c || Unicode.isNumeric c

/-- A group name up to its closing angle bracket. -/
def readGroupName (text : Text) : Except Fault (GroupHead × Text) :=
  match Text.breakAt? (· == '>') text with
  | some (first :: later, rest) =>
      if beginsGroupName first && later.all continuesGroupName then
        .ok (.capture (some (first :: later)), rest)
      else
        .error .badGroup
  | _ => .error .badGroup

/-- The head of a group, after its opening parenthesis. -/
def readGroupHead (flags : Flags) (text : Text) : Except Fault (GroupHead × Text) :=
  match flags.skip text with
  | '?' :: '<' :: '=' :: _ | '?' :: '<' :: '!' :: _ => .error .badGroup
  | '?' :: 'P' :: '<' :: rest | '?' :: '<' :: rest => readGroupName rest
  | '?' :: rest =>
      let letters := rest.takeWhile fun c => !(c == ':' || c == ')')
      match rest.drop letters.length with
      | ':' :: rest => (flags.changed letters).map fun flags => (.plain flags, rest)
      | ')' :: rest =>
          if letters.isEmpty then .error .missingOperand
          else (flags.changed letters).map fun flags => (.setFlags flags, rest)
      | _ => .error .badGroup
  | rest => .ok (.capture none, rest)

/-- What was read so far: the rest, the number of groups, and the names of some. -/
structure Progress where
  rest : Text
  groups : Nat := 0
  names : List (Text × Nat) := []

/-- The progress with a group opened that has the next number. -/
def Progress.openGroup (progress : Progress) (name : Option Text) (rest : Text) :
    Except Fault Progress :=
  let groups := progress.groups + 1
  match name with
  | none => .ok { progress with rest, groups }
  | some name =>
      if (progress.names.lookup name).isSome then .error .duplicateName
      else .ok { rest, groups, names := (name, groups) :: progress.names }

/-- The progress behind the parenthesis that closes a group. -/
def Progress.closeGroup (progress : Progress) : Except Fault Progress :=
  match progress.rest with
  | ')' :: rest => .ok { progress with rest }
  | _ => .error .unclosedGroup

/-- An element that is no group: a set, a dot, a condition, an escape or a literal character. -/
def readElement (flags : Flags) (depth : Nat) : Text → Except Fault (Element × Text)
  | [] => .error .missingOperand
  | '[' :: rest => do
      let (set, rest) ← readSet flags depth rest
      return ({ pattern := .ofSet set.set, depth := set.depth }, rest)
  | '.' :: rest => return ({ pattern := ← flags.dot }, rest)
  | '^' :: rest => .ok ({ pattern := .check flags.circumflex }, rest)
  | '$' :: rest => .ok ({ pattern := .check flags.dollar }, rest)
  | '\\' :: rest => do
      match ← readEscape flags rest with
      | (.letter letter, rest) => return ({ pattern := ← flags.letterPattern letter }, rest)
      | (.set set, rest) => return ({ pattern := .ofSet set }, rest)
      | (.check assertion, rest) => return ({ pattern := .check assertion }, rest)
  | c :: rest => return ({ pattern := ← flags.letterPattern { char := c } }, rest)

/--
Read alternatives up to the end of the group or of the text. `alternatives` and
`elements` hold what was read, the latest first; `depth` counts the open groups;
`fuel` bounds the number of parts.
-/
def readGroup : (fuel depth : Nat) → Flags → (alternatives elements : List Element) →
    Progress → Except Fault (Element × Progress)
  | 0, _, _, _, _, _ => .error .unclosedGroup
  | fuel + 1, depth, flags, alternatives, elements, progress =>
      let goOn (elements : List Element) (rest : Text) :=
        readGroup fuel depth flags alternatives elements { progress with rest }
      match flags.skip progress.rest with
      | [] =>
          .ok (closeAlternatives (closeSequence elements :: alternatives),
            { progress with rest := [] })
      | ')' :: rest =>
          .ok (closeAlternatives (closeSequence elements :: alternatives),
            { progress with rest := ')' :: rest })
      | '|' :: rest =>
          readGroup fuel depth flags (closeSequence elements :: alternatives) []
            { progress with rest }
      | '(' :: rest => do
          let group (inner : Flags) (close : Pattern → Pattern) (opened : Progress) :
              Except Fault (Element × Progress) := do
            if deepest ≤ depth then throw .tooDeep
            let (body, reached) ← readGroup fuel (depth + 1) inner [] [] opened
            let element := { pattern := close body.pattern, depth := body.depth + 1 }
            readGroup fuel depth flags alternatives (element :: elements) (← reached.closeGroup)
          match ← readGroupHead flags rest with
          | (.setFlags flags, rest) =>
              readGroup fuel depth flags alternatives
                ({ pattern := .empty, repeatable := false } :: elements) { progress with rest }
          | (.plain inner, rest) => group inner id { progress with rest }
          | (.capture name, rest) => do
              let opened ← progress.openGroup name rest
              group flags (.group opened.groups) opened
      | '*' :: rest => do
          let (elements, rest) ← repeatLatest flags 0 none elements rest
          goOn elements rest
      | '+' :: rest => do
          let (elements, rest) ← repeatLatest flags 1 none elements rest
          goOn elements rest
      | '?' :: rest => do
          let (elements, rest) ← repeatLatest flags 0 (some 1) elements rest
          goOn elements rest
      | '\x7b' :: rest => do
          let (elements, rest) ← repeatCounted flags elements rest
          goOn elements rest
      | text => do
          let (element, rest) ← readElement flags depth text
          goOn (element :: elements) rest

/-- A pattern with the names of its groups. -/
structure Written where
  pattern : Pattern
  names : List (Text × Nat)

/-- Read a whole written pattern. -/
def read (text : Text) : Except Fault Written := do
  let (element, progress) ← readGroup (text.length + 1) 0 {} [] [] { rest := text }
  if !progress.rest.isEmpty then throw .unopenedGroup
  if deepest < element.depth then throw .tooDeep
  if !element.pattern.fits then throw .tooLarge
  return { pattern := element.pattern, names := progress.names }

/-- A character with a meaning of its own in the notation. -/
def isMeta (c : Char) : Bool :=
  ("\\.+*?()|[]\x7b\x7d^$#&-~".toList).contains c

/-- Write a text so that as a pattern it matches itself. -/
def escapeText (text : Text) : Text :=
  text.flatMap fun c => if isMeta c then ['\\', c] else [c]

end RefExpand.Pattern
