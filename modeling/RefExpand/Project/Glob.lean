import RefExpand.Pattern.Search
import RefExpand.Project.WildcardPattern

namespace RefExpand

/-!
# Globs

A glob describes relative paths with `/` as the separator, which `*` and `?` do
not cross: `**` as a whole segment crosses any number of directories, braces
list alternatives, of which empty ones are left out, and square brackets hold
classes. A glob is matched byte by byte, so `?` and a class take one byte of a
longer character.
-/

/-- A part of a glob. -/
inductive GlobPart where
  | literal (c : Char)
  | any
  | anyRow
  | leadingDirectories
  | trailingPath
  | innerDirectories
  | set (negated : Bool) (ranges : List (Char × Char))
  deriving Repr, DecidableEq

namespace Glob

/-- What is wrong with a written glob. -/
inductive Fault where
  | unclosedClass
  | unopenedAlternates
  | unclosedAlternates
  | badRange (first last : Char)
  deriving Repr, DecidableEq

/-- The wording of a fault. -/
def Fault.message : Fault → Text
  | .unclosedClass => "unclosed character class; missing ']'"
  | .unopenedAlternates => "unopened alternate group; missing '\x7b' (maybe escape '\x7d' with '[\x7d]'?)"
  | .unclosedAlternates => "unclosed alternate group; missing '\x7d' (maybe escape '\x7b' with '[\x7b]'?)"
  | .badRange first last =>
      "invalid range; '".toList ++ first :: "' > '".toList ++ last :: ['\'']

/-- What is said of a glob that is not well written. -/
def refusal (glob : Text) (fault : Fault) : Text :=
  "error parsing glob '".toList ++ glob ++ "': ".toList ++ fault.message

/-- The bytes of a text, each as the character of its number. -/
def bytesOf (text : Text) : Text :=
  text.flatMap fun c => (String.utf8EncodeChar c).map fun byte => Char.ofNat byte.toNat

/-- A character as the pattern of its bytes. -/
def literalPattern (c : Char) : Pattern :=
  .literal (bytesOf [c])

/-- Any character but the separator. -/
def inSegment : CharSet :=
  CharSet.complement (.ofChar '/')

/-- Any row of characters, separators included. -/
def anyPath : Pattern :=
  .repeated 0 none true (.one .any)

/-- The set of one byte of each character of a range: only its ends are ranged over. -/
def byteSet (first last : Char) : CharSet :=
  let bytes := bytesOf [first]
  if first = last then
    .ofSets (bytes.map .ofChar)
  else
    let lastBytes := bytesOf [last]
    let ranged := CharSet.range (bytes.getLastD first).toNat (lastBytes.headD last).toNat
    .ofSets (ranged :: (bytes.dropLast ++ lastBytes.tail).map .ofChar)

/-- The pattern of one part. -/
def partPattern : GlobPart → Pattern
  | .literal c => literalPattern c
  | .any => .one inSegment
  | .anyRow => .repeated 0 none true (.one inSegment)
  | .leadingDirectories =>
      .choice [
        .repeated 0 (some 1) true (.literal ['/']),
        .sequence [anyPath, .literal ['/']]]
  | .trailingPath => .sequence [.literal ['/'], anyPath]
  | .innerDirectories =>
      .choice [.literal ['/'], .sequence [.literal ['/'], anyPath, .literal ['/']]]
  | .set negated ranges =>
      let inside := CharSet.ofSets (ranges.map fun (first, last) => byteSet first last)
      .one (if negated then inside.complement else inside)

/-- The ranges of a class after its opening, up to its closing bracket, the latest first. -/
def readRanges (first inRange : Bool) (ranges : List (Char × Char)) :
    Text → Except Fault (List (Char × Char) × Text)
  | [] => .error .unclosedClass
  | c :: rest =>
      if c = ']' ∧ !first then
        .ok (if inRange then ('-', '-') :: ranges else ranges, rest)
      else if c = '-' ∧ !first ∧ !inRange then
        readRanges false true ranges rest
      else
        match inRange, ranges with
        | true, (start, _) :: ranges =>
            if c < start then .error (.badRange start c)
            else readRanges false false ((start, c) :: ranges) rest
        | _, ranges => readRanges false false ((c, c) :: ranges) rest

/-- A class after its opening bracket. -/
def readClass : Text → Except Fault (GlobPart × Text)
  | '!' :: rest | '^' :: rest =>
      (readRanges true false [] rest).map fun (ranges, rest) => (.set true ranges.reverse, rest)
  | rest =>
      (readRanges true false [] rest).map fun (ranges, rest) => (.set false ranges.reverse, rest)

/-- A part, or the pattern of a closed list of alternatives. -/
abbrev GlobElement := GlobPart ⊕ Pattern

/-- The pattern of an element. -/
def elementPattern : GlobElement → Pattern
  | .inl part => partPattern part
  | .inr pattern => pattern

/-- The pattern of elements, the latest first. -/
def elementsPattern (elements : List GlobElement) : Pattern :=
  .sequence (elements.reverse.map elementPattern)

/-- The element asks for nothing: all its alternatives were empty. -/
def asksNothing : GlobElement → Bool
  | .inl _ => false
  | .inr pattern => pattern.isEmpty

/-- The alternatives that are not empty, the latest first, as one pattern. -/
def closeBranches (branches : List (List GlobElement)) : Pattern :=
  match (branches.filter fun elements => !elements.all asksNothing).map elementsPattern with
  | [] => .empty
  | several => .choice several.reverse

/--
Where the reader of a glob stands: the elements of the current alternative, the
latest first, the character before, and the open lists of alternatives, each
with the elements before it and its finished alternatives.
-/
structure Progress where
  parts : List GlobElement
  previous : Option Char
  openChoices : List (List GlobElement × List (List GlobElement))

/-- Merge a `**` between separators with what stands before its leading separator. -/
def mergeDouble (parts : List GlobElement) (isSuffix : Bool) :
    List GlobElement :=
  match parts with
  | .inl .leadingDirectories :: rest => .inl .leadingDirectories :: rest
  | .inl .trailingPath :: rest => .inl .trailingPath :: rest
  | _ :: rest => .inl (if isSuffix then .trailingPath else .innerDirectories) :: rest
  | [] => []

/-- Two stars that are no segment of their own. -/
def twoRows (parts : List GlobElement) : List GlobElement :=
  .inl .anyRow :: .inl .anyRow :: parts

/-- Read two stars, given the character before them and what follows them. -/
def readDouble (progress : Progress) (rest : Text) : Progress × Text :=
  let keep (parts : List GlobElement) (previous : Char) (rest : Text) :=
    ({ progress with parts, previous := some previous }, rest)
  let nested := !progress.openChoices.isEmpty
  if progress.parts.isEmpty then
    match rest with
    | [] => keep (.inl .leadingDirectories :: progress.parts) '*' []
    | '/' :: rest => keep (.inl .leadingDirectories :: progress.parts) '/' rest
    | rest => keep (twoRows progress.parts) '*' rest
  else if progress.previous != some '/' &&
      (!nested || (progress.previous != some ',' && progress.previous != some '\x7b')) then
    keep (twoRows progress.parts) '*' rest
  else
    match rest with
    | [] => keep (mergeDouble progress.parts true) '*' []
    | '/' :: rest => keep (mergeDouble progress.parts false) '/' rest
    | c :: rest =>
        if nested && (c == ',' || c == '\x7d') then
          keep (mergeDouble progress.parts true) '*' (c :: rest)
        else
          keep (twoRows progress.parts) '*' (c :: rest)

/-- Read a glob as a pattern. `fuel` bounds the number of parts. -/
def readParts : (fuel : Nat) → Progress → Text → Except Fault Pattern
  | 0, _, _ => .error .unclosedClass
  | fuel + 1, progress, text =>
      match text with
      | [] =>
          if !progress.openChoices.isEmpty then .error .unclosedAlternates
          else
            match progress.parts with
            | [.inl .leadingDirectories] => .ok anyPath
            | parts => .ok (elementsPattern parts)
      | '?' :: rest =>
          readParts fuel { progress with
            parts := .inl .any :: progress.parts, previous := some '?' } rest
      | '*' :: '*' :: rest =>
          let (progress, rest) := readDouble progress rest
          readParts fuel progress rest
      | '*' :: rest =>
          readParts fuel { progress with
            parts := .inl .anyRow :: progress.parts, previous := some '*' } rest
      | '[' :: rest => do
          let (set, rest) ← readClass rest
          readParts fuel { progress with
            parts := .inl set :: progress.parts, previous := some ']' } rest
      | '\x7b' :: rest =>
          readParts fuel
            { parts := []
              previous := some '\x7b'
              openChoices := (progress.parts, []) :: progress.openChoices } rest
      | '\x7d' :: rest =>
          match progress.openChoices with
          | [] => .error .unopenedAlternates
          | (before, branches) :: outer =>
              let choice := closeBranches (progress.parts :: branches)
              readParts fuel
                { parts := .inr choice :: before
                  previous := some '\x7d'
                  openChoices := outer } rest
      | ',' :: rest =>
          match progress.openChoices with
          | [] =>
              readParts fuel { progress with
                parts := .inl (.literal ',') :: progress.parts, previous := some ',' } rest
          | (before, branches) :: outer =>
              readParts fuel
                { parts := []
                  previous := some ','
                  openChoices := (before, progress.parts :: branches) :: outer }
                rest
      | c :: rest =>
          readParts fuel { progress with
            parts := .inl (.literal c) :: progress.parts, previous := some c } rest

/-- Read a glob as a pattern over the bytes of a path. -/
def read (text : Text) : Except Fault Pattern :=
  readParts (text.length + 1) { parts := [], previous := none, openChoices := [] } text

/-- The whole path matches the pattern of a glob. -/
def matchesPath (pattern : Pattern) (path : Text) : Bool :=
  pattern.matchesWhole (bytesOf path)

end Glob

end RefExpand
