import RefExpand.Number.Decimal

namespace RefExpand

/-!
# Versions

A version has two to four components. An undefined component sorts below every
defined one, so `1.2` comes before `1.2.0`.
-/

/-- The components of a version; a revision is there only beside a build. -/
structure Version where
  major : Nat
  minor : Nat
  build : Option Nat := none
  revision : Option Nat := none
  deriving Repr, DecidableEq, Inhabited

namespace Version

/-- The defined components in order. -/
def components (version : Version) : List Nat :=
  match version.build, version.revision with
  | none, _ => [version.major, version.minor]
  | some build, none => [version.major, version.minor, build]
  | some build, some revision => [version.major, version.minor, build, revision]

/-- The number of defined components. -/
def fieldCount (version : Version) : Nat :=
  version.components.length

/-- The components separated by points. -/
def text (version : Version) : Text :=
  Text.join ['.'] (version.components.map Decimal.ofNat)

/-- The first `fields` components separated by points, if so many are defined. -/
def textOfFields? (version : Version) (fields : Nat) : Option Text :=
  if fields ≤ version.fieldCount then
    some (Text.join ['.'] ((version.components.take fields).map Decimal.ofNat))
  else
    none

/-- Order of optional components, an undefined one first. -/
def compareOption : Option Nat → Option Nat → Ordering
  | none, none => .eq
  | none, some _ => .lt
  | some _, none => .gt
  | some left, some right => compare left right

/-- Component by component, from the major one on. -/
def order (left right : Version) : Ordering :=
  (compare left.major right.major).then <|
    (compare left.minor right.minor).then <|
      (compareOption left.build right.build).then <|
        compareOption left.revision right.revision

/-- A component: a non-empty string of digits whose value has 32 bits. -/
def readComponent? (text : Text) : Option Nat :=
  (Decimal.readDigits? text).filter (· < UInt32.size)

/-- The version with these components, if there are two to four. -/
def ofComponents? : List Nat → Option Version
  | [major, minor] => some { major, minor }
  | [major, minor, build] => some { major, minor, build := some build }
  | [major, minor, build, revision] =>
      some { major, minor, build := some build, revision := some revision }
  | _ => none

/-- Read two to four components separated by points, with blanks around each. -/
def read? (text : Text) : Option Version :=
  ((Text.splitAtChars (· == '.') text.trim).mapM fun part => readComponent? part.trim).bind
    ofComponents?

/-- What is said of a text that is no version. -/
def refusal (text : Text) : Text :=
  '"' :: text ++ "\" is not a valid version".toList

/-- Four components of a lenient version, zeros at the end where none are given. -/
def padComponents : List Nat → Option (List Nat)
  | [a] => some [a, 0, 0, 0]
  | [a, b] => some [a, b, 0, 0]
  | [a, b, c] => some [a, b, c, 0]
  | [a, b, c, d] => some [a, b, c, d]
  | _ => none

/-- The text before the first dash or plus, without a leading `v`. -/
def simpleCore (text : Text) : Text :=
  let body :=
    match text.trim with
    | 'v' :: rest => rest
    | 'V' :: rest => rest
    | rest => rest
  body.takeWhile fun c => !(c == '-' || c == '+')

/-- Read a lenient version: one to four components, a leading `v` and a suffix left aside. -/
def readSimple? (text : Text) : Option (List Nat) :=
  ((Text.splitAtChars (· == '.') (simpleCore text)).mapM readComponent?).bind padComponents

end Version

end RefExpand
