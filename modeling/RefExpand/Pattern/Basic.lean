import RefExpand.Pattern.CharSet

namespace RefExpand

/-!
# Patterns

A pattern describes texts; among the matches at one position the order of its
alternatives and the greed of its repetitions choose the preferred one. The
builders keep patterns simple: what matches only the empty text is dropped from
sequences, literals that meet are joined, a choice between characters is a set of
characters, and what all alternatives begin with stands in front of the choice.
-/

/-- Where a position stands to the words of a text. -/
inductive WordPosition where
  | boundary
  | noBoundary
  | start
  | finish
  | noWordBefore
  | noWordAfter
  deriving Repr, DecidableEq, Inhabited

/-- Which characters end a line: the line feed alone, or the carriage return too, or both as one. -/
inductive LineEnding where
  | lineFeed
  | returnOrFeed
  deriving Repr, DecidableEq, Inhabited

/-- Which characters words are made of. -/
inductive WordLetters where
  | ascii
  | unicode
  deriving Repr, DecidableEq, Inhabited

/-- A condition on the position, not on a character. -/
inductive Assertion where
  | textStart
  | textEnd
  | lineStart (ending : LineEnding)
  | lineEnd (ending : LineEnding)
  | word (letters : WordLetters) (position : WordPosition)
  deriving Repr, DecidableEq, Inhabited

/-- A regular expression with capturing groups. -/
inductive Pattern where
  | literal (text : Text)
  | one (set : CharSet)
  | check (assertion : Assertion)
  | sequence (parts : List Pattern)
  | choice (alternatives : List Pattern)
  | repeated (least : Nat) (most : Option Nat) (greedy : Bool) (body : Pattern)
  | group (index : Nat) (body : Pattern)
  deriving Inhabited

namespace Pattern

/-- The pattern of the empty text. -/
def empty : Pattern :=
  .sequence []

/-- The pattern is that of the empty text. -/
def isEmpty : Pattern → Bool
  | .sequence [] => true
  | _ => false

mutual

/-- The pattern matches the empty text at some position. -/
def nullable : Pattern → Bool
  | .literal text => text.isEmpty
  | .one set => set.isEmpty
  | .check _ => true
  | .sequence parts => allNullable parts
  | .choice alternatives => anyNullable alternatives
  | .repeated least _ _ body => least == 0 || body.nullable
  | .group _ body => body.nullable

/-- All of the patterns match the empty text. -/
def allNullable : List Pattern → Bool
  | [] => true
  | part :: parts => part.nullable && allNullable parts

/-- One of the patterns matches the empty text. -/
def anyNullable : List Pattern → Bool
  | [] => false
  | alternative :: alternatives => alternative.nullable || anyNullable alternatives

end

mutual

/-- The pattern matches no text but the empty one. -/
def readsNothing : Pattern → Bool
  | .literal text => text.isEmpty
  | .one _ => false
  | .check _ => true
  | .sequence parts => allReadNothing parts
  | .choice alternatives => allReadNothing alternatives
  | .repeated _ _ _ body => body.readsNothing
  | .group _ body => body.readsNothing

/-- None of the patterns matches a text but the empty one. -/
def allReadNothing : List Pattern → Bool
  | [] => true
  | part :: parts => part.readsNothing && allReadNothing parts

end

/-- The pattern of one character of a set. -/
def ofSet (set : CharSet) : Pattern :=
  match set.only? with
  | some c => .literal [c]
  | none => .one set

/-- The parts of a sequence, or the pattern alone. -/
def parts : Pattern → List Pattern
  | .sequence parts => parts
  | pattern => [pattern]

/-- Put a pattern in front of others, joining two literals. -/
def joinFront : Pattern → List Pattern → List Pattern
  | .literal before, .literal after :: later => .literal (before ++ after) :: later
  | first, later => first :: later

/-- The patterns one after the other. -/
def inSequence (patterns : List Pattern) : Pattern :=
  match (patterns.flatMap parts).foldr joinFront [] with
  | [only] => only
  | several => .sequence several

/-- The alternatives of a choice, or the pattern alone. -/
def branches : Pattern → List Pattern
  | .choice alternatives => alternatives
  | pattern => [pattern]

/-- The character of a literal that has just one. -/
def character? : Pattern → Option Char
  | .literal [c] => some c
  | _ => none

/-- The set of a pattern that reads one character. -/
def set? : Pattern → Option CharSet
  | .one set => some set
  | _ => none

/-- Alternatives as they are, or the set of their characters if each reads just one. -/
def choiceOf (alternatives : List Pattern) : Pattern :=
  match alternatives.mapM character?, alternatives.mapM set? with
  | some characters, _ => ofSet (.ofSets (characters.map .ofChar))
  | none, some sets => ofSet (.ofSets sets)
  | none, none => .choice alternatives

mutual

/-- The patterns are built the same way. -/
def same : Pattern → Pattern → Bool
  | .literal left, .literal right => left == right
  | .one left, .one right => left == right
  | .check left, .check right => left == right
  | .sequence left, .sequence right => allSame left right
  | .choice left, .choice right => allSame left right
  | .repeated least most greedy left, .repeated least' most' greedy' right =>
      least == least' && most == most' && greedy == greedy' && left.same right
  | .group index left, .group index' right => index == index' && left.same right
  | _, _ => false

/-- Patterns in the same places are built the same way, and none is left over. -/
def allSame : List Pattern → List Pattern → Bool
  | [], [] => true
  | left :: lefts, right :: rights => left.same right && allSame lefts rights
  | _, _ => false

end

/-- The parts that two sequences have in common at their beginnings. -/
def sharedParts : List Pattern → List Pattern → List Pattern
  | left :: lefts, right :: rights =>
      if left.same right then left :: sharedParts lefts rights else []
  | _, _ => []

/-- The parts of a pattern that is a sequence of several. -/
def severalParts : Pattern → List Pattern
  | .sequence parts => parts
  | _ => []

/-- The parts with which all of the alternatives begin, if they are sequences. -/
def sharedFront : List Pattern → List Pattern
  | [] => []
  | first :: later =>
      later.foldl (fun front pattern => sharedParts front pattern.severalParts) first.severalParts

/-- The pattern without so many of its first parts. -/
def withoutFront (count : Nat) (pattern : Pattern) : Pattern :=
  inSequence (pattern.severalParts.drop count)

/--
One of the patterns, the earlier ones preferred. Parts with which all of them
begin are read once, before the choice; so what such a part prefers counts for
more than the order of the alternatives.
-/
def inChoice (patterns : List Pattern) : Pattern :=
  match patterns.flatMap branches with
  | [only] => only
  | several =>
      let front := sharedFront several
      if front.isEmpty then choiceOf several
      else
        let ends := several.map (withoutFront front.length)
        inSequence (front ++ [choiceOf (ends.flatMap branches)])

/-- A pattern so many times; what reads nothing need not come twice. -/
def times (least : Nat) (most : Option Nat) (greedy : Bool) (body : Pattern) : Pattern :=
  let least := if body.readsNothing then min least 1 else least
  let most := if body.readsNothing then some (min (most.getD 1) 1) else most
  if most = some 0 then empty
  else if least = 1 ∧ most = some 1 then body
  else .repeated least most greedy body

end Pattern

end RefExpand
