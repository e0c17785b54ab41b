import RefExpand.Text.Basic
import RefExpand.Text.Unicode.CodeRun

namespace RefExpand

/-!
# Sets of characters

A set is a list of ranges of code points. The operations keep the ranges in
ascending order with a gap between any two, which is the one way to write a
set; surrogates, which are no characters, are in no set that a complement gave.
-/

/-- The code points from `first` to `last`. -/
structure CharRange where
  first : Nat
  last : Nat
  deriving Repr, DecidableEq, Inhabited

/-- A set of characters: ascending ranges of code points. -/
structure CharSet where
  ranges : List CharRange
  deriving Repr, DecidableEq, Inhabited

namespace CharSet

/-- The set without members. -/
def none : CharSet := ⟨[]⟩

/-- The largest code point. -/
def lastCode : Nat := 0x10FFFF

/-- All code points. -/
def any : CharSet := ⟨[⟨0, lastCode⟩]⟩

/-- The code points of ASCII. -/
def ascii : CharSet := ⟨[⟨0, 0x7F⟩]⟩

/-- The code points that stand for halves of characters. -/
def surrogates : CharSet := ⟨[⟨0xD800, 0xDFFF⟩]⟩

/-- The code points from `first` to `last`. -/
def range (first last : Nat) : CharSet := ⟨[⟨first, last⟩]⟩

/-- The set of one code point. -/
def single (code : Nat) : CharSet := range code code

/-- The set of one character. -/
def ofChar (c : Char) : CharSet := single c.toNat

/-- Join the ranges, ascending by their beginnings, that touch or overlap `current`. -/
def joinTouching (current : CharRange) : List CharRange → List CharRange
  | [] => [current]
  | next :: later =>
      if next.first ≤ current.last + 1 then
        joinTouching ⟨current.first, max current.last next.last⟩ later
      else
        current :: joinTouching next later

/-- The set of ranges in any order. -/
def ofRanges (ranges : List CharRange) : CharSet :=
  match ranges.mergeSort fun left right => decide (left.first ≤ right.first) with
  | [] => none
  | first :: later => ⟨joinTouching first later⟩

/-- The set of runs of code points. -/
def ofRuns (runs : List Unicode.CodeRun) : CharSet :=
  .ofRanges <| runs.flatMap fun run =>
    if run.step = 1 then [⟨run.first, run.last⟩]
    else run.toList.map fun code => ⟨code, code⟩

/-- The members of either set. -/
def union (left right : CharSet) : CharSet :=
  .ofRanges (left.ranges ++ right.ranges)

/-- The members of any of the sets. -/
def ofSets (sets : List CharSet) : CharSet :=
  .ofRanges (sets.flatMap (·.ranges))

/-- The gaps between ascending ranges, from a code point on. -/
def gapsFrom (start : Nat) : List CharRange → List CharRange
  | [] => if start ≤ lastCode then [⟨start, lastCode⟩] else []
  | next :: later =>
      if start < next.first then ⟨start, next.first - 1⟩ :: gapsFrom (next.last + 1) later
      else gapsFrom (next.last + 1) later

/-- All characters that are not in the set. -/
def complement (set : CharSet) : CharSet :=
  ⟨gapsFrom 0 (set.union surrogates).ranges⟩

/-- The common members. -/
def inter (left right : CharSet) : CharSet :=
  (left.complement.union right.complement).complement

/-- The members of the first set that are not in the second. -/
def difference (left right : CharSet) : CharSet :=
  left.inter right.complement

/-- The members of exactly one of the sets. -/
def symmetricDifference (left right : CharSet) : CharSet :=
  (left.difference right).union (right.difference left)

/-- Ascending ranges hold the code point. -/
def rangesContain (code : Nat) : List CharRange → Bool
  | [] => false
  | next :: later => next.first ≤ code && (code ≤ next.last || rangesContain code later)

/-- The code point is in the set. -/
def containsCode (set : CharSet) (code : Nat) : Bool :=
  rangesContain code set.ranges

/-- The character is in the set. -/
def contains (set : CharSet) (c : Char) : Bool :=
  set.containsCode c.toNat

/-- The set has no members. -/
def isEmpty (set : CharSet) : Bool :=
  set.ranges.isEmpty

/-- All members belong to ASCII. -/
def isAscii (set : CharSet) : Bool :=
  set.ranges.all (·.last < 0x80)

/-- The only member of the set, if it has just one. -/
def only? (set : CharSet) : Option Char :=
  match set.ranges with
  | [only] => if only.first = only.last then some (Char.ofNat only.first) else Option.none
  | _ => Option.none

end CharSet

end RefExpand
