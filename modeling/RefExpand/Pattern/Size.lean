import RefExpand.Pattern.Basic
import RefExpand.Text.Utf8

namespace RefExpand.Pattern

/-!
# Sizes of patterns

A pattern is refused if the machine that would match its texts byte by byte, from
the left or from the right, takes too much memory. The machine is drafted, not
built: of its states only the number counts, and of the ways out of them only the
bytes that they take.
-/

/-- The largest machine that is accepted, in bytes. -/
def sizeLimit : Nat := 10485760

/-- The size of one state, without its ways out. -/
def stateSize : Nat := 32

/-- The size of one way out of a fork. -/
def wayOutSize : Nat := 4

/-- The size of one of several ranges of bytes that a state reads. -/
def rangeSize : Nat := 8

/-- Where a machine begins to read a text. -/
inductive Direction where
  | forward
  | backward
  deriving Repr, DecidableEq

/-- A machine as far as it is drafted. -/
structure Draft where
  states : Nat := 0
  wayBytes : Nat := 0
  deriving Repr, DecidableEq

namespace Draft

/-- The memory that the machine takes. -/
def bytes (draft : Draft) : Nat :=
  stateSize * draft.states + draft.wayBytes

/-- The draft, unless it is too large. -/
def accepted? (draft : Draft) : Option Draft :=
  if draft.bytes ≤ sizeLimit then some draft else none

/-- A draft with more states, and with ways out that take so many bytes. -/
def add? (draft : Draft) (states wayBytes : Nat) : Option Draft :=
  accepted? { states := draft.states + states, wayBytes := draft.wayBytes + wayBytes }

/-- A draft with one more state that reads a byte, a condition or nothing. -/
def addState? (draft : Draft) : Option Draft :=
  draft.add? 1 0

/-- A draft with one more fork of two ways. -/
def addFork? (draft : Draft) : Option Draft :=
  draft.add? 1 (2 * wayOutSize)

/-- A draft with a part drafted so many times, one copy behind the other. -/
def repeat? (part : Draft → Option Draft) : (count : Nat) → Draft → Option Draft
  | 0, draft => some draft
  | count + 1, draft =>
      match part draft with
      | some next => repeat? part count next
      | none => none

end Draft

/-- The ranges of bytes that the characters of a range of code points have, byte by byte. -/
abbrev ByteRanges := List (UInt8 × UInt8)

/-- Cut a range into pieces that fill blocks of the given sizes, each larger than the one before. -/
def blockPieces (first last : Nat) : (blocks : List Nat) → List CharRange
  | [] => [⟨first, last⟩]
  | block :: larger =>
      if first / block = last / block then [⟨first, last⟩]
      else
        let start := (first + block - 1) / block * block
        let stop := (last + 1) / block * block
        (if first < start then [⟨first, start - 1⟩] else []) ++
          (if start < stop then blockPieces start (stop - 1) larger else []) ++
          (if stop ≤ last then [⟨stop, last⟩] else [])

/-- The ranges of characters with encodings of several bytes, those of one length together. -/
def longerRanges : List CharRange :=
  [⟨0x80, 0x7FF⟩, ⟨0x800, 0xD7FF⟩, ⟨0xE000, 0xFFFF⟩, ⟨0x10000, 0x10FFFF⟩]

/-- The common part of two ranges. -/
def commonRange? (left right : CharRange) : Option CharRange :=
  let first := max left.first right.first
  let last := min left.last right.last
  if first ≤ last then some ⟨first, last⟩ else none

/-- The byte ranges of the characters of a range, in order. -/
def byteRanges (range : CharRange) : List ByteRanges :=
  let pieces :=
    (commonRange? range ⟨0, 0x7F⟩).toList ++
      longerRanges.flatMap fun same =>
        match commonRange? range same with
        | some common => blockPieces common.first common.last [64, 4096, 262144]
        | none => []
  pieces.map fun piece =>
    (Utf8.encodeChar (Char.ofNat piece.first)).zip (Utf8.encodeChar (Char.ofNat piece.last))

/--
The numbers of states that may be used again. A state has its place by its key,
and a state with the same place drives it out.
-/
structure Memo where
  places : Array (Option (List Nat × Nat))

namespace Memo

/-- A memo with so many places, none of them taken. -/
def fresh (size : Nat) : Memo :=
  ⟨Array.replicate size none⟩

/-- The numbers of a key mixed into one. -/
def mix (key : List Nat) : UInt64 :=
  key.foldl (fun mixed number => (mixed ^^^ number.toUInt64) * 0x100000001B3) 0xCBF29CE484222325

/-- The place of a key. -/
def place (memo : Memo) (key : List Nat) : Nat :=
  (mix key).toNat % memo.places.size

/-- The state that was remembered last at the place of a key, if it has that key. -/
def stateOf? (memo : Memo) (key : List Nat) : Option Nat :=
  match memo.places[memo.place key]? with
  | some (some (known, state)) => if known = key then some state else none
  | _ => none

/-- Remember the state of a key. -/
def remember (memo : Memo) (key : List Nat) (state : Nat) : Memo :=
  let place := memo.place key
  ⟨memo.places.setIfInBounds place (some (key, state))⟩

end Memo

/-- The states of a machine that were drafted for a set: how many, and what is known of them. -/
structure SetDraft where
  draft : Draft
  memo : Memo

/-- The state of a key, which is drafted if it is not remembered. -/
def SetDraft.reach (set : SetDraft) (key : List Nat) (wayBytes : Nat) : Nat × SetDraft :=
  match set.memo.stateOf? key with
  | some state => (state, set)
  | none =>
      let state := set.draft.states
      (state,
        { draft := { states := state + 1, wayBytes := set.draft.wayBytes + wayBytes }
          memo := set.memo.remember key state })

/-- The byte ranges grouped by their first range, with what follows it in each. -/
def groupByFirst : List ByteRanges → List ((UInt8 × UInt8) × List ByteRanges)
  | [] => []
  | [] :: later => groupByFirst later
  | (range :: rest) :: later =>
      match groupByFirst later with
      | (next, rests) :: groups =>
          if next = range then (range, rest :: rests) :: groups
          else (range, [rest]) :: (next, rests) :: groups
      | [] => [(range, [rest])]

/--
The state that reads one of several sequences of so many bytes at most, and leads
to the state `finish`. States that go on in the same way are one.
-/
def SetDraft.readAny (finish : Nat) : (length : Nat) → List ByteRanges → SetDraft →
    Nat × SetDraft
  | 0, _, set => (finish, set)
  | length + 1, sequences, set =>
      match groupByFirst sequences with
      | [] => (finish, set)
      | groups =>
          let (key, set) :=
            groups.foldl
              (fun (key, set) (range, rests) =>
                let (next, set) := readAny finish length rests set
                (key ++ [range.1.toNat, range.2.toNat, next], set))
              ([], set)
          set.reach key (rangeSize * groups.length)

/-- The states that read a sequence from its last byte to its first, and lead to the state `finish`. -/
def SetDraft.readBack (finish : Nat) (set : SetDraft) (sequence : ByteRanges) : SetDraft :=
  (sequence.foldl
    (fun (next, set) range => set.reach [next, range.1.toNat, range.2.toNat] 0)
    (finish, set)).2

/-- Draft the states that read a character of a set. -/
def draftSet (direction : Direction) (set : CharSet) (draft : Draft) : Option Draft :=
  if set.isAscii then
    draft.add? 2 (rangeSize * set.ranges.length)
  else
    let sequences := set.ranges.flatMap byteRanges
    match direction with
    | .forward => do
        let finish := draft.states
        let draft ← draft.addState?
        (SetDraft.readAny finish 4 sequences ⟨draft, .fresh 10000⟩).2.draft.accepted?
    | .backward => do
        let finish := draft.states + 1
        let draft ← draft.add? 2 (wayOutSize * sequences.length)
        (sequences.foldl (SetDraft.readBack finish) ⟨draft, .fresh 1000⟩).draft.accepted?

/-- The texts of patterns that are all literals. -/
def literals? (patterns : List Pattern) : Option (List (List UInt8)) :=
  patterns.mapM fun
    | .literal text => some (Utf8.encode text)
    | _ => none

/-- The texts that stand between empty ones, each with its first byte apart. -/
def runsBetweenEnds : List (List UInt8) → List (List (UInt8 × List UInt8))
  | [] => [[]]
  | [] :: later => [] :: runsBetweenEnds later
  | (first :: rest) :: later =>
      match runsBetweenEnds later with
      | run :: runs => ((first, rest) :: run) :: runs
      | [] => [[(first, rest)]]

/-- The texts, several empty ones at their beginning being one. -/
def endingOnce : List (List UInt8) → List (List UInt8)
  | [] :: later => [] :: later.dropWhile (·.isEmpty)
  | texts => texts

/--
Draft the states that read one of several texts, the earlier ones preferred. What
texts begin with is shared between two ends; each run of texts between ends is one
state, and a fork leads to the runs and ends. `fuel` bounds the lengths of the texts.
-/
def draftTexts : (fuel : Nat) → List (List UInt8) → Draft → Draft
  | 0, _, draft => draft
  | fuel + 1, texts, draft =>
      if texts.all (·.isEmpty) then draft
      else
        let runs := runsBetweenEnds (endingOnce texts)
        let draft :=
          (runs.filter (!·.isEmpty)).foldl
            (fun draft (run : List (UInt8 × List UInt8)) =>
              let firsts := (run.map (·.1)).eraseDups
              let ranges := if firsts.length = 1 then 0 else firsts.length
              firsts.foldl
                (fun draft first =>
                  let rests := run.filterMap fun (byte, rest) =>
                    if byte = first then some rest else none
                  draftTexts fuel rests draft)
                { states := draft.states + 1
                  wayBytes := draft.wayBytes + wayOutSize + rangeSize * ranges })
            draft
        { states := draft.states + 1
          wayBytes := draft.wayBytes + wayOutSize * (runs.length - 1) }

mutual

/-- Draft a pattern behind what is drafted. -/
def draft? (direction : Direction) : Pattern → Draft → Option Draft
  | .literal text, draft => draft.add? text.utf8Size 0
  | .one set, draft => draftSet direction set draft
  | .check _, draft => draft.addState?
  | .sequence [], draft => draft.addState?
  | .sequence parts, draft => draftAll? direction parts draft
  | .choice alternatives, draft =>
      match literals? alternatives with
      | some texts => do
          let texts := if direction = .forward then texts else texts.map List.reverse
          let longest := texts.foldl (fun most text => max most text.length) 0
          (draftTexts (longest + 1) texts (← draft.addState?)).accepted?
      | none => draftChoice? direction alternatives draft
  | .repeated least most _ body, draft =>
      let copies := Draft.repeat? (body.draft? direction)
      match most with
      | some most =>
          if least = 0 ∧ most = 1 then do
            (← body.draft? direction (← draft.addFork?)).addState?
          else if least = most then
            copies least draft
          else do
            let draft ← if least = 0 then draft.addState? else copies least draft
            let optional (draft : Draft) : Option Draft := do
              body.draft? direction (← draft.addFork?)
            Draft.repeat? optional (most - least) (← draft.addState?)
      | none =>
          if 0 < least then do
            (← copies least draft).addFork?
          else if body.nullable then do
            (← (← (← body.draft? direction draft).addFork?).addFork?).addState?
          else do
            body.draft? direction (← draft.addFork?)
  | .group _ body, draft =>
      match direction with
      | .forward => do (← body.draft? direction (← draft.addState?)).addState?
      | .backward => body.draft? direction draft

/-- Draft patterns one after the other, as their texts are read. -/
def draftAll? (direction : Direction) : List Pattern → Draft → Option Draft
  | [], draft => some draft
  | part :: parts, draft =>
      match direction with
      | .forward => do draftAll? direction parts (← part.draft? direction draft)
      | .backward => do part.draft? direction (← draftAll? direction parts draft)

/-- Draft alternatives; the fork that leads to them comes behind the second one. -/
def draftChoice? (direction : Direction) : List Pattern → Draft → Option Draft
  | first :: second :: later, draft => do
      let draft ← second.draft? direction (← first.draft? direction draft)
      draftLater? direction later (← draft.add? 2 (2 * wayOutSize))
  | [only], draft => only.draft? direction draft
  | [], draft => draft.addState?

/-- Draft further alternatives of a fork. -/
def draftLater? (direction : Direction) : List Pattern → Draft → Option Draft
  | [], draft => some draft
  | next :: later, draft => do
      draftLater? direction later (← (← next.draft? direction draft).add? 0 wayOutSize)

end

mutual

/-- Every match of the pattern begins, or in the other direction ends, where the text does. -/
def isAnchored (direction : Direction) : Pattern → Bool
  | .literal _ | .one _ => false
  | .check assertion =>
      decide (assertion = if direction = .forward then .textStart else .textEnd)
  | .sequence parts => sequenceIsAnchored direction parts
  | .choice alternatives => allAreAnchored direction alternatives
  | .repeated least _ _ body => 0 < least && body.isAnchored direction
  | .group _ body => body.isAnchored direction

/-- A sequence is anchored by the outermost of its parts. -/
def sequenceIsAnchored (direction : Direction) : List Pattern → Bool
  | [] => false
  | part :: parts =>
      let others := sequenceIsAnchored direction parts
      match direction with
      | .forward => part.isAnchored direction || (part.readsNothing && others)
      | .backward => others || (part.isAnchored direction && allReadNothing parts)

/-- All of the patterns are anchored. -/
def allAreAnchored (direction : Direction) : List Pattern → Bool
  | [] => true
  | part :: parts => part.isAnchored direction && allAreAnchored direction parts

end

/-- The beginning of a machine, which may read any bytes first if the pattern is not anchored. -/
def entry? (direction : Direction) (pattern : Pattern) : Option Draft := do
  if pattern.isAnchored direction then Draft.addState? {}
  else (← Draft.addFork? {}).add? 2 rangeSize

/-- The whole machine for a pattern, unless it is too large. -/
def machine? (direction : Direction) (pattern : Pattern) : Option Draft := do
  (← (Pattern.group 0 pattern).draft? direction (← pattern.entry? direction)).addState?

/-- Neither machine takes too much memory. -/
def fits (pattern : Pattern) : Bool :=
  (pattern.machine? .forward).isSome && (pattern.machine? .backward).isSome

end RefExpand.Pattern
