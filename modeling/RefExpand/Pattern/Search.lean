import RefExpand.Number.Decimal
import RefExpand.Pattern.NamedSet
import RefExpand.Pattern.Program

namespace RefExpand

/-!
# Searching with patterns

A search runs the threads of a program over the text in the order of their
preference. A thread that accepts ends the less preferred ones; the search ends
when no thread is left.
-/

/-- A position stands so to the words, given whether a word is on its left and on its right. -/
def WordPosition.holds (left right : Bool) : WordPosition → Bool
  | .boundary => left != right
  | .noBoundary => left == right
  | .start => !left && right
  | .finish => left && !right
  | .noWordBefore => !left
  | .noWordAfter => !right

/-- The characters that words are made of. -/
def WordLetters.set : WordLetters → CharSet
  | .ascii => .asciiWord
  | .unicode => .word

namespace Pattern

/-- The captured positions, by slot; two slots belong to each group. -/
abbrev Slots := List (Nat × Nat)

/-- A place in a program and what was captured on the way to it. -/
structure Thread where
  place : Nat
  slots : Slots
  deriving Repr

/-- The character before a position, the one after it, and its number. -/
structure Spot where
  before : Option Char
  after : Option Char
  position : Nat
  deriving Repr

/-- The assertion holds at the spot. -/
def Spot.satisfies (spot : Spot) : Assertion → Bool
  | .textStart => spot.before.isNone
  | .textEnd => spot.after.isNone
  | .lineStart .lineFeed => spot.before.isNone || spot.before == some '\n'
  | .lineEnd .lineFeed => spot.after.isNone || spot.after == some '\n'
  | .lineStart .returnOrFeed =>
      spot.before.isNone || spot.before == some '\n' ||
        (spot.before == some '\r' && spot.after != some '\n')
  | .lineEnd .returnOrFeed =>
      spot.after.isNone || spot.after == some '\r' ||
        (spot.after == some '\n' && spot.before != some '\r')
  | .word letters position =>
      position.holds (spot.before.any letters.set.contains) (spot.after.any letters.set.contains)

/--
Where the search stands at a spot: the threads that read or accept, the latest
first, and for each place of the program the number of the spot, plus one, where
it was entered last.
-/
structure Front where
  entered : Array Nat
  collected : List Thread

/--
Follow the steps that read no character from each pending thread, the most
preferred first, and collect the threads that read or accept. Every place is
entered once, so `fuel` need not exceed twice the size of the program.
-/
def follow (program : Program) (spot : Spot) :
    (fuel : Nat) → (pending : List Thread) → Front → Front
  | 0, _, front => front
  | _, [], front => front
  | fuel + 1, thread :: pending, { entered, collected } =>
      if entered[thread.place]? == some (spot.position + 1) then
        follow program spot fuel pending { entered, collected }
      else
        let entered := entered.setIfInBounds thread.place (spot.position + 1)
        match program[thread.place]? with
        | none => follow program spot fuel pending { entered, collected }
        | some (.check assertion) =>
            if spot.satisfies assertion then
              let next := { thread with place := thread.place + 1 }
              follow program spot fuel (next :: pending) { entered, collected }
            else
              follow program spot fuel pending { entered, collected }
        | some (.fork preferred other) =>
            let first := { thread with place := preferred }
            let second := { thread with place := other }
            follow program spot fuel (first :: second :: pending) { entered, collected }
        | some (.jump target) =>
            let next := { thread with place := target }
            follow program spot fuel (next :: pending) { entered, collected }
        | some (.save slot) =>
            let slots := (slot, spot.position) :: thread.slots.filter (·.1 != slot)
            let next := { place := thread.place + 1, slots }
            follow program spot fuel (next :: pending) { entered, collected }
        | some (.read _) | some .accept =>
            follow program spot fuel pending { entered, collected := thread :: collected }

/--
Let the threads read a character; the first that accepts ends those behind it.
`moved` holds the threads that have read it, the latest first.
-/
def advance (program : Program) (c : Option Char) (moved : List Thread) :
    List Thread → List Thread × Option Slots
  | [] => (moved.reverse, none)
  | thread :: threads =>
      match program[thread.place]? with
      | some .accept => (moved.reverse, some thread.slots)
      | some (.read set) =>
          if c.any set.contains then
            let next := { thread with place := thread.place + 1 }
            advance program c (next :: moved) threads
          else
            advance program c moved threads
      | _ => advance program c moved threads

/-- A search under way: the threads, the preferred match so far, and the places entered before. -/
structure Hunt where
  threads : List Thread
  best : Option Slots
  entered : Array Nat

/-- A search that has not begun. -/
def Hunt.fresh (program : Program) : Hunt :=
  { threads := [], best := none, entered := Array.replicate program.size 0 }

/-- Take a search over one position; a new thread begins there as long as there is no match. -/
def Hunt.step (program : Program) (spot : Spot) (hunt : Hunt) : Hunt :=
  let threads := if hunt.best.isSome then hunt.threads else hunt.threads ++ [⟨0, []⟩]
  let front :=
    follow program spot (2 * program.size + threads.length + 1) threads ⟨hunt.entered, []⟩
  let (moved, accepted) := advance program spot.after [] front.collected.reverse
  { threads := moved, best := accepted.orElse fun _ => hunt.best, entered := front.entered }

/-- Take a search over the rest of a text, and give the preferred match. -/
def Hunt.run (program : Program) (before : Option Char) (position : Nat) (hunt : Hunt) :
    Text → Option Slots
  | [] => (hunt.step program { before, after := none, position }).best
  | c :: rest =>
      let hunt := hunt.step program { before, after := some c, position }
      if hunt.threads.isEmpty && hunt.best.isSome then hunt.best
      else hunt.run program (some c) (position + 1) rest

/-- A match: where it begins and ends, and the groups it captured. -/
structure Match where
  start : Nat
  finish : Nat
  slots : Slots
  deriving Repr

/-- The text between two positions. -/
def slice (text : Text) (start finish : Nat) : Text :=
  (text.drop start).take (finish - start)

namespace Match

/-- The match that a run of slots describes. -/
def ofSlots? (slots : Slots) : Option Match := do
  let start ← slots.lookup 0
  let finish ← slots.lookup 1
  some { start, finish, slots }

/-- The text that a group captured, if it took part. -/
def group? (found : Match) (text : Text) (index : Nat) : Option Text := do
  let start ← found.slots.lookup (2 * index)
  let finish ← found.slots.lookup (2 * index + 1)
  some (slice text start finish)

end Match

/-- The leftmost preferred match from a position on. -/
def findFrom? (program : Program) (text : Text) (position : Nat) : Option Match :=
  let before := if position = 0 then none else text[position - 1]?
  ((Hunt.fresh program).run program before position (text.drop position)).bind Match.ofSlots?

/--
The matches one after the other. An empty match right behind the one before
does not count. `fuel` bounds the number of searches.
-/
def findAll (program : Program) (text : Text) :
    (fuel : Nat) → (position : Nat) → (lastFinish : Option Nat) → List Match
  | 0, _, _ => []
  | fuel + 1, position, lastFinish =>
      if text.length < position then []
      else
        match findFrom? program text position with
        | none => []
        | some found =>
            if found.start = found.finish ∧ some found.finish = lastFinish then
              findAll program text fuel (position + 1) lastFinish
            else
              found :: findAll program text fuel found.finish (some found.finish)

/-- All matches of a pattern in a text. -/
def allMatches (pattern : Pattern) (text : Text) : List Match :=
  findAll pattern.program text (2 * text.length + 2) 0 none

/-- The first match of a pattern in a text. -/
def find? (pattern : Pattern) (text : Text) : Option Match :=
  findFrom? pattern.program text 0

/-- The pattern occurs in the text. -/
def occursIn (pattern : Pattern) (text : Text) : Bool :=
  (pattern.find? text).isSome

/-- The pattern matches a part of the text that is all of it. -/
def matchesWhole (pattern : Pattern) (text : Text) : Bool :=
  occursIn (.sequence [.check .textStart, pattern, .check .textEnd]) text

/-- The stretches between the matches. -/
def split (pattern : Pattern) (text : Text) : List Text :=
  go 0 (pattern.allMatches text)
where
  /-- The stretches from a position on. -/
  go (position : Nat) : List Match → List Text
    | [] => [text.drop position]
    | found :: later => slice text position found.start :: go found.finish later

/-- A piece of a replacement: literal text, or the text of a group. -/
inductive ReplacementPart where
  | literal (text : Text)
  | numbered (index : Nat)
  | named (name : Text)
  deriving Repr, DecidableEq

/-- The group that a name in a replacement stands for. -/
def ReplacementPart.ofName (name : Text) : ReplacementPart :=
  match Decimal.readNat64? name with
  | some index => .numbered index
  | none => .named name

/-- A character that continues an unbraced group name. -/
def isGroupNamePart (c : Char) : Bool :=
  c.isAlphanum || c == '_'

/-- Read a replacement: `$name`, braced names, and `$$` for a dollar. -/
def readReplacement (text : Text) : List ReplacementPart :=
  match text with
  | [] => []
  | '$' :: '$' :: rest => .literal ['$'] :: readReplacement rest
  | '$' :: '\x7b' :: rest =>
      match _braced : Text.breakAt? (· == '\x7d') rest with
      | some (name, after) => .ofName name :: readReplacement after
      | none => .literal ['$'] :: readReplacement ('\x7b' :: rest)
  | '$' :: rest =>
      let name := rest.takeWhile isGroupNamePart
      if name.isEmpty then .literal ['$'] :: readReplacement rest
      else .ofName name :: readReplacement (rest.dropWhile isGroupNamePart)
  | c :: rest => .literal [c] :: readReplacement rest
termination_by text.length
decreasing_by
  all_goals simp only [List.length_cons]
  all_goals try omega
  · have : ∀ {p : Char → Bool} {text before after : Text},
        Text.breakAt? p text = some (before, after) → after.length < text.length := by
      intro p text
      induction text with
      | nil => simp [Text.breakAt?]
      | cons c tail inductionHypothesis =>
          intro before after found
          simp only [Text.breakAt?] at found
          split at found
          · simp only [Option.some.injEq, Prod.mk.injEq] at found
            simp [← found.2]
          · simp only [Option.map_eq_some_iff, Prod.mk.injEq, Prod.exists] at found
            obtain ⟨earlier, later, inTail, -, rfl⟩ := found
            have := inductionHypothesis inTail
            simp only [List.length_cons]
            omega
    have := this _braced
    omega
  · have := (List.dropWhile_suffix isGroupNamePart (l := rest)).length_le
    omega

end Pattern

end RefExpand
