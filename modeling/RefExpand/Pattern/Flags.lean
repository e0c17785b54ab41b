import RefExpand.Pattern.Basic
import RefExpand.Pattern.NamedSet
import RefExpand.Pattern.Unicode.CaseGroup
import RefExpand.Text.Blank

namespace RefExpand.Pattern

/-!
# Flags of patterns

Flags change what the parts of a written pattern mean from where they are set to
the end of the group. Without the flag for Unicode a pattern speaks of ASCII
alone, and what could match a part of a longer character is refused.
-/

/-- What is wrong with a written pattern. -/
inductive Fault where
  | unclosedGroup
  | unopenedGroup
  | unclosedSet
  | missingOperand
  | badCount
  | badEscape
  | badGroup
  | badRange
  | badFlags
  | duplicateName
  | unknownProperty
  | beyondAscii
  | tooDeep
  | tooLarge
  deriving Repr, DecidableEq

/-- The flags in force at a place of a pattern. -/
structure Flags where
  ignoreCase : Bool := false
  multiLine : Bool := false
  dotAll : Bool := false
  swapGreed : Bool := false
  unicode : Bool := true
  returnEndsLine : Bool := false
  verbose : Bool := false
  deriving Repr, DecidableEq

/-- A character of a written pattern; one with a two-digit number stands for a byte. -/
structure Letter where
  char : Char
  isByte : Bool := false
  deriving Repr, DecidableEq

/-- The sets that have a letter for their escape. -/
inductive EscapedSet where
  | digit
  | blank
  | word
  deriving Repr, DecidableEq

namespace Flags

/-- Set or clear the flag of a letter. -/
def change? (flags : Flags) (value : Bool) : Char → Option Flags
  | 'i' => some { flags with ignoreCase := value }
  | 'm' => some { flags with multiLine := value }
  | 's' => some { flags with dotAll := value }
  | 'U' => some { flags with swapGreed := value }
  | 'u' => some { flags with unicode := value }
  | 'R' => some { flags with returnEndsLine := value }
  | 'x' => some { flags with verbose := value }
  | _ => none

/-- The flags after a row of letters, those behind a dash being cleared. -/
def changeBy (flags : Flags) (value : Bool) : Text → Except Fault Flags
  | [] => .ok flags
  | '-' :: rest => if rest.isEmpty then .error .badFlags else flags.changeBy false rest
  | c :: rest =>
      match flags.change? value c with
      | some flags => flags.changeBy value rest
      | none => .error .badFlags

/-- The flags after a row of letters, none of which may come twice. -/
def changed (flags : Flags) (letters : Text) : Except Fault Flags :=
  if letters.Nodup then flags.changeBy true letters else .error .badFlags

/-- The set with the other cases of its members, if case is ignored. -/
def fold (flags : Flags) (set : CharSet) : CharSet :=
  if !flags.ignoreCase then set
  else if flags.unicode then set.folded
  else set.asciiFolded

/-- The set, or all that is not in it; without Unicode it may not go beyond ASCII. -/
def inverted (flags : Flags) (negated : Bool) (set : CharSet) : Except Fault CharSet :=
  let set := if negated then set.complement else set
  if flags.unicode || set.isAscii then .ok set else .error .beyondAscii

/-- The set as it is meant: with both cases if case is ignored, and only then turned round. -/
def finish (flags : Flags) (negated : Bool) (set : CharSet) : Except Fault CharSet :=
  flags.inverted negated (flags.fold set)

/-- The set of an escape. -/
def escapedSet (flags : Flags) (set : EscapedSet) : CharSet :=
  match set, flags.unicode with
  | .digit, true => .decimalNumber
  | .digit, false => .asciiDigit
  | .blank, true => .whiteSpace
  | .blank, false => .asciiBlank
  | .word, true => .word
  | .word, false => .asciiWord

/-- The set of a property, which only patterns with Unicode know. -/
def propertySet (flags : Flags) (negated : Bool) (set : Option CharSet) : Except Fault CharSet :=
  match set with
  | none => .error .unknownProperty
  | some set => if flags.unicode then flags.finish negated set else .error .beyondAscii

/-- The pattern of one letter. -/
def letterPattern (flags : Flags) (letter : Letter) : Except Fault Pattern :=
  if !flags.unicode && letter.isByte && 0x7F < letter.char.toNat then .error .beyondAscii
  else .ok (.ofSet (flags.fold (.ofChar letter.char)))

/-- The code of a letter within brackets. -/
def letterCode (flags : Flags) (letter : Letter) : Except Fault Nat :=
  if !flags.unicode && 0x7F < letter.char.toNat then .error .beyondAscii
  else .ok letter.char.toNat

/-- What ends a line. -/
def lineEnding (flags : Flags) : LineEnding :=
  if flags.returnEndsLine then .returnOrFeed else .lineFeed

/-- The pattern of a dot: any character, or any that does not end a line. -/
def dot (flags : Flags) : Except Fault Pattern :=
  let ending : CharSet :=
    match flags.dotAll, flags.lineEnding with
    | true, _ => .none
    | false, .lineFeed => .ofChar '\n'
    | false, .returnOrFeed => .ofSets [.ofChar '\n', .ofChar '\r']
  if flags.unicode then .ok (.one ending.complement) else .error .beyondAscii

/-- What a circumflex asserts. -/
def circumflex (flags : Flags) : Assertion :=
  if flags.multiLine then .lineStart flags.lineEnding else .textStart

/-- What a dollar asserts. -/
def dollar (flags : Flags) : Assertion :=
  if flags.multiLine then .lineEnd flags.lineEnding else .textEnd

/-- What words are made of. -/
def wordLetters (flags : Flags) : WordLetters :=
  if flags.unicode then .unicode else .ascii

end Flags

/-- Skip the blanks of a verbose pattern and its comments, which end with their line. -/
def skipVerbose (inComment : Bool) : Text → Text
  | [] => []
  | c :: rest =>
      if inComment then skipVerbose (c != '\n') rest
      else if isBlank c then skipVerbose false rest
      else if c == '#' then skipVerbose true rest
      else c :: rest

/-- Skip what counts for nothing under the flags. -/
def Flags.skip (flags : Flags) (text : Text) : Text :=
  if flags.verbose then skipVerbose false text else text

/-- What stands before a closing brace, without what counts for nothing, and what follows it. -/
def upToBrace? (flags : Flags) (inComment : Bool) : Text → Option (Text × Text)
  | [] => none
  | c :: rest =>
      if inComment then upToBrace? flags (c != '\n') rest
      else if flags.verbose && isBlank c then upToBrace? flags false rest
      else if flags.verbose && c == '#' then upToBrace? flags true rest
      else if c == '\x7d' then some ([], rest)
      else (upToBrace? flags false rest).map fun (inner, after) => (c :: inner, after)

end RefExpand.Pattern
