import RefExpand.Pattern.Flags
import RefExpand.Text.Escaping

namespace RefExpand.Pattern

/-!
# Escapes of patterns

What a backslash introduces: a character with a meaning of its own, one by its
number, a set by its letter or property, or a condition on the position. Back
references are refused.
-/

/-- What a backslash sequence stands for. -/
inductive Escape where
  | letter (letter : Letter)
  | set (set : CharSet)
  | check (assertion : Assertion)
  deriving Repr

/-- The character with this number, if there is one. -/
def charOfNat? (n : Nat) : Option Char :=
  if n.isValidChar then some (Char.ofNat n) else none

/-- The character whose number has these hexadecimal digits. -/
def charOfHex? (digits : Text) : Option Char :=
  if digits.isEmpty then none
  else
    (digits.foldlM (fun value c => (Text.hexValue? c).map (16 * value + ·)) 0).bind charOfNat?

/-- So many hexadecimal digits, each with what counts for nothing behind it. -/
def readHexDigits (flags : Flags) : Nat → Text → Option (Text × Text)
  | 0, text => some ([], text)
  | _, [] => none
  | width + 1, c :: rest =>
      if (Text.hexValue? c).isSome then
        (readHexDigits flags width (flags.skip rest)).map fun (digits, rest) =>
          (c :: digits, rest)
      else
        none

/-- A character by its hexadecimal number, in braces or in so many digits. -/
def readHex (flags : Flags) (width : Nat) (text : Text) : Except Fault (Escape × Text) :=
  let (found, inBraces) :=
    match flags.skip text with
    | '\x7b' :: inner => (upToBrace? flags false inner, true)
    | text => (readHexDigits flags width text, false)
  match found with
  | some (digits, rest) =>
      match charOfHex? digits with
      | some c => .ok (.letter { char := c, isByte := width == 2 && !inBraces }, rest)
      | none => .error .badEscape
  | none => .error .badEscape

/-- The set that the text within the braces of a property means, and whether it is turned round. -/
def namedProperty (text : Text) : Bool × Option CharSet :=
  match Text.breakOn? "!=" text with
  | some (property, value) => (true, CharSet.ofValue? property value)
  | none =>
      match Text.breakAt? (· == ':') text with
      | some (property, value) => (false, CharSet.ofValue? property value)
      | none =>
          match Text.breakAt? (· == '=') text with
          | some (property, value) => (false, CharSet.ofValue? property value)
          | none => (false, CharSet.ofName? text)

/-- A set by its property, in braces or as one letter. -/
def readProperty (flags : Flags) (negated : Bool) (text : Text) :
    Except Fault (Escape × Text) := do
  match flags.skip text with
  | '\x7b' :: inner =>
      match upToBrace? flags false inner with
      | some (property, rest) =>
          let (turned, set) := namedProperty property
          return (.set (← flags.propertySet (negated != turned) set), rest)
      | none => throw .badEscape
  | c :: rest =>
      let set := if c == '\\' then none else CharSet.ofName? [c]
      return (.set (← flags.propertySet negated set), rest)
  | [] => throw .badEscape

/-- What is asserted by a word boundary with a name in braces. -/
def wordPosition? (name : Text) : Option WordPosition :=
  match name.toString with
  | "start" => some .start
  | "end" => some .finish
  | "start-half" => some .noWordBefore
  | "end-half" => some .noWordAfter
  | _ => none

/-- A letter or a dash, as names of word boundaries begin. -/
def beginsBoundaryName (c : Char) : Bool :=
  c.isAlpha || c == '-'

/-- A word boundary, which a name in braces may narrow down; braces with a number repeat it. -/
def readBoundary (flags : Flags) (text : Text) : Except Fault (Escape × Text) :=
  let answer (position : WordPosition) (rest : Text) : Except Fault (Escape × Text) :=
    .ok (.check (.word flags.wordLetters position), rest)
  match text with
  | '\x7b' :: inner =>
      if ((flags.skip inner).head?).any beginsBoundaryName then
        match upToBrace? flags false inner with
        | some (name, rest) =>
            match wordPosition? name with
            | some position => answer position rest
            | none => .error .badEscape
        | none => .error .badEscape
      else
        answer .boundary text
  | text => answer .boundary text

/-- A backslash sequence, after its backslash. -/
def readEscape (flags : Flags) : Text → Except Fault (Escape × Text)
  | [] => .error .badEscape
  | c :: rest =>
      let escaped (negated : Bool) (set : EscapedSet) : Except Fault (Escape × Text) :=
        (flags.inverted negated (flags.escapedSet set)).map fun set => (.set set, rest)
      let letter (c : Char) : Except Fault (Escape × Text) := .ok (.letter { char := c }, rest)
      let word (position : WordPosition) : Except Fault (Escape × Text) :=
        .ok (.check (.word flags.wordLetters position), rest)
      match c with
      | 'd' => escaped false .digit
      | 'D' => escaped true .digit
      | 's' => escaped false .blank
      | 'S' => escaped true .blank
      | 'w' => escaped false .word
      | 'W' => escaped true .word
      | 'p' => readProperty flags false rest
      | 'P' => readProperty flags true rest
      | 'b' => readBoundary flags rest
      | 'B' => word .noBoundary
      | '<' => word .start
      | '>' => word .finish
      | 'A' => .ok (.check .textStart, rest)
      | 'z' => .ok (.check .textEnd, rest)
      | 'a' => letter '\x07'
      | 'f' => letter '\x0c'
      | 'n' => letter '\n'
      | 'r' => letter '\r'
      | 't' => letter '\t'
      | 'v' => letter '\x0b'
      | 'x' => readHex flags 2 rest
      | 'u' => readHex flags 4 rest
      | 'U' => readHex flags 8 rest
      | c => if c.toNat < 0x80 && !c.isAlphanum then letter c else .error .badEscape

end RefExpand.Pattern
