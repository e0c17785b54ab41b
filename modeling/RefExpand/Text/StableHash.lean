import RefExpand.Text.Basic

namespace RefExpand

/-!
# Stable hash of a text

A 32-bit hash over the UTF-16 units of a text, which stays the same from run to
run. The units are taken two at a time as a little-endian word; two sums take
the words in turn and are mixed at the end.
-/

namespace Text

/-- The UTF-16 units of one character. -/
def unitsOfChar (c : Char) : List Nat :=
  let code := c.toNat
  if code < 0x10000 then [code]
  else [0xD800 + (code - 0x10000) / 0x400, 0xDC00 + (code - 0x10000) % 0x400]

/-- The UTF-16 units of the text. -/
def units16 (text : Text) : List Nat :=
  text.flatMap unitsOfChar

/-- Pair the units into 32-bit words, the first unit low; a last odd unit stands alone. -/
def hashWords : List Nat → List Int32
  | low :: high :: rest => Int32.ofNat (low + 0x10000 * high) :: hashWords rest
  | [low] => [Int32.ofNat low]
  | [] => []

/-- One step of a running hash. -/
def hashStep (hash word : Int32) : Int32 :=
  ((hash <<< 5) + hash + (hash >>> 27)) ^^^ word

/-- Feed the words to two running hashes in turn. -/
def hashTurns (first second : Int32) : List Int32 → Int32 × Int32
  | [] => (first, second)
  | word :: words =>
      let (second', first') := hashTurns second (hashStep first word) words
      (first', second')

/-- The 32-bit stable hash. -/
def stableHash (text : Text) : Int32 :=
  let seed : Int32 := 352654597
  let (first, second) := hashTurns seed seed (hashWords text.units16)
  first + second * 1566083941

end Text

end RefExpand
