import RefExpand.Text.Utf8

namespace RefExpand

/-!
# Base-64 texts

The standard alphabet with padding. Reading is canonical: the padding has to be
there, and the bits that the padding leaves over have to be zero. Offsets count
the bytes of the text in UTF-8.
-/

namespace Base64

/-- The digit of a six-bit number. -/
def digit (n : Nat) : Char :=
  if n < 26 then Char.ofNat (n + 65)
  else if n < 52 then Char.ofNat (n - 26 + 97)
  else if n < 62 then Char.ofNat (n - 52 + 48)
  else if n = 62 then '+'
  else '/'

/-- The six-bit number of a digit. -/
def value? (c : Char) : Option Nat :=
  if 'A' ≤ c ∧ c ≤ 'Z' then some (c.toNat - 65)
  else if 'a' ≤ c ∧ c ≤ 'z' then some (c.toNat - 97 + 26)
  else if '0' ≤ c ∧ c ≤ '9' then some (c.toNat - 48 + 52)
  else if c = '+' then some 62
  else if c = '/' then some 63
  else none

/-- Three bytes become four digits; one or two left over are padded. -/
def encode : List UInt8 → Text
  | [] => []
  | [a] =>
      let n := a.toNat * 16
      [digit (n / 64), digit (n % 64), '=', '=']
  | [a, b] =>
      let n := (a.toNat * 256 + b.toNat) * 4
      [digit (n / 4096), digit (n / 64 % 64), digit (n % 64), '=']
  | a :: b :: c :: rest =>
      let n := (a.toNat * 256 + b.toNat) * 256 + c.toNat
      digit (n / 262144) :: digit (n / 4096 % 64) :: digit (n / 64 % 64) :: digit (n % 64) ::
        encode rest

/-- What is wrong with a text that is not in base-64. -/
inductive Fault where
  | byte (value : UInt8) (offset : Nat)
  | length (size : Nat)
  | lastSymbol (value : UInt8) (offset : Nat)
  | padding
  deriving Repr, DecidableEq

/-- The wording of a fault. -/
def Fault.message : Fault → Text
  | .byte value offset =>
      ("Invalid symbol " ++ toString value ++ ", offset " ++ toString offset ++ "." : String)
  | .length size => ("Invalid input length: " ++ toString size : String)
  | .lastSymbol value offset =>
      ("Invalid last symbol " ++ toString value ++ ", offset " ++ toString offset ++ "." : String)
  | .padding => "Invalid padding"

/-- The six-bit numbers of bytes that stand at an offset, all of which have to be digits. -/
def numbersAt (offset : Nat) : List UInt8 → Except Fault (List Nat)
  | [] => .ok []
  | byte :: rest =>
      match value? (Char.ofNat byte.toNat) with
      | some n => (numbersAt (offset + 1) rest).map (n :: ·)
      | none => .error (.byte byte offset)

/-- The byte that pads. -/
def pad : UInt8 := 61

/--
The six-bit numbers of the last group, which stands at an offset: at least two
digits, and then padding up to four bytes.
-/
def lastNumbersAt (offset : Nat) (group : List UInt8) : Except Fault (List Nat) := do
  let digits := group.takeWhile (· != pad)
  let padding := group.dropWhile (· != pad)
  let numbers ← numbersAt offset digits
  if !padding.isEmpty && (digits.length < 2 || padding.any (· != pad)) then
    throw (.byte pad (offset + digits.length))
  else if digits.length = 1 then
    throw (.length (offset + 1))
  else if group.length % 4 ≠ 0 then
    throw .padding
  else
    return numbers

/-- The bytes of a sequence of six-bit numbers, with the bits left over. -/
def bytes : List Nat → List UInt8 × Nat
  | a :: b :: c :: d :: rest =>
      let n := ((a * 64 + b) * 64 + c) * 64 + d
      let (later, left) := bytes rest
      (UInt8.ofNat (n / 65536) :: UInt8.ofNat (n / 256) :: UInt8.ofNat n :: later, left)
  | [a, b, c] =>
      let n := (a * 64 + b) * 64 + c
      ([UInt8.ofNat (n / 1024), UInt8.ofNat (n / 4)], n % 4)
  | [a, b] =>
      let n := a * 64 + b
      ([UInt8.ofNat (n / 16)], n % 16)
  | _ => ([], 0)

/-- The last byte, if it is alone in its group and neither a digit nor padding. -/
def strayEnd? (written : List UInt8) : Option UInt8 :=
  if written.length % 4 = 1 then
    written.getLast?.filter fun byte =>
      byte != pad && (value? (Char.ofNat byte.toNat)).isNone
  else
    none

/-- Read a base-64 text. A stray last byte is refused before anything else is looked at. -/
def decode (text : Text) : Except Fault (List UInt8) := do
  let written := Utf8.encode text
  if let some byte := strayEnd? written then
    throw (.byte byte (written.length - 1))
  else
    let start := (written.length - 1) / 4 * 4
    let early ← numbersAt 0 (written.take start)
    let late ← lastNumbersAt start (written.drop start)
    let (decoded, left) := bytes (early ++ late)
    let position := start + late.length - 1
    if left = 0 then return decoded
    else throw (.lastSymbol (written.getD position pad) position)

end Base64

end RefExpand
