import RefExpand.Text.Basic
import RefExpand.Number.Decimal

namespace RefExpand

/-!
# UTF-8

Bytes are read as characters from left to right. A sequence is invalid at the
first byte that cannot continue it, and incomplete if the bytes end first.
-/

namespace Utf8

/-- Why bytes are no text: where, and how many bytes an invalid sequence has. -/
inductive Fault where
  | invalid (offset size : Nat)
  | incomplete (offset : Nat)
  deriving Repr, DecidableEq

/-- The wording of a fault. -/
def Fault.message : Fault → Text
  | .invalid offset size =>
      "invalid utf-8 sequence of ".toList ++ Decimal.ofNat size ++ " bytes from index ".toList ++
        Decimal.ofNat offset
  | .incomplete offset =>
      "incomplete utf-8 byte sequence from index ".toList ++ Decimal.ofNat offset

/-- A byte that continues a sequence. -/
def isContinuation (byte : UInt8) : Bool :=
  0x80 ≤ byte && byte ≤ 0xBF

/-- The second byte may follow the first one of a sequence. -/
def mayFollow (first second : UInt8) : Bool :=
  isContinuation second &&
    (first != 0xE0 || 0xA0 ≤ second) && (first != 0xED || second ≤ 0x9F) &&
    (first != 0xF0 || 0x90 ≤ second) && (first != 0xF4 || second ≤ 0x8F)

/-- The six bits of a continuation. -/
def bits (byte : UInt8) : Nat :=
  byte.toNat % 64

/-- Read bytes that stand at an offset. -/
def decodeAt (offset : Nat) : List UInt8 → Except Fault Text
  | [] => .ok []
  | first :: rest =>
      if first < 0x80 then
        (decodeAt (offset + 1) rest).map (Char.ofNat first.toNat :: ·)
      else if first < 0xC2 || 0xF4 < first then
        .error (.invalid offset 1)
      else
        match rest with
        | [] => .error (.incomplete offset)
        | second :: rest =>
            if !mayFollow first second then .error (.invalid offset 1)
            else if first < 0xE0 then
              (decodeAt (offset + 2) rest).map
                (Char.ofNat ((first.toNat % 32) * 64 + bits second) :: ·)
            else
              match rest with
              | [] => .error (.incomplete offset)
              | third :: rest =>
                  if !isContinuation third then .error (.invalid offset 2)
                  else if first < 0xF0 then
                    (decodeAt (offset + 3) rest).map
                      (Char.ofNat (((first.toNat % 16) * 64 + bits second) * 64 + bits third) :: ·)
                  else
                    match rest with
                    | [] => .error (.incomplete offset)
                    | fourth :: rest =>
                        if !isContinuation fourth then .error (.invalid offset 3)
                        else
                          (decodeAt (offset + 4) rest).map
                            (Char.ofNat
                              ((((first.toNat % 8) * 64 + bits second) * 64 + bits third) * 64 +
                                bits fourth) :: ·)

/-- Read bytes as a text. -/
def decode (bytes : List UInt8) : Except Fault Text :=
  decodeAt 0 bytes

/-- The bytes of a character. -/
def encodeChar (c : Char) : List UInt8 :=
  let code := c.toNat
  if code < 0x80 then [UInt8.ofNat code]
  else if code < 0x800 then [UInt8.ofNat (0xC0 + code / 64), UInt8.ofNat (0x80 + code % 64)]
  else if code < 0x10000 then
    [UInt8.ofNat (0xE0 + code / 4096), UInt8.ofNat (0x80 + code / 64 % 64),
      UInt8.ofNat (0x80 + code % 64)]
  else
    [UInt8.ofNat (0xF0 + code / 262144), UInt8.ofNat (0x80 + code / 4096 % 64),
      UInt8.ofNat (0x80 + code / 64 % 64), UInt8.ofNat (0x80 + code % 64)]

/-- The bytes of a text. -/
def encode (text : Text) : List UInt8 :=
  text.flatMap encodeChar

end Utf8

end RefExpand
