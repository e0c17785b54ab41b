import RefExpand.Error

namespace RefExpand

/-!
# How an expansion ends without a result

An error ends one expansion and is reported to its caller. A halt is a breach
of what the engine relies on, and ends the whole run.
-/

/-- A breach that no caller can recover from. -/
inductive Halt where
  /-- Metadata is to be expanded and there is no table for it. -/
  | noMetadataTable
  /-- A text is cut at a byte that is inside the encoding of a character. -/
  | cutCharacter (offset : Nat) (text : Text)
  deriving Repr, DecidableEq

namespace Text

/-- The character whose encoding holds the byte at an offset without starting there. -/
def charAround? (offset : Nat) : (start : Nat) → Text → Option (Char × Nat)
  | _, [] => none
  | start, c :: rest =>
      if offset ≤ start then none
      else if offset < start + c.utf8Size then some (c, start)
      else charAround? offset (start + c.utf8Size) rest

/-- The byte offset is inside the encoding of a character. -/
def cutsCharacter (offset : Nat) (text : Text) : Bool :=
  (charAround? offset 0 text).isSome

end Text

namespace Halt

/-- The wording of a halt. -/
def message : Halt → Text
  | .noMetadataTable => "metadata expansion requested without a metadata table"
  | .cutCharacter offset text =>
      let (c, start) := (text.charAround? offset 0).getD (' ', offset)
      "end byte index ".toList ++ Decimal.ofNat offset ++
        " is not a char boundary; it is inside '".toList ++ [c] ++ "' (bytes ".toList ++
        Decimal.ofNat start ++ "..".toList ++ Decimal.ofNat (start + c.utf8Size) ++
        " of string)".toList

end Halt

/-- An error or a halt. -/
inductive Failure where
  | error (cause : ExpandError)
  | halt (breach : Halt)
  deriving Repr, DecidableEq

namespace Failure

/-- Attach a location to an error; a halt has none. -/
def withLocation (failure : Failure) (location : Location) : Failure :=
  match failure with
  | .error cause => .error (cause.withLocation location)
  | .halt breach => .halt breach

end Failure

end RefExpand
