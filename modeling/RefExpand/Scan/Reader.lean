import RefExpand.Text.Blank

namespace RefExpand

/-!
# Readers

A reader recognises something at the beginning of a text and leaves a shorter
rest. Cutting a text with a reader tries it at every position from the left and
goes on behind what it found, or one character later where it found nothing.
-/

/-- Recognises a value at the beginning of a text, always taking at least one character. -/
structure Reader (α : Type) where
  read? : Text → Option (α × Text)
  shrinks : ∀ {text rest : Text} {value : α},
    read? text = some (value, rest) → rest.length < text.length

/-- A text cut into values with the text before each, and the text after the last. -/
structure Cut (α : Type) where
  found : List (Text × α)
  last : Text
  deriving Repr, DecidableEq

namespace Cut

/-- Put a character in front of the text before the first value. -/
def push (c : Char) (cut : Cut α) : Cut α :=
  match cut.found with
  | [] => { cut with last := c :: cut.last }
  | (gap, value) :: more => { cut with found := (c :: gap, value) :: more }

/-- The values in order. -/
def values (cut : Cut α) : List α :=
  cut.found.map (·.2)

/-- Values, each written in a text, with the byte offset at which each begins. -/
def place (written : α → Text) (start : Nat) : List (Text × α) → List (Nat × α)
  | [] => []
  | (before, value) :: rest =>
      let offset := start + before.utf8Size
      (offset, value) :: place written (offset + (written value).utf8Size) rest

/-- The values with their byte offsets, the text beginning at an offset of its own. -/
def placed (cut : Cut α) (written : α → Text) (start : Nat) : List (Nat × α) :=
  place written start cut.found

end Cut

namespace Reader

/-- Cut a text at everything the reader recognises, from the left. -/
def cut (reader : Reader α) (text : Text) : Cut α :=
  match text with
  | [] => { found := [], last := [] }
  | c :: tail =>
      match _read : reader.read? (c :: tail) with
      | some (value, rest) =>
          let later := cut reader rest
          { later with found := ([], value) :: later.found }
      | none => (cut reader tail).push c
termination_by text.length
decreasing_by
  · exact reader.shrinks _read
  · simp

end Reader

end RefExpand
