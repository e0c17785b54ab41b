import RefExpand.Text.Blank

namespace RefExpand

/-!
# Semicolon lists

A list is cut at semicolons that stand outside an item vector. The cutter knows
three modes: outside, inside a vector, and inside a quoted span of a vector;
only a closing parenthesis outside quotes ends the vector.
-/

namespace Text

/-- Where the list cutter stands. -/
inductive ListMode where
  | outside
  | vector
  | quoted
  deriving Repr, DecidableEq

/-- The mode after a character that neither cuts nor opens a vector. -/
def ListMode.after (mode : ListMode) (c : Char) : ListMode :=
  match mode, c with
  | .vector, '\'' => .quoted
  | .quoted, '\'' => .vector
  | .vector, ')' => .outside
  | mode, _ => mode

/-- The first raw piece of a list and the other pieces, starting in a mode. -/
def cutList : ListMode → Text → Text × List Text
  | _, [] => ([], [])
  | .outside, ';' :: rest =>
      let (piece, pieces) := cutList .outside rest
      ([], piece :: pieces)
  | .outside, '@' :: '(' :: rest =>
      let (piece, pieces) := cutList .vector rest
      ('@' :: '(' :: piece, pieces)
  | mode, c :: rest =>
      let (piece, pieces) := cutList (mode.after c) rest
      (c :: piece, pieces)

/-- The trimmed, non-blank pieces of a semicolon list. -/
def splitList (text : Text) : List Text :=
  let (piece, pieces) := cutList .outside text
  ((piece :: pieces).map trim).filter (!·.isEmpty)

end Text

end RefExpand
