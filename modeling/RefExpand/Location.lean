import RefExpand.Text.Basic
import RefExpand.Number.Decimal

namespace RefExpand

/-!
# Locations

Where an expression was read: a file, or memory, and a line and column that are
both zero when unknown.
-/

/-- A line and a column, both zero when unknown. -/
structure Position where
  line : Nat := 0
  column : Nat := 0
  deriving Repr, DecidableEq, Inhabited

namespace Position

/-- The position was never set. -/
def isUnknown (position : Position) : Bool :=
  position.line == 0 && position.column == 0

/-- Order by line, then by column. -/
def order (left right : Position) : Ordering :=
  (compare left.line right.line).then (compare left.column right.column)

/-- The position in parentheses. -/
def text (position : Position) : Text :=
  '(' :: (Decimal.ofNat position.line ++ ',' :: (Decimal.ofNat position.column ++ [')']))

end Position

/-- The place of the element that holds an expression. -/
structure Location where
  file : Option Text := none
  position : Position := {}
  deriving Repr, DecidableEq, Inhabited

namespace Location

/-- The file or the word for memory, with the position if it is known. -/
def text (location : Location) : Text :=
  let place := location.file.getD "<memory>"
  if location.position.isUnknown then place else place ++ ' ' :: location.position.text

/-- Cut a path before its last component, leaving no separator or single dot at the end. -/
def parentOf? (path : Text) : Option Text :=
  let rooted := path.head? == some '/'
  let backwards := dropIdle path.reverse
  let shortened := dropIdle (backwards.dropWhile (· != '/'))
  if backwards.isEmpty then none
  else if !shortened.isEmpty then some shortened.reverse
  else if rooted then some ['/']
  else some []
where
  /-- Drop separators and single dots from the end of a reversed path. -/
  dropIdle : Text → Text
    | '/' :: rest => dropIdle rest
    | '.' :: '/' :: rest => dropIdle ('/' :: rest)
    | rest => rest

/-- The directory of the file, if the file has one. -/
def directory? (location : Location) : Option Text :=
  (location.file.bind parentOf?).filter (!·.isEmpty)

end Location

end RefExpand
