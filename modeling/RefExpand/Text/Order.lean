import RefExpand.Text.Casing

namespace RefExpand

/-!
# Order and search in texts

Texts compare by the code points of their characters, positions are counted in
characters, and a comparison that ignores case works on lower-case copies.
-/

/-- The number of an ordering: -1, 0 or 1. -/
def orderNumber : Ordering → Int64
  | .lt => -1
  | .eq => 0
  | .gt => 1

namespace Text

/-- Lexicographic order by code points. -/
def order : Text → Text → Ordering
  | [], [] => .eq
  | [], _ :: _ => .lt
  | _ :: _, [] => .gt
  | left :: lefts, right :: rights =>
      (compare left.toNat right.toNat).then (order lefts rights)

/-- The text as a comparison sees it. -/
def folded (ignoreCase : Bool) (text : Text) : Text :=
  if ignoreCase then text.lower else text

/-- Equality, perhaps up to case. -/
def equalUnder (ignoreCase : Bool) (left right : Text) : Bool :=
  folded ignoreCase left == folded ignoreCase right

/-- Order, perhaps up to case. -/
def orderUnder (ignoreCase : Bool) (left right : Text) : Ordering :=
  order (folded ignoreCase left) (folded ignoreCase right)

/-- The first position of `needle` at or after a position. -/
def indexFrom? (needle text : Text) (start : Nat) : Option Nat :=
  if start ≤ text.length then
    (breakOn? needle (text.drop start)).map fun (before, _) => start + before.length
  else
    none

/-- The last position of `needle`. -/
def lastIndex? (needle text : Text) : Option Nat :=
  (breakOn? needle.reverse text.reverse).map fun (_, before) => before.length

/-- The first position of a character of a class. -/
def indexWhere? (p : Char → Bool) (text : Text) : Option Nat :=
  (breakAt? p text).map fun (before, _) => before.length

/-- The stretch of `length` characters from a position, if there is one. -/
def stretch? (start length : Nat) (text : Text) : Option Text :=
  if start + length ≤ text.length then some ((text.drop start).take length) else none

/-- Everything from a position on, if there is such a position. -/
def tailFrom? (start : Nat) (text : Text) : Option Text :=
  if start ≤ text.length then some (text.drop start) else none

end Text

end RefExpand
