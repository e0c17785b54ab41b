import RefExpand.Scan.ItemVector
import RefExpand.Text.Part

namespace RefExpand

/-!
# Windows

A search between two offsets of an expression does not cut the expression. It goes
from place to place, and a place knows all that stands ahead, what is beyond the
window included, and how many bytes of that the window holds. Names, arrows and
quoted texts are read from what can be seen of the window. Blanks, parentheses and
the quotes between them are followed through all that stands ahead, and it is
checked then that they do not reach beyond the window.
-/

/-- A place in an expression: what stands ahead, and how many bytes of it the window holds. -/
structure Place where
  ahead : Text
  room : Nat
  deriving Repr, DecidableEq

namespace Place

/-- The place at which the window between two offsets begins. -/
def between (expression : Text) (start finish : Nat) : Place :=
  { ahead := expression.dropBytes start, room := finish - start }

/-- What stands ahead within the window. -/
def visible (place : Place) : Text :=
  place.ahead.takeBytes place.room

/-- The place so many bytes further. -/
def advance (size : Nat) (place : Place) : Place :=
  { ahead := place.ahead.dropBytes size, room := place.room - size }

/-- The place behind the blanks ahead, or the end of the window if they reach beyond it. -/
def skipBlanks (place : Place) : Place :=
  place.advance (min (Text.utf8Size (place.ahead.takeWhile isAsciiBlank)) place.room)

/-- The name at the place, empty if there is none, and the place behind it. -/
def takeName (place : Place) : Text × Place :=
  let name := (Text.takeName place.visible).1
  (name, place.advance name.utf8Size)

/-- A text in single quotes, and the place behind it. -/
def readQuoted? (place : Place) : Option (Text × Place) :=
  (ItemVector.readQuoted? place.visible).map fun (body, _) =>
    (body, place.advance (body.utf8Size + 2))

/-- Put a text in front of what was passed over. -/
def passed (front : Text) : Text × Place → Text × Place
  | (inside, place) => (front ++ inside, place)

/--
The text up to the parenthesis that closes the one before it, and the place behind that.
A quoted span is passed over at once: its end is looked for in all of the text, and then
must lie within the window.
-/
def closeWithin (depth room : Nat) (text : Text) : Option (Text × Place) :=
  match text with
  | [] => none
  | c :: rest =>
      let left := room - c.utf8Size
      if room = 0 then none
      else if isQuote c then
        match _found : Text.breakAt? (· == c) rest with
        | none => none
        | some (body, behind) =>
            if left ≤ body.utf8Size then none
            else
              (closeWithin depth (left - (body.utf8Size + 1)) behind).map
                (passed (c :: (body ++ [c])))
      else if c = '(' then
        (closeWithin (depth + 1) left rest).map (passed [c])
      else if c = ')' then
        match depth with
        | 0 => some ([], { ahead := rest, room := left })
        | depth + 1 => (closeWithin depth left rest).map (passed [c])
      else
        (closeWithin depth left rest).map (passed [c])
termination_by text.length
decreasing_by
  · obtain ⟨_, _, rfl⟩ := Text.breakAt?_eq_append _found
    simp only [List.length_cons, List.length_append]
    omega
  all_goals simp

/-- An argument list in parentheses, and the place behind it. -/
def readParens? (place : Place) : Option (Text × Place) :=
  match place.ahead with
  | '(' :: rest => closeWithin 0 (place.room - 1) rest
  | _ => none

/-- A function name and an argument list, blanks between them, and the place behind it. -/
def readFunction? (place : Place) : Option ((Text × Text) × Place) :=
  match place.takeName with
  | ([], _) => none
  | (name, behind) =>
      behind.skipBlanks.readParens?.map fun (arguments, next) => ((name, arguments), next)

/-- A transform, and the place behind it; the window must go on behind a quoted one. -/
def readTransform? (place : Place) : Option (TransformKind × Place) :=
  match place.readQuoted?.filter fun (_, next) => next.room ≠ 0 with
  | some (body, next) => some (.quoted body, next)
  | none =>
      place.readFunction?.map fun ((name, arguments), next) => (.function name arguments, next)

theorem skipBlanks_room_le (place : Place) : place.skipBlanks.room ≤ place.room :=
  Nat.sub_le _ _

theorem room_pos_of_visible
    {place : Place} {c : Char} {rest : Text} (seen : place.visible = c :: rest) :
    0 < place.room := by
  rw [Nat.pos_iff_ne_zero]
  intro full
  rw [visible, full, Text.takeBytes] at seen
  cases seen

theorem closeWithin_room_le
    {depth room : Nat} {text inside : Text} {next : Place}
    (closed : closeWithin depth room text = some (inside, next)) :
    next.room ≤ room := by
  fun_induction closeWithin depth room text generalizing inside next with
  | case1 | case2 | case3 | case4 => cases closed
  | case7 =>
      cases closed
      exact Nat.sub_le _ _
  | _ =>
      rename_i inductionHypothesis
      obtain ⟨⟨later, place⟩, closedLater, same⟩ := Option.map_eq_some_iff.mp closed
      cases same
      have := inductionHypothesis closedLater
      omega

theorem readParens?_room_le
    {place next : Place} {inside : Text} (read : place.readParens? = some (inside, next)) :
    next.room ≤ place.room := by
  unfold readParens? at read
  split at read
  · exact Nat.le_trans (closeWithin_room_le read) (Nat.sub_le _ _)
  · cases read

theorem readQuoted?_room_le
    {place next : Place} {body : Text} (read : place.readQuoted? = some (body, next)) :
    next.room ≤ place.room := by
  obtain ⟨found, -, same⟩ := Option.map_eq_some_iff.mp read
  cases same
  exact Nat.sub_le _ _

theorem readFunction?_room_le
    {place next : Place} {function : Text × Text}
    (read : place.readFunction? = some (function, next)) :
    next.room ≤ place.room := by
  unfold readFunction? at read
  split at read
  · cases read
  · rename_i name behind nonempty taken
    obtain ⟨⟨inside, last⟩, parens, same⟩ := Option.map_eq_some_iff.mp read
    cases same
    have atParens := readParens?_room_le parens
    have atBlanks := skipBlanks_room_le behind
    have atName : behind.room ≤ place.room := by
      cases taken
      exact Nat.sub_le _ _
    omega

theorem readTransform?_room_le
    {place next : Place} {kind : TransformKind}
    (read : place.readTransform? = some (kind, next)) :
    next.room ≤ place.room := by
  unfold readTransform? at read
  split at read
  · rename_i body behind quoted
    cases read
    exact readQuoted?_room_le (Option.eq_some_of_filter_eq_some quoted)
  · obtain ⟨⟨function, last⟩, readOne, same⟩ := Option.map_eq_some_iff.mp read
    cases same
    exact readFunction?_room_le readOne

/--
The transforms after an item type, each behind an arrow, and the place behind them.
`size` is the length of all that stands ahead of the beginning of the vector.
-/
def readTransforms? (size : Nat) (place : Place) : Option (List Transform × Place) :=
  match _seen : place.visible with
  | '-' :: '>' :: _ =>
      let start := (place.advance 2).skipBlanks
      match _read : start.readTransform? with
      | none => none
      | some (kind, next) =>
          match readTransforms? size next.skipBlanks with
          | none => none
          | some (later, last) =>
              some (Transform.between size start.ahead next.ahead kind :: later, last)
  | _ => some ([], place)
termination_by place.room
decreasing_by
  have := room_pos_of_visible _seen
  have := readTransform?_room_le _read
  have := skipBlanks_room_le next
  have : start.room ≤ (place.advance 2).room := skipBlanks_room_le _
  have : (place.advance 2).room = place.room - 2 := rfl
  omega

/-- An optional separator in single quotes behind a comma, and the place behind it. -/
def readSeparator? (size : Nat) (place : Place) : Option (Option Separator × Place) :=
  match place.visible with
  | ',' :: _ =>
      let start := (place.advance 1).skipBlanks
      start.readQuoted?.map fun (separator, next) =>
        (some { text := separator, offset := size - start.ahead.length + 1 }, next.skipBlanks)
  | _ => some (none, place)

/-- The parts of a vector after its opening, and the place behind its closing parenthesis. -/
def readParts? (size : Nat) (place : Place) :
    Option ((Text × List Transform × Option Separator) × Place) :=
  match place.skipBlanks.takeName with
  | ([], _) => none
  | (itemType, behind) =>
      match readTransforms? size behind.skipBlanks with
      | none => none
      | some (transforms, last) =>
          match readSeparator? size last with
          | none => none
          | some (separator, last) =>
              match last.visible with
              | ')' :: _ => some ((itemType, transforms, separator), last.advance 1)
              | _ => none

/-- An item vector, and the place behind it. -/
def readVector? (place : Place) : Option (ItemVector × Place) :=
  match place.visible with
  | '@' :: '(' :: _ =>
      (readParts? place.ahead.length (place.advance 2)).map
        fun ((itemType, transforms, separator), next) =>
          let written := place.ahead.take (place.ahead.length - next.ahead.length)
          ({ written, itemType, transforms, separator }, next)
  | _ => none

/-- A metadata reference, which is read from what can be seen, and the place behind it. -/
def readMetadata? (place : Place) : Option (MetadataReference × Place) :=
  (MetadataReference.read? place.visible).map fun (reference, _) =>
    (reference, place.advance reference.written.utf8Size)

theorem readTransforms?_room_le
    {size : Nat} {place behind : Place} {transforms : List Transform}
    (read : place.readTransforms? size = some (transforms, behind)) :
    behind.room ≤ place.room := by
  fun_induction readTransforms? size place generalizing transforms behind with
  | case1 => cases read
  | case2 => cases read
  | case3 place tail seen start kind next readOne later last recursion =>
      rename_i inductionHypothesis
      cases read
      have := inductionHypothesis recursion
      have := readTransform?_room_le readOne
      have := skipBlanks_room_le next
      have : start.room ≤ (place.advance 2).room := skipBlanks_room_le _
      have : (place.advance 2).room ≤ place.room := Nat.sub_le _ _
      omega
  | case4 =>
      cases read
      exact Nat.le_refl _

theorem readSeparator?_room_le
    {size : Nat} {place last : Place} {separator : Option Separator}
    (read : place.readSeparator? size = some (separator, last)) :
    last.room ≤ place.room := by
  unfold readSeparator? at read
  split at read
  · obtain ⟨⟨body, next⟩, quoted, same⟩ := Option.map_eq_some_iff.mp read
    cases same
    have := skipBlanks_room_le next
    have := readQuoted?_room_le quoted
    have := skipBlanks_room_le (place.advance 1)
    have : (place.advance 1).room ≤ place.room := Nat.sub_le _ _
    omega
  · cases read
    exact Nat.le_refl _

theorem readParts?_room_le
    {size : Nat} {place next : Place} {parts : Text × List Transform × Option Separator}
    (read : place.readParts? size = some (parts, next)) :
    next.room ≤ place.room := by
  unfold readParts? at read
  split at read
  · cases read
  · rename_i itemType behind nonempty taken
    split at read
    · cases read
    · rename_i transforms last readAll
      split at read
      · cases read
      · rename_i separator last' readOne
        split at read
        · cases read
          have := readTransforms?_room_le readAll
          have := readSeparator?_room_le readOne
          have := skipBlanks_room_le behind
          have := skipBlanks_room_le place
          have : behind.room ≤ place.skipBlanks.room := by
            cases taken
            exact Nat.sub_le _ _
          have : (last'.advance 1).room ≤ last'.room := Nat.sub_le _ _
          omega
        · cases read

theorem readVector?_room_lt
    {place next : Place} {vector : ItemVector}
    (read : place.readVector? = some (vector, next)) :
    next.room < place.room := by
  unfold readVector? at read
  split at read
  · rename_i tail seen
    obtain ⟨⟨parts, last⟩, readAll, same⟩ := Option.map_eq_some_iff.mp read
    cases same
    have := readParts?_room_le readAll
    have := room_pos_of_visible seen
    have : (place.advance 2).room = place.room - 2 := rfl
    omega
  · cases read

theorem readMetadata?_room_lt
    {place next : Place} {reference : MetadataReference}
    (read : place.readMetadata? = some (reference, next)) :
    next.room < place.room := by
  obtain ⟨⟨found, rest⟩, readSeen, same⟩ := Option.map_eq_some_iff.mp read
  cases same
  cases seen : place.visible with
  | nil =>
      rw [seen] at readSeen
      cases readSeen
  | cons c tail =>
      have room := room_pos_of_visible seen
      unfold MetadataReference.read? at readSeen
      split at readSeen
      · obtain ⟨names, -, same⟩ := Option.map_eq_some_iff.mp readSeen
        cases same
        have written : 0 < Text.utf8Size ('%' :: '(' :: tail) :=
          Nat.add_pos_left (Char.utf8Size_pos '%') _
        have : 0 < Char.utf8Size '%' := Char.utf8Size_pos '%'
        simp only [advance, Text.utf8Size, List.foldr_cons]
        omega
      · cases readSeen

end Place

/-- Recognises a value at a place that begins with a sign and a parenthesis. -/
structure PlaceReader (α : Type) where
  sign : Char
  read? : Place → Option (α × Place)
  shrinks : ∀ {place next : Place} {value : α},
    read? place = some (value, next) → next.room < place.room

namespace PlaceReader

/--
What is recognised in the window ahead of a place, each with its offset. The search goes
on behind what was recognised, or one byte behind an opening that opens nothing.
-/
def captures (reader : PlaceReader α) (offset : Nat) (place : Place) : List (Nat × α) :=
  match _found : Text.breakOn? [reader.sign, '('] place.visible with
  | none => []
  | some (before, _) =>
      let start := offset + before.utf8Size
      let opening := place.advance before.utf8Size
      match _read : reader.read? opening with
      | some (value, next) =>
          (start, value) :: captures reader (start + (opening.room - next.room)) next
      | none => captures reader (start + 1) (opening.advance 1)
termination_by place.room
decreasing_by
  · exact Nat.lt_of_lt_of_le (reader.shrinks _read) (Nat.sub_le _ _)
  · cases seen : place.visible with
    | nil =>
        rw [seen] at _found
        cases _found
    | cons c tail =>
        have := Place.room_pos_of_visible seen
        simp only [Place.advance]
        omega

end PlaceReader

namespace ItemVector

/-- Reads item vectors in a window. -/
def placeReader : PlaceReader ItemVector where
  sign := '@'
  read? := Place.readVector?
  shrinks := Place.readVector?_room_lt

/-- The item vectors between two offsets of an expression, with their offsets. -/
def captures (expression : Text) (start finish : Nat) : List (Nat × ItemVector) :=
  placeReader.captures start (.between expression start (min finish expression.utf8Size))

end ItemVector

namespace MetadataReference

/-- Reads metadata references in a window. -/
def placeReader : PlaceReader MetadataReference where
  sign := '%'
  read? := Place.readMetadata?
  shrinks := Place.readMetadata?_room_lt

/-- The metadata references between two offsets of an expression, with their offsets. -/
def captures (expression : Text) (start finish : Nat) : List (Nat × MetadataReference) :=
  placeReader.captures start (.between expression start (min finish expression.utf8Size))

end MetadataReference

/-- The offset of the parenthesis that closes the one before an offset, and what it closes. -/
def closeAt? (expression : Text) (start : Nat) : Option (Nat × ClosedSpan) :=
  (closeParen? (expression.dropBytes start)).map fun span =>
    (start + span.inside.utf8Size, span)

/-- The offset behind an argument list that begins at an offset and ends before another one. -/
def argumentsEnd? (expression : Text) (start finish : Nat) : Option Nat :=
  (Place.between expression start finish).readParens?.map fun (inside, _) =>
    start + (inside.utf8Size + 2)

end RefExpand
