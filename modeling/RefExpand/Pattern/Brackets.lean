import RefExpand.Pattern.Escape

namespace RefExpand.Pattern

/-!
# Sets in brackets

Within brackets stand characters, ranges, escapes, named classes, further sets in
brackets, and the operations `&&`, `--` and `~~`, which apply from left to right.
How deeply a set nests is counted along with it, since patterns may nest only so
deep.
-/

/-- The depth to which the parts of a pattern may nest. -/
def deepest : Nat := 250

/-- A set as far as it is read: its members, the number of its items, and how deeply they nest. -/
structure Items where
  set : CharSet := .none
  count : Nat := 0
  height : Nat := 0

/-- One more item. -/
def Items.add (items : Items) (set : CharSet) (height : Nat) : Items :=
  { set := items.set.union set
    count := items.count + 1
    height := max items.height height }

/-- How deeply the items nest as one side of an operation. -/
def Items.depth (items : Items) : Nat :=
  if 1 < items.count then items.height + 1 else items.height

/-- An operation on sets. -/
inductive SetOperation where
  | intersection
  | difference
  | symmetricDifference
  deriving Repr, DecidableEq

/-- The result of an operation. -/
def SetOperation.apply : SetOperation → CharSet → CharSet → CharSet
  | .intersection => CharSet.inter
  | .difference => CharSet.difference
  | .symmetricDifference => CharSet.symmetricDifference

/-- A set with the depth of its writing. -/
structure DeepSet where
  set : CharSet
  depth : Nat

/-- An operation whose right side is still to be read. -/
structure PendingOperation where
  operation : SetOperation
  left : DeepSet

/-- Apply the pending operation to sides that hold both cases if case is ignored. -/
def PendingOperation.close (flags : Flags) (pending : Option PendingOperation) (items : Items) :
    DeepSet :=
  match pending with
  | some { operation, left } =>
      { set := operation.apply (flags.fold left.set) (flags.fold items.set)
        depth := max left.depth items.depth + 1 }
  | none => { set := items.set, depth := items.depth }

/-- The characters up to the first colon, and the text from that colon on. -/
def upToColon (text : Text) : Text × Text :=
  (text.takeWhile (· != ':'), text.dropWhile (· != ':'))

/-- A named class after its opening bracket, if it is one. -/
def readNamedClass? (text : Text) : Option (Bool × CharSet × Text) := do
  let (negated, text) ←
    match text with
    | ':' :: '^' :: rest => some (true, rest)
    | ':' :: rest => some (false, rest)
    | _ => none
  let (name, rest) := upToColon text
  let set ← CharSet.ofAsciiName? name
  match rest with
  | ':' :: ']' :: rest => some (negated, set, rest)
  | _ => none

/-- One character or escape inside brackets. -/
def readAtom (flags : Flags) : Text → Except Fault (Escape × Text)
  | '\\' :: rest =>
      match readEscape flags rest with
      | .ok (.check _, _) => .error .badEscape
      | result => result
  | c :: rest => .ok (.letter { char := c }, rest)
  | [] => .error .unclosedSet

/-- What an atom stands for on its own. -/
def atomSet (flags : Flags) : Escape → Except Fault CharSet
  | .letter letter => (flags.letterCode letter).map .single
  | .set members => .ok members
  | .check _ => .error .badEscape

/-- The range between two atoms, both of which have to be characters. -/
def atomRange (flags : Flags) : Escape → Escape → Except Fault CharSet
  | .letter first, .letter last => do
      let first ← flags.letterCode first
      let last ← flags.letterCode last
      if first ≤ last then return .range first last else throw .badRange
  | _, _ => .error .badRange

/--
The character that is looked at behind a dash to tell a range: in a verbose
pattern the next one that is not blank, a number sign left out once.
-/
def behindDash? (flags : Flags) (text : Text) : Option Char :=
  if flags.verbose then
    match text.dropWhile isBlank with
    | '#' :: rest => ((rest.dropWhile isBlank).head?).or text.head?
    | c :: _ => some c
    | [] => text.head?
  else
    text.head?

/-- A character, escape or range inside brackets. -/
def readItem (flags : Flags) (text : Text) : Except Fault (CharSet × Text) := do
  let (first, rest) ← readAtom flags text
  match flags.skip rest with
  | '-' :: rest =>
      let next := behindDash? flags rest
      if next == some ']' || next == some '-' then
        return (← atomSet flags first, '-' :: rest)
      else
        let (last, rest) ← readAtom flags (flags.skip rest)
        return (← atomRange flags first last, rest)
  | rest => return (← atomSet flags first, rest)

/-- Leading dashes, each of which stands for itself. `fuel` bounds their number. -/
def skipDashes (flags : Flags) : (fuel : Nat) → Items → Text → Items × Text
  | 0, items, text => (items, text)
  | fuel + 1, items, text =>
      match text with
      | '-' :: rest => skipDashes flags fuel (items.add (.ofChar '-') 0) (flags.skip rest)
      | text => (items, text)

/-- The beginning of a set behind its bracket: whether it is turned round, and its first items. -/
structure Opening where
  negated : Bool
  items : Items
  rest : Text

/-- Leading dashes, or else a leading bracket, stand for themselves. -/
def openSet (flags : Flags) (text : Text) : Opening :=
  let (negated, text) : Bool × Text :=
    match flags.skip text with
    | '^' :: rest => (true, flags.skip rest)
    | rest => (false, rest)
  match skipDashes flags text.length {} text with
  | ({ count := 0, .. }, ']' :: rest) =>
      { negated, items := Items.add {} (.ofChar ']') 0, rest }
  | (items, rest) => { negated, items, rest }

/--
Read items up to the closing bracket. `depth` counts the brackets and groups
that are open; `fuel` bounds the number of items.
-/
def readItems (flags : Flags) : (fuel depth : Nat) → Option PendingOperation → Items → Text →
    Except Fault (DeepSet × Text)
  | 0, _, _, _, _ => .error .unclosedSet
  | fuel + 1, depth, pending, items, text =>
      let operate (operation : SetOperation) (rest : Text) :=
        let left := PendingOperation.close flags pending items
        readItems flags fuel depth (some { operation, left }) {} rest
      match flags.skip text with
      | [] => .error .unclosedSet
      | ']' :: rest => .ok (PendingOperation.close flags pending items, rest)
      | '&' :: '&' :: rest => operate .intersection rest
      | '-' :: '-' :: rest => operate .difference rest
      | '~' :: '~' :: rest => operate .symmetricDifference rest
      | '[' :: inner =>
          match readNamedClass? inner with
          | some (negated, set, rest) => do
              let set ← flags.finish negated set
              readItems flags fuel depth pending (items.add set 0) rest
          | none =>
              if deepest ≤ depth then
                .error .tooDeep
              else do
                let opening := openSet flags inner
                let (body, rest) ←
                  readItems flags fuel (depth + 1) none opening.items opening.rest
                let set ← flags.finish opening.negated body.set
                readItems flags fuel depth pending (items.add set (body.depth + 1)) rest
      | text => do
          let (set, rest) ← readItem flags text
          readItems flags fuel depth pending (items.add set 0) rest

/-- A set in brackets, after its opening bracket. -/
def readSet (flags : Flags) (depth : Nat) (text : Text) : Except Fault (DeepSet × Text) := do
  if deepest ≤ depth then throw .tooDeep
  let opening := openSet flags text
  let (body, rest) ←
    readItems flags (text.length + 1) (depth + 1) none opening.items opening.rest
  return ({ set := ← flags.finish opening.negated body.set, depth := body.depth + 1 }, rest)

end RefExpand.Pattern
