import RefExpand.Proofs.Scan.WindowParens

namespace RefExpand

/-!
# Reading in a window

The scanners that follow parentheses, quotes and blanks beyond a window and check
afterwards find what they would find in the window alone. So a vector or a metadata
reference is read at the beginning of a window exactly if it is read in the part that
the window holds.
-/

namespace Place

/-- The place at the beginning of a window that holds a part, with other text behind it. -/
def holding
    (part after : Text) :
    Place :=
  { ahead := part ++ after, room := part.utf8Size }

/-- Reading at the beginning of a window gives what reading the part in it alone gives. -/
def ReadsPart
    (read? : Place → Option (α × Place))
    (readAlone? : Text → Option (α × Text)) :
    Prop :=
  ∀ part after,
    read? (.holding part after) =
      (readAlone? part).map fun (value, rest) => (value, .holding rest after)

@[simp] theorem visible_holding
    (part after : Text) :
    (holding part after).visible = part :=
  Text.takeBytes_append part after

theorem advance_holding
    (front part after : Text) :
    (holding (front ++ part) after).advance front.utf8Size = holding part after := by
  simp only [holding, advance, List.append_assoc, Text.dropBytes_append, Text.utf8Size_append,
    Nat.add_sub_cancel_left]

/-- One byte further is one character further where the character is one byte. -/
theorem advance_holding_cons
    {c : Char}
    (single : c.utf8Size = 1)
    (part after : Text) :
    (holding (c :: part) after).advance 1 = holding part after := by
  have size : Text.utf8Size [c] = 1 := by
    rw [Text.utf8Size_cons, single]
    rfl
  have moved := advance_holding [c] part after
  rwa [size] at moved

/-- The place at which the window between two parts of an expression begins. -/
theorem between_append
    (before part after : Text) :
    between (before ++ (part ++ after)) before.utf8Size (before.utf8Size + part.utf8Size) =
      holding part after := by
  rw [between, holding, Text.dropBytes_append, Nat.add_sub_cancel_left]

/-- The place behind some of a part, in the window that holds the part. -/
theorem between_append_append
    (before front part after : Text) :
    between (before ++ (front ++ part ++ after)) (before.utf8Size + front.utf8Size)
        (before.utf8Size + Text.utf8Size (front ++ part)) =
      holding part after := by
  have moved := between_append (before ++ front) part after
  simpa [Text.utf8Size_append, Nat.add_assoc] using moved

theorem skipBlanks_holding
    (part after : Text) :
    (holding part after).skipBlanks = holding part.skipBlanks after := by
  have whole := List.takeWhile_append_dropWhile (p := isAsciiBlank) (l := part)
  have moved := advance_holding (part.takeWhile isAsciiBlank) part.skipBlanks after
  rw [Text.skipBlanks, whole] at moved
  rw [skipBlanks, Text.skipBlanks, ← moved]
  congr 1
  change min (Text.utf8Size ((part ++ after).takeWhile isAsciiBlank)) part.utf8Size = _
  have notLonger : Text.utf8Size (part.takeWhile isAsciiBlank) ≤ part.utf8Size := by
    have size := congrArg Text.utf8Size whole
    rw [Text.utf8Size_append] at size
    omega
  rw [List.takeWhile_append]
  split
  · -- The blanks may go on behind the window, which ends first.
    rename_i allBlank
    rw [(List.takeWhile_prefix isAsciiBlank).eq_of_length allBlank, Text.utf8Size_append]
    omega
  · omega

/-- A name ends with the window at the latest. -/
theorem takeName_holding
    (part after : Text) :
    (holding part after).takeName =
      ((Text.takeName part).1, holding (Text.takeName part).2 after) := by
  have moved := advance_holding (Text.takeName part).1 (Text.takeName part).2 after
  rw [Text.takeName_append] at moved
  rw [takeName, visible_holding, moved]

theorem readsPart_readQuoted? :
    ReadsPart readQuoted? ItemVector.readQuoted? := by
  intro part after
  rw [readQuoted?, visible_holding]
  cases read : ItemVector.readQuoted? part with
  | none =>
      rfl
  | some found =>
      rcases found with ⟨body, rest⟩
      have shape := ItemVector.readQuoted?_eq_append read
      have size : Text.utf8Size ('\'' :: (body ++ ['\''])) = body.utf8Size + 2 :=
        Text.utf8Size_enclosed rfl rfl body []
      have moved := advance_holding ('\'' :: (body ++ ['\''])) rest after
      rw [List.cons_append, List.append_assoc, List.singleton_append, ← shape, size] at moved
      exact congrArg (fun next => some (body, next)) moved

/-- An argument list that ends in the window is read, and no other one. -/
theorem readsPart_readParens? :
    ReadsPart readParens? RefExpand.readParens? := by
  intro part after
  have size (inside rest : Text) :
      Text.utf8Size ('(' :: (inside ++ ')' :: rest)) = inside.utf8Size + 2 + rest.utf8Size :=
    Text.utf8Size_enclosed rfl rfl inside rest
  apply Option.ext
  rintro ⟨inside, next⟩
  rw [readParens?_eq_some_iff, Option.map_eq_some_iff]
  constructor
  · rintro ⟨rest, starts, nested, fits, rfl⟩
    have starts' : '(' :: (inside ++ [')']) ++ rest = part ++ after := by
      rw [List.cons_append, List.append_assoc, List.singleton_append]
      exact starts.symm
    obtain ⟨middle, rfl, rfl⟩ :=
      Text.exists_of_append_eq_append starts' (Nat.le_trans (size inside []).le fits)
    have shape : '(' :: (inside ++ [')']) ++ middle = '(' :: (inside ++ ')' :: middle) := by
      simp
    refine ⟨(inside, middle), by rw [shape, nested.readParens?], ?_⟩
    simp only [holding, shape, size, Nat.add_sub_cancel_left]
  · rintro ⟨⟨inside', rest⟩, read, same⟩
    obtain ⟨rfl, rfl⟩ := Prod.mk.inj same
    obtain ⟨rfl, nested⟩ := RefExpand.readParens?_eq_some_iff.mp read
    refine ⟨rest ++ after, by simp [holding], nested, ?_, ?_⟩
    · simp only [holding, size]
      exact Nat.le_add_right _ _
    · simp only [holding, size, Nat.add_sub_cancel_left]

theorem readsPart_readFunction? :
    ReadsPart readFunction? ItemVector.readFunction? := by
  intro part after
  rw [readFunction?, takeName_holding, ItemVector.readFunction?]
  rcases Text.takeName part with ⟨name, behind⟩
  cases name with
  | nil =>
      rfl
  | cons c name =>
      dsimp only
      rw [skipBlanks_holding, readsPart_readParens?, Option.map_map, Option.map_map]
      rfl

/--
Reading at the beginning of a window against reading the part in it alone: both give the
same, or the part is read up to its end and nothing is read in the window.
-/
inductive AgreesToEnd
    (after : Text) :
    Option (α × Text) → Option (α × Place) → Prop where
  | neither : AgreesToEnd after none none
  | both (value : α) (rest : Text) :
      AgreesToEnd after (some (value, rest)) (some (value, .holding rest after))
  | toEnd (value : α) : AgreesToEnd after (some (value, [])) none

/-- A quoted transform with which the window ends is not read as one, nor as a function. -/
theorem readTransform?_holding
    (part after : Text) :
    AgreesToEnd after (ItemVector.readTransform? part) (holding part after).readTransform? := by
  rw [ItemVector.readTransform?, readTransform?, readsPart_readQuoted?,
    readsPart_readFunction?]
  cases quoted : ItemVector.readQuoted? part with
  | none =>
      cases ItemVector.readFunction? part with
      | none =>
          exact .neither
      | some found =>
          exact .both _ _
  | some found =>
      rcases found with ⟨body, rest⟩
      cases rest with
      | nil =>
          have shape := ItemVector.readQuoted?_eq_append quoted
          have noFunction : ItemVector.readFunction? part = none := by
            rw [shape]
            rfl
          have full : (holding [] after).room = 0 :=
            rfl
          simp only [Option.map_some, Option.filter, full, noFunction, ne_eq, not_true_eq_false,
            decide_false, Bool.false_eq_true, if_false, Option.map_none]
          exact .toEnd _
      | cons c rest =>
          have goesOn : (holding (c :: rest) after).room ≠ 0 :=
            Nat.pos_iff_ne_zero.mp (Text.utf8Size_pos_of_ne_nil (List.cons_ne_nil c rest))
          simp only [Option.map_some, Option.filter, goesOn, ne_eq, not_false_eq_true,
            decide_true, if_true]
          exact .both _ _

/-- What is behind the window does not count for where a transform stands. -/
theorem between_holding
    (size : Nat)
    (start rest after : Text)
    (kind : TransformKind) :
    Transform.between (size + after.length) (holding start after).ahead
        (holding rest after).ahead kind =
      Transform.between size start rest kind := by
  have shorter : start.length - rest.length ≤ start.length :=
    Nat.sub_le _ _
  simp only [Transform.between, holding, List.length_append, Nat.add_sub_add_right,
    List.take_append_of_le_length shorter]

/-- Behind an arrow a transform is read, and then the others. -/
theorem readTransforms?_arrow
    {size : Nat}
    {place : Place}
    {tail : Text}
    (seen : place.visible = '-' :: '>' :: tail) :
    place.readTransforms? size =
      (place.advance 2).skipBlanks.readTransform?.bind fun (kind, next) =>
        (next.skipBlanks.readTransforms? size).map fun (later, last) =>
          (Transform.between size (place.advance 2).skipBlanks.ahead next.ahead kind :: later,
            last) := by
  rw [readTransforms?]
  split
  · dsimp only
    cases read : (place.advance 2).skipBlanks.readTransform? with
    | none =>
        rfl
    | some found =>
        rcases found with ⟨kind, next⟩
        dsimp only [Option.bind_some]
        cases next.skipBlanks.readTransforms? size <;> rfl
  · rename_i unseen
    exact absurd seen (unseen _)

theorem readTransforms?_of_no_arrow
    {size : Nat}
    {place : Place}
    (unseen : ∀ tail, place.visible = '-' :: '>' :: tail → False) :
    place.readTransforms? size = some ([], place) := by
  rw [readTransforms?]
  split
  · rename_i tail seen
    exact (unseen _ seen).elim
  · rfl

theorem readTransforms?_holding_arrow
    (size : Nat)
    (tail after : Text) :
    (holding ('-' :: '>' :: tail) after).readTransforms? (size + after.length) =
      (holding tail.skipBlanks after).readTransform?.bind fun (kind, next) =>
        (next.skipBlanks.readTransforms? (size + after.length)).map fun (later, last) =>
          (Transform.between (size + after.length) (holding tail.skipBlanks after).ahead
            next.ahead kind :: later, last) := by
  have moved : (holding ('-' :: '>' :: tail) after).advance 2 = holding tail after :=
    advance_holding ['-', '>'] tail after
  rw [readTransforms?_arrow (visible_holding _ _), moved, skipBlanks_holding]

/-- The transforms in a window are those of the part in it, unless these use it up. -/
theorem readTransforms?_holding
    (size : Nat)
    (part after : Text) :
    AgreesToEnd after (ItemVector.readTransforms? size part)
      ((holding part after).readTransforms? (size + after.length)) := by
  fun_induction ItemVector.readTransforms? size part with
  | case1 tail unread =>
      have first := readTransform?_holding (Text.skipBlanks tail) after
      rw [unread] at first
      rw [readTransforms?_holding_arrow]
      generalize (holding (Text.skipBlanks tail) after).readTransform? = found at first
      cases first
      exact .neither
  | case2 tail kind rest readOne unread inductionHypothesis =>
      have first := readTransform?_holding (Text.skipBlanks tail) after
      rw [readOne] at first
      rw [unread] at inductionHypothesis
      rw [readTransforms?_holding_arrow]
      generalize (holding (Text.skipBlanks tail) after).readTransform? = found at first
      cases first with
      | both =>
          dsimp only [Option.bind_some]
          rw [skipBlanks_holding]
          generalize
            (holding rest.skipBlanks after).readTransforms? (size + after.length) = others
              at inductionHypothesis
          cases inductionHypothesis
          exact .neither
      | toEnd =>
          exact .neither
  | case3 tail kind rest readOne later last recursion inductionHypothesis =>
      have first := readTransform?_holding (Text.skipBlanks tail) after
      rw [readOne] at first
      rw [recursion] at inductionHypothesis
      rw [readTransforms?_holding_arrow]
      generalize (holding (Text.skipBlanks tail) after).readTransform? = found at first
      cases first with
      | both =>
          dsimp only [Option.bind_some]
          rw [skipBlanks_holding, between_holding]
          generalize
            (holding rest.skipBlanks after).readTransforms? (size + after.length) = others
              at inductionHypothesis
          cases inductionHypothesis with
          | both =>
              exact .both _ _
          | toEnd =>
              exact .toEnd _
      | toEnd =>
          -- Behind a transform that uses up the part there is no other one.
          have nothing : ItemVector.readTransforms? size [] = some ([], []) := by
            rw [ItemVector.readTransforms?]
            nofun
          cases recursion.symm.trans nothing
          exact .toEnd _
  | case4 part noArrow =>
      have unseen (tail : Text)
          (seen : (holding part after).visible = '-' :: '>' :: tail) : False :=
        noArrow tail (by rwa [visible_holding] at seen)
      rw [readTransforms?_of_no_arrow unseen]
      exact .both _ _

theorem readSeparator?_holding
    (size : Nat)
    (part after : Text) :
    (holding part after).readSeparator? (size + after.length) =
      (ItemVector.readSeparator? size part).map fun (separator, rest) =>
        (separator, holding rest after) := by
  unfold readSeparator?
  rw [visible_holding]
  split
  · rename_i tail
    have moved : (holding (',' :: tail) after).advance 1 = holding tail after :=
      advance_holding_cons rfl tail after
    have offset :
        size + after.length - (holding (Text.skipBlanks tail) after).ahead.length =
          size - (Text.skipBlanks tail).length := by
      simp only [holding, List.length_append, Nat.add_sub_add_right]
    have alone :
        ItemVector.readSeparator? size (',' :: tail) =
          (ItemVector.readQuoted? (Text.skipBlanks tail)).map
            (Prod.map
              (fun separator =>
                some { text := separator, offset := size - (Text.skipBlanks tail).length + 1 })
              Text.skipBlanks) :=
      rfl
    dsimp only
    rw [moved, skipBlanks_holding, readsPart_readQuoted?, offset, alone]
    cases ItemVector.readQuoted? (Text.skipBlanks tail) with
    | none =>
        rfl
    | some found =>
        exact congrArg (fun next => some (_, next)) (skipBlanks_holding found.2 after)
  · rename_i noComma
    have alone : ItemVector.readSeparator? size part = some (none, part) := by
      rw [ItemVector.readSeparator?]
      exact noComma
    rw [alone]
    rfl

theorem readParts?_holding
    (size : Nat)
    (part after : Text) :
    (holding part after).readParts? (size + after.length) =
      (ItemVector.readParts? size part).map fun (parts, rest) => (parts, holding rest after) := by
  unfold readParts? ItemVector.readParts?
  rw [skipBlanks_holding, takeName_holding]
  rcases Text.takeName part.skipBlanks with ⟨name, behind⟩
  cases name with
  | nil =>
      rfl
  | cons c name =>
      dsimp only
      have transforms := readTransforms?_holding size behind.skipBlanks after
      rw [skipBlanks_holding]
      generalize ItemVector.readTransforms? size behind.skipBlanks = alone at transforms
      generalize
        (holding behind.skipBlanks after).readTransforms? (size + after.length) = inWindow
          at transforms
      cases transforms with
      | neither =>
          rfl
      | both found rest =>
          dsimp only
          rw [readSeparator?_holding]
          cases ItemVector.readSeparator? size rest with
          | none =>
              rfl
          | some separated =>
              rcases separated with ⟨separator, last⟩
              dsimp only [Option.map_some]
              rw [visible_holding]
              cases last with
              | nil =>
                  rfl
              | cons closing last =>
                  by_cases closes : closing = ')'
                  · subst closes
                    exact
                      congrArg (fun next => some (_, next)) (advance_holding_cons rfl last after)
                  · simp [closes]
      | toEnd =>
          -- No parenthesis closes a vector whose transforms use up the part.
          rfl

/-- A vector that ends in the window is read, and no other one. -/
theorem readsPart_readVector? :
    ReadsPart readVector? ItemVector.read? := by
  intro part after
  unfold readVector?
  rw [visible_holding]
  split
  · rename_i tail
    have moved : (holding ('@' :: '(' :: tail) after).advance 2 = holding tail after :=
      advance_holding ['@', '('] tail after
    have size :
        (holding ('@' :: '(' :: tail) after).ahead.length = tail.length + 2 + after.length :=
      List.length_append
    rw [moved, size, readParts?_holding, ItemVector.read?, Option.map_map, Option.map_map]
    cases parts : ItemVector.readParts? (tail.length + 2) tail with
    | none =>
        rfl
    | some found =>
        rcases found with ⟨⟨itemType, transforms, separator⟩, rest⟩
        have shorter := (ItemVector.readParts?_lengths parts).1.length_le
        have written :
            ('@' :: '(' :: tail ++ after).take
                (tail.length + 2 + after.length - (rest ++ after).length) =
              '@' :: '(' :: tail.take (tail.length - rest.length) := by
          have taken : tail.length + 2 + after.length - (rest ++ after).length =
              tail.length - rest.length + 2 := by
            rw [List.length_append]
            omega
          rw [taken, List.cons_append, List.cons_append, List.take_succ_cons,
            List.take_succ_cons, List.take_append_of_le_length (Nat.sub_le _ _)]
        exact congrArg (fun text => some (({ written := text, .. } : ItemVector), _)) written
  · rename_i noOpening
    have alone : ItemVector.read? part = none := by
      rw [ItemVector.read?]
      exact noOpening
    rw [alone]
    rfl

/-- A metadata reference is read from the window alone. -/
theorem readsPart_readMetadata? :
    ReadsPart readMetadata? MetadataReference.read? := by
  intro part after
  rw [readMetadata?, visible_holding]
  cases read : MetadataReference.read? part with
  | none =>
      rfl
  | some found =>
      rcases found with ⟨reference, rest⟩
      have shape := MetadataReference.reader_takes read
      have moved := advance_holding reference.written rest after
      rw [← shape] at moved
      exact congrArg (fun next => some (reference, next)) moved

end Place

end RefExpand
