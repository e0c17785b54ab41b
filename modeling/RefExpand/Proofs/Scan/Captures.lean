import RefExpand.Proofs.Scan.Windows

namespace RefExpand

/-!
# What the captures of a window are

A search between two offsets of an expression finds what a search of the part between
them finds, moved to where the part begins. The references are found from the left,
each search going on behind the reference before. So what is found lies in the window
in order and apart, each with the text of its span, and a reference that is not found
begins inside one that is.
-/

/-- A character of the text begins at this many bytes, or the text ends there. -/
def Text.Boundary
    (text : Text)
    (offset : Nat) :
    Prop :=
  ∃ front back, text = front ++ back ∧ front.utf8Size = offset

/--
What is captured between two offsets of an expression. A capture is the offset at which
a value is read, with the window up to the same end, and the value, which spans the bytes
of its written form.
-/
structure PlaceReader.Captured
    (reader : PlaceReader α)
    (written : α → Text)
    (expression : Text)
    (start finish : Nat)
    (captures : List (Nat × α)) :
    Prop where
  inside : ∀ capture ∈ captures,
    start ≤ capture.1 ∧ capture.1 + (written capture.2).utf8Size ≤ finish
  ordered : captures.Pairwise fun first second =>
    first.1 < second.1 ∧ first.1 + (written first.2).utf8Size ≤ second.1
  sliced : ∀ capture ∈ captures,
    expression.window capture.1 (capture.1 + (written capture.2).utf8Size) = written capture.2
  recognised : ∀ capture ∈ captures,
    reader.read? (.between expression capture.1 finish) =
      some
        (capture.2,
          .between expression (capture.1 + (written capture.2).utf8Size) finish)
  complete : ∀ position value next,
    start ≤ position → position ≤ finish → expression.Boundary position →
    reader.read? (.between expression position finish) = some (value, next) →
    (position, value) ∈ captures ∨
      ∃ capture ∈ captures,
        capture.1 < position ∧ position < capture.1 + (written capture.2).utf8Size

namespace Text

variable {text : Text} {start finish : Nat}

theorem dropBytes_of_utf8Size_le
    (covered : text.utf8Size ≤ start) :
    dropBytes start text = [] := by
  induction text generalizing start with
  | nil =>
      cases start <;> rfl
  | cons c tail inductionHypothesis =>
      rw [utf8Size_cons] at covered
      obtain ⟨more, rfl⟩ := Nat.exists_eq_add_of_le (Nat.le_of_add_right_le covered)
      rw [dropBytes_cons, inductionHypothesis (Nat.add_le_add_iff_left.mp covered)]

theorem Boundary.le_utf8Size
    (endsBetween : text.Boundary finish) :
    finish ≤ text.utf8Size := by
  obtain ⟨front, back, rfl, rfl⟩ := endsBetween
  rw [utf8Size_append]
  exact Nat.le_add_right _ _

/-- Two offsets in order cut a text in three. -/
theorem Boundary.exists_parts
    (startsBetween : text.Boundary start)
    (endsBetween : text.Boundary finish)
    (inOrder : start ≤ finish) :
    ∃ before part after,
      text = before ++ (part ++ after) ∧
        start = before.utf8Size ∧ finish = before.utf8Size + part.utf8Size := by
  obtain ⟨before, rest, rfl, rfl⟩ := startsBetween
  obtain ⟨longer, after, shape, rfl⟩ := endsBetween
  obtain ⟨part, rfl, rfl⟩ := exists_of_append_eq_append shape inOrder
  exact ⟨before, part, after, rfl, rfl, utf8Size_append before part⟩

/-- A window that ends where it begins, or before, is empty. -/
theorem Boundary.window_eq_nil
    (endsBetween : text.Boundary finish)
    (reversed : finish ≤ start) :
    text.window start finish = [] := by
  obtain ⟨front, back, rfl, rfl⟩ := endsBetween
  rw [window, takeBytes_append]
  exact dropBytes_of_utf8Size_le reversed

end Text

namespace Cut

variable {written : α → Text}

/-- A character in front moves everything behind it. -/
theorem placed_push
    (c : Char)
    (cut : Cut α)
    (start : Nat) :
    (cut.push c).placed written start = cut.placed written (start + c.utf8Size) := by
  rcases cut with ⟨found, last⟩
  cases found with
  | nil =>
      rfl
  | cons stretch more =>
      simp only [push, placed, place, Text.utf8Size_cons, Nat.add_assoc]

theorem le_of_mem_place
    {start : Nat}
    {found : List (Text × α)}
    {capture : Nat × α}
    (isMember : capture ∈ place written start found) :
    start ≤ capture.1 := by
  obtain ⟨earlier, gap, later, -, offset⟩ := exists_of_mem_place isMember
  rw [offset]
  exact Nat.le_add_right _ _

/-- Values that take up room are placed one behind the other. -/
theorem place_ordered
    {start : Nat}
    {found : List (Text × α)}
    (roomy : ∀ stretch ∈ found, 0 < (written stretch.2).utf8Size) :
    (place written start found).Pairwise fun first second =>
      first.1 < second.1 ∧ first.1 + (written first.2).utf8Size ≤ second.1 := by
  induction found generalizing start with
  | nil =>
      exact List.Pairwise.nil
  | cons stretch found inductionHypothesis =>
      apply List.Pairwise.cons
      · intro second isLater
        have behind := le_of_mem_place isLater
        have room := roomy stretch List.mem_cons_self
        exact ⟨by omega, behind⟩
      · apply inductionHypothesis
        intro later isMember
        exact roomy later (List.mem_cons_of_mem _ isMember)

/-- Values are placed from where the text begins. -/
theorem placed_add
    (cut : Cut α)
    (start offset : Nat) :
    cut.placed written (start + offset) =
      (cut.placed written offset).map (Prod.map (start + ·) id) := by
  rcases cut with ⟨found, last⟩
  change place written (start + offset) found = _
  change _ = (place written offset found).map (Prod.map (start + ·) id)
  induction found generalizing offset with
  | nil =>
      rfl
  | cons stretch found inductionHypothesis =>
      simp only [place, List.map_cons, Prod.map, id, Nat.add_assoc]
      rw [← inductionHypothesis]

end Cut

namespace Reader

variable {reader : Reader α} {written : α → Text}

theorem Takes.utf8Size_pos
    (takes : reader.Takes written)
    {text rest : Text}
    {value : α}
    (read : reader.read? text = some (value, rest)) :
    0 < (written value).utf8Size := by
  apply Text.utf8Size_pos_of_ne_nil
  intro isEmpty
  have shorter := reader.shrinks read
  have whole := takes read
  rw [isEmpty, List.nil_append] at whole
  exact absurd shorter (whole ▸ Nat.lt_irrefl _)

/-- A capture was read where it is placed. -/
theorem Takes.read_of_placed
    (takes : reader.Takes written)
    {text : Text}
    {start : Nat}
    {capture : Nat × α}
    (isMember : capture ∈ (reader.cut text).placed written start) :
    ∃ front rest,
      text = front ++ (written capture.2 ++ rest) ∧
        capture.1 = start + front.utf8Size ∧
        reader.read? (written capture.2 ++ rest) = some (capture.2, rest) := by
  obtain ⟨earlier, gap, later, found, offset⟩ := Cut.exists_of_mem_place isMember
  obtain ⟨rest, shape, read⟩ := read_of_found takes found
  exact ⟨Cut.spread written earlier ++ gap, rest, by simpa using shape, offset, read⟩

theorem Takes.placed_ordered
    (takes : reader.Takes written)
    (text : Text)
    (start : Nat) :
    ((reader.cut text).placed written start).Pairwise fun first second =>
      first.1 < second.1 ∧ first.1 + (written first.2).utf8Size ≤ second.1 := by
  apply Cut.place_ordered
  intro stretch isMember
  obtain ⟨earlier, later, found⟩ := List.append_of_mem isMember
  obtain ⟨rest, -, read⟩ := read_of_found takes found
  exact takes.utf8Size_pos read

/-- Wherever something can be read it is found, or it begins inside what is found before it. -/
theorem Takes.placed_complete
    (takes : reader.Takes written)
    {text front behind rest : Text}
    {value : α}
    (start : Nat)
    (shape : text = front ++ behind)
    (read : reader.read? behind = some (value, rest)) :
    let position := start + front.utf8Size
    let captures := (reader.cut text).placed written start
    (position, value) ∈ captures ∨
      ∃ capture ∈ captures,
        capture.1 < position ∧ position < capture.1 + (written capture.2).utf8Size := by
  -- The search goes on behind a value that is read, and at the next character otherwise.
  induction text using Reader.cut.induct reader generalizing start front with
  | case1 =>
      obtain ⟨rfl, rfl⟩ := List.append_eq_nil_iff.mp shape.symm
      exact absurd (reader.shrinks read) (Nat.not_lt_zero _)
  | case2 c tail first after readHere inductionHypothesis =>
      intro position captures
      have captured :
          captures =
            (start, first) ::
              (reader.cut after).placed written (start + (written first).utf8Size) := by
        simp only [captures, cut_of_read readHere]
        rfl
      rw [captured]
      by_cases atStart : front = []
      · subst atStart
        rw [← List.nil_append behind, ← shape, readHere] at read
        cases read
        exact Or.inl List.mem_cons_self
      · by_cases within : front.utf8Size < (written first).utf8Size
        · have ahead := Text.utf8Size_pos_of_ne_nil atStart
          refine Or.inr ⟨(start, first), List.mem_cons_self, ?_, ?_⟩
          · exact Nat.lt_add_of_pos_right ahead
          · exact Nat.add_lt_add_left within start
        · have longer : (written first).utf8Size ≤ front.utf8Size := by
            omega
          obtain ⟨middle, rfl, afterShape⟩ :=
            Text.exists_of_append_eq_append ((takes readHere).symm.trans shape) longer
          have found := inductionHypothesis (start + (written first).utf8Size) afterShape
          rw [Nat.add_assoc, ← Text.utf8Size_append] at found
          rcases found with here | ⟨capture, isMember, earlier, later⟩
          · exact Or.inl (List.mem_cons_of_mem _ here)
          · exact Or.inr ⟨capture, List.mem_cons_of_mem _ isMember, earlier, later⟩
  | case3 c tail unread inductionHypothesis =>
      cases front with
      | nil =>
          rw [← List.nil_append behind, ← shape, unread] at read
          cases read
      | cons c' front =>
          obtain ⟨rfl, tailShape⟩ := List.cons.inj shape
          rw [cut_of_unread unread, Cut.placed_push, Text.utf8Size_cons, ← Nat.add_assoc]
          exact inductionHypothesis (start + c.utf8Size) tailShape

end Reader

namespace PlaceReader

variable {inWindow : PlaceReader α} {reader : Reader α} {written : α → Text}

/-- One reader reads in a window what another one reads in the part, behind the same opening. -/
structure Follows
    (inWindow : PlaceReader α)
    (reader : Reader α)
    (written : α → Text) :
    Prop where
  readsPart : Place.ReadsPart inWindow.read? reader.read?
  takes : reader.Takes written
  single : inWindow.sign.utf8Size = 1
  opens : ∀ {text rest : Text} {value : α},
    reader.read? text = some (value, rest) → ∃ tail, text = inWindow.sign :: '(' :: tail

/-- The search from the next opening in the window, if there is one. -/
theorem captures_eq
    (inWindow : PlaceReader α)
    (offset : Nat)
    (place : Place) :
    inWindow.captures offset place =
      match Text.breakOn? [inWindow.sign, '('] place.visible with
      | none => []
      | some (before, _) =>
          let start := offset + before.utf8Size
          let opening := place.advance before.utf8Size
          match inWindow.read? opening with
          | some (value, next) =>
              (start, value) :: inWindow.captures (start + (opening.room - next.room)) next
          | none => inWindow.captures (start + 1) (opening.advance 1) := by
  rw [captures]
  split
  · rename_i absent
    rw [absent]
  · rename_i before behind found
    rw [found]
    dsimp only
    split
    · rename_i value next read
      rw [read]
    · rename_i unread
      rw [unread]

theorem captures_holding_nil
    (inWindow : PlaceReader α)
    (offset : Nat)
    (after : Text) :
    inWindow.captures offset (.holding [] after) = [] := by
  rw [captures_eq, Place.visible_holding]
  rfl

/-- A character that begins no opening is passed over. -/
theorem captures_holding_cons
    {c : Char}
    {tail : Text}
    (opensNothing : Text.dropBeginning? [inWindow.sign, '('] (c :: tail) = none)
    (offset : Nat)
    (after : Text) :
    inWindow.captures offset (.holding (c :: tail) after) =
      inWindow.captures (offset + c.utf8Size) (.holding tail after) := by
  have search :
      Text.breakOn? [inWindow.sign, '('] (c :: tail) =
        (Text.breakOn? [inWindow.sign, '('] tail).map (Prod.map (c :: ·) id) := by
    rw [Text.breakOn?, opensNothing]
    rfl
  rw [captures_eq, captures_eq, Place.visible_holding, Place.visible_holding, search]
  cases found : Text.breakOn? [inWindow.sign, '('] tail with
  | none =>
      rfl
  | some parts =>
      rcases parts with ⟨before, behind⟩
      have shape := Text.breakOn?_eq_append found
      rw [List.append_assoc] at shape
      have fromHere := Place.advance_holding (c :: before) ([inWindow.sign, '('] ++ behind) after
      have fromTail := Place.advance_holding before ([inWindow.sign, '('] ++ behind) after
      rw [List.cons_append, ← shape] at fromHere
      rw [← shape] at fromTail
      have start : offset + Text.utf8Size (c :: before) = offset + c.utf8Size + before.utf8Size :=
        (Nat.add_assoc _ _ _).symm
      dsimp only [Option.map_some, Prod.map_fst]
      rw [fromHere, fromTail, start]

namespace Follows

/-- At an opening something is captured, or the search goes on behind its sign. -/
theorem captures_holding_opening
    (follows : inWindow.Follows reader written)
    (offset : Nat)
    (tail after : Text) :
    inWindow.captures offset (.holding (inWindow.sign :: '(' :: tail) after) =
      match reader.read? (inWindow.sign :: '(' :: tail) with
      | some (value, rest) =>
          (offset, value) ::
            inWindow.captures (offset + (written value).utf8Size) (.holding rest after)
      | none => inWindow.captures (offset + 1) (.holding ('(' :: tail) after) := by
  have search :
      Text.breakOn? [inWindow.sign, '('] (inWindow.sign :: '(' :: tail) = some ([], tail) := by
    simp [Text.breakOn?, Text.dropBeginning?]
  have here :
      (Place.holding (inWindow.sign :: '(' :: tail) after).advance 0 =
        .holding (inWindow.sign :: '(' :: tail) after :=
    Place.advance_holding [] _ after
  rw [captures_eq, Place.visible_holding, search]
  change
    (match inWindow.read? ((Place.holding (inWindow.sign :: '(' :: tail) after).advance 0) with
      | some (value, next) => _
      | none => _) = _
  rw [here, follows.readsPart]
  cases read : reader.read? (inWindow.sign :: '(' :: tail) with
  | none =>
      exact congrArg _ (Place.advance_holding_cons follows.single _ after)
  | some found =>
      rcases found with ⟨value, rest⟩
      have size := congrArg Text.utf8Size (follows.takes read)
      have taken :
          (Place.holding (inWindow.sign :: '(' :: tail) after).room -
              (Place.holding rest after).room =
            (written value).utf8Size := by
        rw [Text.utf8Size_append] at size
        change Text.utf8Size (inWindow.sign :: '(' :: tail) - rest.utf8Size = _
        omega
      exact congrArg (fun width => (offset, value) :: inWindow.captures (offset + width) _) taken

/-- The captures in a window are the values of the part in it, placed from where it begins. -/
theorem captures_holding
    (follows : inWindow.Follows reader written)
    (offset : Nat)
    (part after : Text) :
    inWindow.captures offset (.holding part after) = (reader.cut part).placed written offset := by
  induction part using Reader.cut.induct reader generalizing offset with
  | case1 =>
      rw [captures_holding_nil, Reader.cut_nil]
      rfl
  | case2 c tail value rest read inductionHypothesis =>
      obtain ⟨behind, shape⟩ := follows.opens read
      rw [shape] at read ⊢
      rw [follows.captures_holding_opening, read, Reader.cut_of_read read]
      dsimp only
      rw [inductionHypothesis]
      rfl
  | case3 c tail unread inductionHypothesis =>
      rw [Reader.cut_of_unread unread, Cut.placed_push]
      cases opening : Text.dropBeginning? [inWindow.sign, '('] (c :: tail) with
      | none =>
          rw [captures_holding_cons opening, inductionHypothesis]
      | some behind =>
          have shape : c :: tail = inWindow.sign :: '(' :: behind :=
            Text.dropBeginning?_eq_append opening
          obtain ⟨rfl, rfl⟩ := List.cons.inj shape
          rw [follows.captures_holding_opening, unread, follows.single]
          exact inductionHypothesis (offset + 1)

/-- Between two boundaries of an expression the part between them is searched. -/
theorem captures_between
    (follows : inWindow.Follows reader written)
    {expression : Text}
    {start finish : Nat}
    (startsBetween : expression.Boundary start)
    (endsBetween : expression.Boundary finish) :
    inWindow.captures start (.between expression start finish) =
      (reader.cut (expression.window start finish)).placed written start := by
  by_cases inOrder : start ≤ finish
  · obtain ⟨before, part, after, rfl, rfl, rfl⟩ := startsBetween.exists_parts endsBetween inOrder
    rw [Place.between_append, Text.window_append, follows.captures_holding]
  · rw [endsBetween.window_eq_nil (Nat.le_of_not_le inOrder), Reader.cut_nil, captures_eq]
    have noRoom : (Place.between expression start finish).room = 0 :=
      Nat.sub_eq_zero_of_le (Nat.le_of_not_le inOrder)
    have nothing : (Place.between expression start finish).visible = [] := by
      rw [Place.visible, noRoom, Text.takeBytes]
    rw [nothing]
    rfl

/-- What is captured in a window is captured in the part alone, from where the part begins. -/
theorem captures_moved
    (follows : inWindow.Follows reader written)
    {expression : Text}
    {start finish : Nat}
    (startsBetween : expression.Boundary start)
    (endsBetween : expression.Boundary finish) :
    let part := expression.window start finish
    inWindow.captures start (.between expression start (min finish expression.utf8Size)) =
      (inWindow.captures 0 (.between part 0 (min part.utf8Size part.utf8Size))).map
        (Prod.map (start + ·) id) := by
  intro part
  rw [Nat.min_eq_left endsBetween.le_utf8Size, follows.captures_between startsBetween endsBetween,
    Nat.min_self]
  have whole : Place.between part 0 part.utf8Size = .holding part [] := by
    rw [Place.between, Text.dropBytes, Nat.sub_zero, Place.holding, List.append_nil]
  rw [whole, follows.captures_holding, ← Cut.placed_add]
  rfl

/-- The captures of what stands between two parts of an expression. -/
theorem captured
    (follows : inWindow.Follows reader written)
    (before part after : Text) :
    inWindow.Captured written (before ++ (part ++ after)) before.utf8Size
      (before.utf8Size + part.utf8Size)
      ((reader.cut part).placed written before.utf8Size) := by
  have takes : reader.Takes written :=
    follows.takes
  -- From a boundary inside the part, the window holds what is left of the part.
  have remaining :
      ∀ front behind : Text,
        part = front ++ behind →
          Place.between (before ++ (part ++ after)) (before.utf8Size + front.utf8Size)
            (before.utf8Size + part.utf8Size) = .holding behind after := by
    rintro front behind rfl
    exact Place.between_append_append before front behind after
  constructor
  case inside =>
    intro capture isMember
    obtain ⟨front, rest, rfl, offset, -⟩ := takes.read_of_placed isMember
    rw [offset]
    simp only [Text.utf8Size_append]
    omega
  case ordered =>
    exact takes.placed_ordered part before.utf8Size
  case sliced =>
    intro capture isMember
    obtain ⟨front, rest, rfl, offset, -⟩ := takes.read_of_placed isMember
    have slice := Text.window_append (before ++ front) (written capture.2) (rest ++ after)
    rw [offset]
    simpa [Text.utf8Size_append, Nat.add_assoc] using slice
  case recognised =>
    intro capture isMember
    obtain ⟨front, rest, shape, offset, read⟩ := takes.read_of_placed isMember
    have behind := remaining (front ++ written capture.2) rest (by simp [shape])
    rw [Text.utf8Size_append, ← Nat.add_assoc] at behind
    rw [offset, remaining front _ shape, behind, follows.readsPart, read]
    rfl
  case complete =>
    intro position value next fromStart toFinish boundary read
    obtain ⟨longer, back, shape, rfl⟩ := boundary
    obtain ⟨front, rfl, partShape⟩ := Text.exists_of_append_eq_append shape fromStart
    rw [Text.utf8Size_append] at toFinish read ⊢
    obtain ⟨behind, inPart, -⟩ :=
      Text.exists_of_append_eq_append partShape.symm (Nat.add_le_add_iff_left.mp toFinish)
    rw [remaining front behind inPart, follows.readsPart] at read
    obtain ⟨⟨found, rest⟩, readAlone, same⟩ := Option.map_eq_some_iff.mp read
    cases same
    exact takes.placed_complete before.utf8Size inPart readAlone

/-- The captures between two boundaries of an expression, which need not be in order. -/
theorem captured_between
    (follows : inWindow.Follows reader written)
    {expression : Text}
    {start finish : Nat}
    (startsBetween : expression.Boundary start)
    (endsBetween : expression.Boundary finish) :
    inWindow.Captured written expression start finish
      (inWindow.captures start (.between expression start finish)) := by
  rw [follows.captures_between startsBetween endsBetween]
  by_cases inOrder : start ≤ finish
  · obtain ⟨before, part, after, rfl, rfl, rfl⟩ := startsBetween.exists_parts endsBetween inOrder
    rw [Text.window_append]
    exact follows.captured before part after
  · rw [endsBetween.window_eq_nil (Nat.le_of_not_le inOrder), Reader.cut_nil]
    constructor
    case complete =>
      intro position value next fromStart toFinish
      exact absurd (Nat.le_trans fromStart toFinish) inOrder
    all_goals simp [Cut.placed, Cut.place]

end Follows

end PlaceReader

theorem ItemVector.placeReader_follows :
    placeReader.Follows reader (·.written) where
  readsPart := Place.readsPart_readVector?
  takes := reader_takes
  single := rfl
  opens := by
    intro text rest vector read
    change read? text = some (vector, rest) at read
    unfold read? at read
    split at read
    · exact ⟨_, rfl⟩
    · cases read

theorem MetadataReference.placeReader_follows :
    placeReader.Follows reader (·.written) where
  readsPart := Place.readsPart_readMetadata?
  takes := reader_takes
  single := rfl
  opens := by
    intro text rest reference read
    change read? text = some (reference, rest) at read
    unfold read? at read
    split at read
    · exact ⟨_, rfl⟩
    · cases read

namespace Text

/--
Between two boundaries of an expression, or up to its end if that comes first, the
captures of item vectors and those of metadata references are exact, in order, apart and
complete.
-/
theorem captures_exact_and_complete
    {expression : Text}
    {start finish : Nat}
    (startsBetween : expression.Boundary start)
    (endsBetween : expression.Boundary (min finish expression.utf8Size)) :
    ItemVector.placeReader.Captured (·.written) expression start (min finish expression.utf8Size)
        (ItemVector.captures expression start finish) ∧
      MetadataReference.placeReader.Captured (·.written) expression start
        (min finish expression.utf8Size) (MetadataReference.captures expression start finish) :=
  ⟨ItemVector.placeReader_follows.captured_between startsBetween endsBetween,
    MetadataReference.placeReader_follows.captured_between startsBetween endsBetween⟩

/-- Behind the openings that open nothing there is one capture of each kind. -/
theorem captures_behind_stray_openings :
    let expression : Text := "@(é@(B)%(%(C)"
    let finish := min 40 expression.utf8Size
    let vectors := ItemVector.captures expression 1 40
    let references := MetadataReference.captures expression 1 40
    ItemVector.placeReader.Captured (·.written) expression 1 finish vectors ∧
      MetadataReference.placeReader.Captured (·.written) expression 1 finish references ∧
      vectors.map (·.1) = [4] ∧ references.map (·.1) = [10] := by
  intro expression finish vectors references
  have startsBetween : expression.Boundary 1 :=
    ⟨"@".toList, "(é@(B)%(%(C)".toList, rfl, rfl⟩
  have endsBetween : expression.Boundary (min 40 expression.utf8Size) :=
    ⟨expression, [], by simp, by decide⟩
  have captured := captures_exact_and_complete startsBetween endsBetween
  exact ⟨captured.1, captured.2, by decide +kernel, by decide +kernel⟩

end Text

/--
The captures between two boundaries of an expression are those of the part between them,
searched on its own, and moved to where the part begins.
-/
theorem captures_depend_on_window
    {expression : Text}
    {start finish : Nat}
    (startsBetween : expression.Boundary start)
    (endsBetween : expression.Boundary finish) :
    let part := expression.window start finish
    ItemVector.captures expression start finish =
        (ItemVector.captures part 0 part.utf8Size).map (Prod.map (start + ·) id) ∧
      MetadataReference.captures expression start finish =
        (MetadataReference.captures part 0 part.utf8Size).map (Prod.map (start + ·) id) :=
  ⟨ItemVector.placeReader_follows.captures_moved startsBetween endsBetween,
    MetadataReference.placeReader_follows.captures_moved startsBetween endsBetween⟩

/-- Quotes before the window, and blanks, a quote and a parenthesis that go on behind it. -/
theorem captures_between_quotes :
    let expression : Text := "'(@(A->B('é'))%(C) @(D->E('  ')) )"
    let part := expression.window 2 30
    ItemVector.captures expression 2 30 =
        (ItemVector.captures part 0 part.utf8Size).map (Prod.map (2 + ·) id) ∧
      MetadataReference.captures expression 2 30 =
        (MetadataReference.captures part 0 part.utf8Size).map (Prod.map (2 + ·) id) ∧
      (ItemVector.captures expression 2 30).map (·.1) = [2] ∧
      (MetadataReference.captures expression 2 30).map (·.1) = [15] := by
  intro expression part
  have startsBetween : expression.Boundary 2 :=
    ⟨"'(".toList, "@(A->B('é'))%(C) @(D->E('  ')) )".toList, rfl, rfl⟩
  have endsBetween : expression.Boundary 30 :=
    ⟨"'(@(A->B('é'))%(C) @(D->E('  ".toList, "')) )".toList, rfl, by decide⟩
  have moved := captures_depend_on_window startsBetween endsBetween
  exact ⟨moved.1, moved.2, by decide +kernel, by decide +kernel⟩

end RefExpand
