import RefExpand.Proofs.Text.ListCutter

namespace RefExpand

/-!
# The pieces of a list, cut again

A blank never changes whether the cutter cuts, and it begins each piece outside vectors.
So it goes through the pieces as before when they are trimmed and the blank ones are left
out: it cuts where they are joined, and nowhere else. Only the last piece may end inside a
vector, and behind that one nothing is joined.
-/

namespace Text

/-- The cutter enters the piece in a mode and never cuts it. -/
def IsUncut (mode : CutterMode) (piece : Text) : Prop :=
  ∀ front back, piece = front ++ ';' :: back → (mode.run front).cuts = false

/--
The texts are the pieces that the cutter makes of them when they are joined, if it enters
the first one in this mode: it cuts none of them, and it would cut behind each but the last.
-/
inductive ArePieces : CutterMode → List Text → Prop
  | last {mode : CutterMode} {piece : Text} (uncut : IsUncut mode piece) :
      ArePieces mode [piece]
  | cons {mode : CutterMode} {piece : Text} {rest : List Text} (uncut : IsUncut mode piece)
      (ends : (mode.run piece).cuts = true) (later : ArePieces .outside rest) :
      ArePieces mode (piece :: rest)

/-- A character that separates no pieces and is not trimmed away. -/
def isInk (c : Char) : Bool :=
  !isBlank c && c != ';'

theorem ne_of_isBlank
    {c d : Char}
    (blank : isBlank c = true)
    (ink : isBlank d = false) :
    c ≠ d := by
  rintro rfl
  rw [blank] at ink
  cases ink

namespace CutterMode

/-- Where the cutter cuts, it goes on outside vectors. -/
theorem step_semicolon
    {mode : CutterMode}
    (cuts : mode.cuts = true) :
    mode.step ';' = .outside := by
  cases mode with
  | outside | atSign =>
      rfl
  | vector | quoted =>
      cases cuts

theorem step_outside_of_isBlank
    {c : Char}
    (blank : isBlank c = true) :
    CutterMode.outside.step c = .outside := by
  have noSign := ne_of_isBlank (d := '@') blank rfl
  simp [step, noSign]

theorem cuts_step_of_isBlank
    (mode : CutterMode)
    {c : Char}
    (blank : isBlank c = true) :
    (mode.step c).cuts = mode.cuts := by
  have noSign := ne_of_isBlank (d := '@') blank rfl
  have noOpening := ne_of_isBlank (d := '(') blank rfl
  have noClosing := ne_of_isBlank (d := ')') blank rfl
  have noQuote := ne_of_isBlank (d := '\'') blank rfl
  cases mode <;> simp [step, cuts, noSign, noOpening, noClosing, noQuote]

theorem run_outside_of_isBlank
    {blanks : Text}
    (blank : ∀ c ∈ blanks, isBlank c = true) :
    CutterMode.outside.run blanks = .outside := by
  induction blanks with
  | nil =>
      rfl
  | cons c blanks inductionHypothesis =>
      rw [List.forall_mem_cons] at blank
      rw [run_cons, step_outside_of_isBlank blank.1, inductionHypothesis blank.2]

theorem cuts_run_of_isBlank
    (mode : CutterMode)
    {blanks : Text}
    (blank : ∀ c ∈ blanks, isBlank c = true) :
    (mode.run blanks).cuts = mode.cuts := by
  induction blanks generalizing mode with
  | nil =>
      rfl
  | cons c blanks inductionHypothesis =>
      rw [List.forall_mem_cons] at blank
      rw [run_cons, inductionHypothesis (mode.step c) blank.2, cuts_step_of_isBlank mode blank.1]

end CutterMode

theorem isUncut_nil
    (mode : CutterMode) :
    IsUncut mode [] := by
  intro front back shape
  exact absurd (List.append_eq_nil_iff.mp shape.symm).2 (List.cons_ne_nil _ _)

theorem IsUncut.cons
    {mode : CutterMode}
    {c : Char}
    {piece : Text}
    (passes : c = ';' → mode.cuts = false)
    (uncut : IsUncut (mode.step c) piece) :
    IsUncut mode (c :: piece) := by
  intro front back shape
  cases front with
  | nil =>
      exact passes (List.cons.inj shape).1
  | cons d front =>
      obtain ⟨rfl, isRest⟩ := List.cons.inj shape
      exact uncut front back isRest

/-- A character that is not cut at goes to the first piece. -/
theorem ArePieces.push
    {mode : CutterMode}
    {c : Char}
    {first : Text}
    {rest : List Text}
    (passes : c = ';' → mode.cuts = false)
    (pieces : ArePieces (mode.step c) (first :: rest)) :
    ArePieces mode ((c :: first) :: rest) := by
  cases pieces with
  | last uncut =>
      exact .last (uncut.cons passes)
  | cons uncut ends later =>
      exact .cons (uncut.cons passes) ends later

/-- What the cutter makes of a text are pieces. -/
theorem arePieces_piecesFrom
    (mode : CutterMode)
    (text : Text) :
    ArePieces mode (piecesFrom mode text) := by
  induction text generalizing mode with
  | nil =>
      exact .last (isUncut_nil mode)
  | cons c rest inductionHypothesis =>
      by_cases cutHere : c = ';' ∧ mode.cuts = true
      · obtain ⟨rfl, cuts⟩ := cutHere
        have later := inductionHypothesis (mode.step ';')
        rw [piecesFrom, cutFrom_cons_of_cuts cuts]
        rw [CutterMode.step_semicolon cuts] at later ⊢
        exact .cons (isUncut_nil mode) cuts later
      · have passes : c = ';' → mode.cuts = false := by
          intro isSemicolon
          rw [← Bool.not_eq_true]
          exact fun cuts => cutHere ⟨isSemicolon, cuts⟩
        rw [piecesFrom, cutFrom_cons_of_not_cuts passes]
        exact (inductionHypothesis (mode.step c)).push passes

/-- The cutter makes of joined pieces what was joined. -/
theorem ArePieces.piecesFrom_join
    {mode : CutterMode}
    {pieces : List Text}
    (arePieces : ArePieces mode pieces) :
    piecesFrom mode (join [';'] pieces) = pieces := by
  have alone {mode : CutterMode} {piece : Text} (uncut : IsUncut mode piece) :
      piecesFrom mode (join [';'] [piece]) = [piece] := by
    have cut := cutFrom_append_of_uncut uncut []
    rw [List.append_nil] at cut
    simp [join, piecesFrom, cut, cutFrom]
  induction arePieces with
  | last uncut =>
      exact alone uncut
  | @cons mode piece rest uncut ends later inductionHypothesis =>
      cases rest with
      | nil =>
          exact alone uncut
      | cons second rest =>
          have shape :
              join [';'] (piece :: second :: rest) =
                piece ++ ';' :: join [';'] (second :: rest) := by
            rw [join_cons_cons, List.append_assoc]
            rfl
          rw [shape, piecesFrom, cutFrom_append_of_uncut uncut, cutFrom_cons_of_cuts ends,
            CutterMode.step_semicolon ends, inductionHypothesis, List.append_nil]

/-- The cutter goes through a trimmed piece as it went through the piece. -/
theorem IsUncut.trimmed
    {piece : Text}
    (uncut : IsUncut .outside piece) :
    IsUncut .outside (trim piece) := by
  obtain ⟨before, after, blankBefore, -, shape⟩ := exists_blanks_around piece
  intro front back isTrimmed
  have longer : piece = (before ++ front) ++ ';' :: (back ++ after) := by
    rw [shape, isTrimmed]
    simp
  have passed := uncut (before ++ front) (back ++ after) longer
  rwa [CutterMode.run_append, CutterMode.run_outside_of_isBlank blankBefore] at passed

theorem cuts_run_trim
    (piece : Text) :
    (CutterMode.outside.run (trim piece)).cuts = (CutterMode.outside.run piece).cuts := by
  obtain ⟨before, after, blankBefore, blankAfter, shape⟩ := exists_blanks_around piece
  conv => right; rw [shape]
  rw [CutterMode.run_append, CutterMode.cuts_run_of_isBlank _ blankAfter, CutterMode.run_append,
    CutterMode.run_outside_of_isBlank blankBefore]

theorem ArePieces.map_trim
    {pieces : List Text}
    (arePieces : ArePieces .outside pieces) :
    ArePieces .outside (pieces.map trim) := by
  induction pieces with
  | nil =>
      cases arePieces
  | cons piece rest inductionHypothesis =>
      cases arePieces with
      | last uncut =>
          exact .last uncut.trimmed
      | cons uncut ends later =>
          exact .cons uncut.trimmed (cuts_run_trim piece ▸ ends) (inductionHypothesis later)

/-- Pieces stay pieces when some of them are left out, if any are left. -/
theorem ArePieces.filter
    {pieces : List Text}
    (arePieces : ArePieces .outside pieces)
    (kept : Text → Bool) :
    pieces.filter kept = [] ∨ ArePieces .outside (pieces.filter kept) := by
  induction pieces with
  | nil =>
      exact .inl rfl
  | cons piece rest inductionHypothesis =>
      cases isKept : kept piece with
      | true =>
          right
          rw [List.filter_cons_of_pos isKept]
          cases arePieces with
          | last uncut =>
              exact .last uncut
          | cons uncut ends later =>
              rcases inductionHypothesis later with nothing | laterKept
              · rw [nothing]
                exact .last uncut
              · exact .cons uncut ends laterKept
      | false =>
          rw [List.filter_cons_of_neg (by simp [isKept])]
          cases arePieces with
          | last uncut =>
              exact .inl rfl
          | cons uncut ends later =>
              exact inductionHypothesis later

theorem mem_splitList_iff
    {text piece : Text} :
    piece ∈ splitList text ↔ piece ≠ [] ∧ ∃ raw ∈ rawPieces text, trim raw = piece := by
  simp only [splitList, rawPieces, List.mem_filter, List.mem_map, Bool.not_eq_true',
    List.isEmpty_eq_false_iff]
  exact and_comm

theorem trim_of_mem_splitList
    {text piece : Text}
    (isPiece : piece ∈ splitList text) :
    trim piece = piece := by
  obtain ⟨-, raw, -, rfl⟩ := mem_splitList_iff.mp isPiece
  exact trim_trim raw

/-- A list whose raw pieces are those of a list that was split already is split into them. -/
theorem splitList_of_rawPieces
    {text again : Text}
    (raw : rawPieces again = splitList text) :
    splitList again = splitList text := by
  have trimmed : (splitList text).map trim = splitList text := by
    have same : ∀ piece ∈ splitList text, trim piece = id piece :=
      fun piece => trim_of_mem_splitList
    rw [List.map_congr_left same, List.map_id]
  have present : ∀ piece ∈ splitList text, (!piece.isEmpty) = true := by
    intro piece isPiece
    simpa using (mem_splitList_iff.mp isPiece).1
  calc
    splitList again = ((rawPieces again).map trim).filter (!·.isEmpty) := rfl
    _ = splitList text := by
      rw [raw, trimmed, List.filter_eq_self.mpr present]

theorem splitList_join_splitList
    (text : Text) :
    splitList (join [';'] (splitList text)) = splitList text := by
  have arePieces : ArePieces .outside ((rawPieces text).map trim) := by
    rw [rawPieces_eq]
    exact (arePieces_piecesFrom .outside text).map_trim
  rcases arePieces.filter (!·.isEmpty) with nothing | laterPieces
  · have noPieces : splitList text = [] :=
      nothing
    rw [noPieces]
    rfl
  · apply splitList_of_rawPieces
    rw [rawPieces_eq]
    exact laterPieces.piecesFrom_join

theorem join_rawPieces
    (text : Text) :
    join [';'] (rawPieces text) = text := by
  obtain ⟨earlier, left, joined, cutLater⟩ := cutFrom_append .outside text
  have pieces := cutLater []
  rw [List.append_nil, ← rawPieces_eq, cutFrom, List.append_nil] at pieces
  rw [pieces, joined]

theorem filter_isInk_trim
    (text : Text) :
    (trim text).filter isInk = text.filter isInk := by
  obtain ⟨before, after, blankBefore, blankAfter, shape⟩ := exists_blanks_around text
  have noInk {blanks : Text} (blank : ∀ c ∈ blanks, isBlank c = true) :
      blanks.filter isInk = [] := by
    rw [List.filter_eq_nil_iff]
    intro c isMember
    simp [isInk, blank c isMember]
  conv => right; rw [shape]
  rw [List.filter_append, List.filter_append, noInk blankBefore, noInk blankAfter,
    List.nil_append, List.append_nil]

theorem filter_isInk_join
    (pieces : List Text) :
    (join [';'] pieces).filter isInk = (pieces.map (List.filter isInk)).flatten := by
  induction pieces with
  | nil =>
      rfl
  | cons first rest inductionHypothesis =>
      cases rest with
      | nil =>
          simp [join]
      | cons second rest =>
          have noInk : [';'].filter isInk = [] :=
            rfl
          rw [join_cons_cons, List.filter_append, List.filter_append, noInk, List.append_nil,
            inductionHypothesis]
          rfl

/-- Nothing but blanks and semicolons is left out of the pieces of a list. -/
theorem filter_isInk_splitList
    (text : Text) :
    (splitList text).flatten.filter isInk = text.filter isInk := by
  have kept : (splitList text).flatten = ((rawPieces text).map trim).flatten :=
    List.flatten_filter_not_isEmpty
  have trimmed : List.filter isInk ∘ trim = List.filter isInk :=
    funext filter_isInk_trim
  rw [kept, List.filter_flatten, List.map_map, trimmed, ← filter_isInk_join, join_rawPieces]

/--
A list is split into trimmed pieces, none of them blank, which hold all that the list shows
besides blanks and semicolons. Joined and split again they are the same pieces, vectors
that hold semicolons or quotes and one that is never closed included.
-/
theorem splitting_is_stable
    (text : Text) :
    (∀ piece ∈ splitList text, (∃ c ∈ piece, isBlank c = false) ∧ trim piece = piece) ∧
      (splitList text).flatten.filter isInk = text.filter isInk ∧
      splitList (join [';'] (splitList text)) = splitList text := by
  refine ⟨?_, filter_isInk_splitList text, splitList_join_splitList text⟩
  intro piece isPiece
  have trimmed := trim_of_mem_splitList isPiece
  refine ⟨?_, trimmed⟩
  obtain ⟨first, rest, shape⟩ :=
    List.exists_cons_of_ne_nil (mem_splitList_iff.mp isPiece).1
  refine ⟨first, shape ▸ List.mem_cons_self, ?_⟩
  apply (trim_eq_self_iff.mp trimmed).1
  rw [shape]
  rfl

/-- Behind a vector that is never closed everything belongs to the last piece. -/
example :
    splitList " x ; ;@( A->'%(F); ); y; " = [("x" : Text), ("@( A->'%(F); ); y;" : Text)] := by
  decide

end Text

end RefExpand
