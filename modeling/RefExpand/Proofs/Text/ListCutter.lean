import RefExpand.Proofs.Text.Escaping

namespace RefExpand

/-!
# The list cutter, one character at a time

The cutter opens a vector at two characters at once. With one more mode, for an
at sign that was just passed, it becomes a machine that steps over single
characters, and where it cuts behind a beginning of the text depends on its mode
there and on nothing else.
-/

namespace Text

/-- Where the cutter stands between two characters. -/
inductive CutterMode where
  | outside
  | atSign
  | vector
  | quoted
  deriving Repr, DecidableEq

namespace CutterMode

/-- The mode behind a character. -/
def step : CutterMode → Char → CutterMode
  | .outside, c =>
      if c = '@' then .atSign else .outside
  | .atSign, c =>
      if c = '(' then .vector else if c = '@' then .atSign else .outside
  | .vector, c =>
      if c = '\'' then .quoted else if c = ')' then .outside else .vector
  | .quoted, c =>
      if c = '\'' then .vector else .quoted

/-- The mode behind a text. -/
def run (mode : CutterMode) (text : Text) : CutterMode :=
  text.foldl step mode

/-- A semicolon is cut at in this mode. -/
def cuts : CutterMode → Bool
  | .outside | .atSign => true
  | .vector | .quoted => false

@[simp] theorem run_nil
    (mode : CutterMode) :
    mode.run [] = mode :=
  rfl

@[simp] theorem run_cons
    (mode : CutterMode)
    (c : Char)
    (rest : Text) :
    mode.run (c :: rest) = (mode.step c).run rest :=
  rfl

theorem run_append
    (mode : CutterMode)
    (front back : Text) :
    mode.run (front ++ back) = (mode.run front).run back :=
  List.foldl_append

end CutterMode

/-- The first piece and the other ones, cut one character at a time. -/
def cutFrom : CutterMode → Text → Text × List Text
  | _, [] => ([], [])
  | mode, c :: rest =>
      let (piece, pieces) := cutFrom (mode.step c) rest
      if c = ';' && mode.cuts then ([], piece :: pieces) else (c :: piece, pieces)

/-- All pieces, cut one character at a time. -/
def piecesFrom (mode : CutterMode) (text : Text) : List Text :=
  (cutFrom mode text).1 :: (cutFrom mode text).2

/-- The machine's mode for a mode of the cutter. -/
def ListMode.toCutter : ListMode → CutterMode
  | .outside => .outside
  | .vector => .vector
  | .quoted => .quoted

theorem ListMode.toCutter_after
    {mode : ListMode}
    (inside : mode ≠ .outside)
    (c : Char) :
    (mode.after c).toCutter = mode.toCutter.step c := by
  cases mode with
  | outside =>
      exact absurd rfl inside
  | vector =>
      by_cases isQuote : c = '\''
      · subst isQuote
        rfl
      · by_cases isClose : c = ')'
        · subst isClose
          rfl
        · simp [ListMode.after, toCutter, CutterMode.step, isQuote, isClose]
  | quoted =>
      by_cases isQuote : c = '\''
      · subst isQuote
        rfl
      · simp [ListMode.after, toCutter, CutterMode.step, isQuote]

theorem cutList_cons_inside
    {mode : ListMode}
    (inside : mode ≠ .outside)
    (c : Char)
    (rest : Text) :
    cutList mode (c :: rest) =
      (c :: (cutList (mode.after c) rest).1, (cutList (mode.after c) rest).2) := by
  cases mode with
  | outside =>
      exact absurd rfl inside
  | vector =>
      rw [cutList] <;> simp
  | quoted =>
      rw [cutList] <;> simp

/-- The machine cuts as the cutter does, also where it has passed an at sign already. -/
theorem cutList_eq_cutFrom
    (text : Text) :
    (∀ mode, cutList mode text = cutFrom mode.toCutter text) ∧
      cutList .outside ('@' :: text) =
        ('@' :: (cutFrom .atSign text).1, (cutFrom .atSign text).2) := by
  induction text with
  | nil =>
      refine ⟨fun mode => ?_, rfl⟩
      cases mode <;> rfl
  | cons c rest inductionHypothesis =>
      obtain ⟨sameLater, sameBehindSign⟩ := inductionHypothesis
      have outsideLater := sameLater .outside
      rw [ListMode.toCutter] at outsideLater
      have outsideHere :
          cutList .outside (c :: rest) = cutFrom .outside (c :: rest) := by
        by_cases isSemicolon : c = ';'
        · subst isSemicolon
          simp [cutList, cutFrom, CutterMode.step, CutterMode.cuts, outsideLater]
        · by_cases isSign : c = '@'
          · subst isSign
            simp [cutFrom, CutterMode.step, sameBehindSign]
          · have stays : CutterMode.outside.step c = .outside := by
              simp [CutterMode.step, isSign]
            simp [cutList_cons_of_ne isSemicolon isSign, cutFrom, isSemicolon, stays, outsideLater]
      refine ⟨fun mode => ?_, ?_⟩
      · by_cases inside : mode = .outside
        · rw [inside]
          exact outsideHere
        · have passes : mode.toCutter.cuts = false := by
            cases mode <;> trivial
          rw [cutList_cons_inside inside, sameLater, ListMode.toCutter_after inside, cutFrom]
          simp [passes]
      · by_cases opens : c = '('
        · subst opens
          have inVector := sameLater .vector
          rw [ListMode.toCutter] at inVector
          simp [cutList, cutFrom, CutterMode.step, inVector]
        · have signPassed :
              cutList .outside ('@' :: c :: rest) =
                ('@' :: (cutList .outside (c :: rest)).1, (cutList .outside (c :: rest)).2) := by
            rw [cutList]
            · rfl
            · intro _ isSemicolon
              cases isSemicolon
            · rintro _ _ - isOpen
              exact absurd (List.cons.inj isOpen).1 opens
          have sameStep : CutterMode.atSign.step c = CutterMode.outside.step c := by
            simp [CutterMode.step, opens]
          rw [signPassed, outsideHere, cutFrom, cutFrom, sameStep]
          rfl

/-- The pieces of a list as they stand between the semicolons at which it is cut. -/
def rawPieces (text : Text) : List Text :=
  (cutList .outside text).1 :: (cutList .outside text).2

/-- The list is cut at this byte: the semicolon there stands between two of its pieces. -/
def IsSplitPoint (text : Text) (point : Nat) : Prop :=
  ∃ left right,
    left ≠ [] ∧ right ≠ [] ∧ rawPieces text = left ++ right ∧
      (join [';'] left).utf8Size = point

theorem rawPieces_eq
    (text : Text) :
    rawPieces text = piecesFrom .outside text := by
  have same := (cutList_eq_cutFrom text).1 .outside
  rw [rawPieces, same]
  rfl

theorem cutFrom_cons_of_cuts
    {mode : CutterMode}
    (cuts : mode.cuts = true)
    (rest : Text) :
    cutFrom mode (';' :: rest) = ([], piecesFrom (mode.step ';') rest) := by
  simp [cutFrom, piecesFrom, cuts]

theorem cutFrom_cons_of_not_cuts
    {mode : CutterMode}
    {c : Char}
    (passes : c = ';' → mode.cuts = false)
    (rest : Text) :
    cutFrom mode (c :: rest) =
      (c :: (cutFrom (mode.step c) rest).1, (cutFrom (mode.step c) rest).2) := by
  have noCut : ¬ ((c = ';' && mode.cuts) = true) := by
    intro both
    simp only [Bool.and_eq_true, decide_eq_true_eq] at both
    rw [passes both.1] at both
    exact absurd both.2 (by decide)
  simp only [cutFrom]
  rw [if_neg noCut]

/-- Cutting a text is cutting its beginning, and going on in the mode that was reached. -/
theorem cutFrom_append
    (mode : CutterMode)
    (front : Text) :
    ∃ earlier left,
      join [';'] (earlier ++ [left]) = front ∧
        ∀ back,
          piecesFrom mode (front ++ back) =
            earlier ++
              (left ++ (cutFrom (mode.run front) back).1) ::
                (cutFrom (mode.run front) back).2 := by
  induction front generalizing mode with
  | nil =>
      exact ⟨[], [], rfl, fun back => rfl⟩
  | cons c front inductionHypothesis =>
      obtain ⟨earlier, left, joined, cutLater⟩ := inductionHypothesis (mode.step c)
      by_cases cutHere : c = ';' ∧ mode.cuts = true
      · obtain ⟨rfl, cuts⟩ := cutHere
        refine ⟨[] :: earlier, left, ?_, fun back => ?_⟩
        · rw [List.cons_append, join_cons_of_ne_nil _ _ (by simp), joined]
          rfl
        · rw [List.cons_append, piecesFrom, cutFrom_cons_of_cuts cuts, cutLater]
          rfl
      · have passes : c = ';' → mode.cuts = false := by
          intro isSemicolon
          rw [← Bool.not_eq_true]
          exact fun cuts => cutHere ⟨isSemicolon, cuts⟩
        -- The character joins the first piece, which is `left` where nothing was cut.
        cases earlier with
        | nil =>
            refine ⟨[], c :: left, ?_, fun back => ?_⟩
            · rw [List.nil_append, join_push, ← joined]
              rfl
            · have later := cutLater back
              rw [piecesFrom, List.nil_append, List.cons.injEq] at later
              rw [List.cons_append, piecesFrom, cutFrom_cons_of_not_cuts passes, later.1, later.2]
              rfl
        | cons first earlier =>
            refine ⟨(c :: first) :: earlier, left, ?_, fun back => ?_⟩
            · rw [List.cons_append, join_push, ← joined]
              rfl
            · have later := cutLater back
              rw [piecesFrom, List.cons_append, List.cons.injEq] at later
              rw [List.cons_append, piecesFrom, cutFrom_cons_of_not_cuts passes, later.1, later.2]
              rfl

/-- A stretch in which the cutter never cuts belongs to one piece. -/
theorem cutFrom_append_of_uncut
    {mode : CutterMode}
    {stretch : Text}
    (uncut : ∀ front back, stretch = front ++ ';' :: back → (mode.run front).cuts = false)
    (rest : Text) :
    cutFrom mode (stretch ++ rest) =
      (stretch ++ (cutFrom (mode.run stretch) rest).1,
        (cutFrom (mode.run stretch) rest).2) := by
  induction stretch generalizing mode with
  | nil =>
      rfl
  | cons c stretch inductionHypothesis =>
      have passes : c = ';' → mode.cuts = false := by
        rintro rfl
        exact uncut [] stretch rfl
      have uncutLater :
          ∀ front back,
            stretch = front ++ ';' :: back → ((mode.step c).run front).cuts = false :=
        fun front back shape => uncut (c :: front) back (by rw [shape]; rfl)
      rw [List.cons_append, cutFrom_cons_of_not_cuts passes, inductionHypothesis uncutLater]
      rfl

/-- Behind the pieces on the left of a cut the cutter stands where it cuts. -/
theorem exists_of_cutFrom_eq_append
    {mode : CutterMode}
    {text : Text}
    {left right : List Text}
    (leftSome : left ≠ [])
    (rightSome : right ≠ [])
    (pieces : piecesFrom mode text = left ++ right) :
    ∃ back,
      text = join [';'] left ++ ';' :: back ∧ (mode.run (join [';'] left)).cuts = true := by
  obtain ⟨first, left, rfl⟩ := List.exists_cons_of_ne_nil leftSome
  induction text generalizing mode first left with
  | nil =>
      rw [piecesFrom, cutFrom, List.cons_append, List.cons.injEq] at pieces
      exact absurd (List.append_eq_nil_iff.mp pieces.2.symm).2 rightSome
  | cons c text inductionHypothesis =>
      by_cases cutHere : c = ';' ∧ mode.cuts = true
      · obtain ⟨rfl, cuts⟩ := cutHere
        rw [piecesFrom, cutFrom_cons_of_cuts cuts, List.cons_append, List.cons.injEq] at pieces
        obtain ⟨rfl, later⟩ := pieces
        cases left with
        | nil =>
            exact ⟨text, rfl, cuts⟩
        | cons second left =>
            obtain ⟨back, shape, cutsLater⟩ :=
              inductionHypothesis second left (by simp) later
            rw [join_cons_cons]
            exact ⟨back, by rw [shape]; simp, cutsLater⟩
      · have passes : c = ';' → mode.cuts = false := by
          intro isSemicolon
          rw [← Bool.not_eq_true]
          exact fun cuts => cutHere ⟨isSemicolon, cuts⟩
        rw [piecesFrom, cutFrom_cons_of_not_cuts passes, List.cons_append,
          List.cons.injEq] at pieces
        obtain ⟨rfl, later⟩ := pieces
        obtain ⟨back, shape, cutsLater⟩ :=
          inductionHypothesis (cutFrom (mode.step c) text).1 left (by simp)
            (by rw [piecesFrom, later]; rfl)
        rw [join_push]
        exact ⟨back, by rw [List.cons_append, ← shape], cutsLater⟩

/-- The list is cut at the semicolons that the cutter meets outside vectors, and there only. -/
theorem isSplitPoint_iff
    {text : Text}
    {point : Nat} :
    IsSplitPoint text point ↔
      ∃ front back,
        text = front ++ ';' :: back ∧ (CutterMode.outside.run front).cuts = true ∧
          front.utf8Size = point := by
  constructor
  · rintro ⟨left, right, leftSome, rightSome, pieces, size⟩
    rw [rawPieces_eq] at pieces
    obtain ⟨back, shape, cuts⟩ := exists_of_cutFrom_eq_append leftSome rightSome pieces
    exact ⟨_, back, shape, cuts, size⟩
  · rintro ⟨front, back, rfl, cuts, size⟩
    obtain ⟨earlier, left, joined, cutLater⟩ := cutFrom_append .outside front
    have pieces := cutLater (';' :: back)
    rw [cutFrom_cons_of_cuts cuts, List.append_nil, ← rawPieces_eq] at pieces
    exact
      ⟨earlier ++ [left], piecesFrom ((CutterMode.outside.run front).step ';') back,
        by simp, List.cons_ne_nil _ _, by simpa using pieces, joined ▸ size⟩

/-- What begins and ends with ink is not touched when blanks around it are removed. -/
theorem isInfix_trim
    {stretch text : Text}
    (some : stretch ≠ [])
    (trimmed : trim stretch = stretch)
    (within : stretch <:+: text) :
    stretch <:+: trim text := by
  obtain ⟨headInk, lastInk⟩ := trim_eq_self_iff.mp trimmed
  rw [List.head?_eq_some_head some] at headInk
  rw [List.getLast?_eq_some_getLast some] at lastInk
  obtain ⟨left, right, rfl⟩ := within
  have started : stretch <:+: trimStartBy isBlank (left ++ stretch ++ right) := by
    have kept : trimStartBy isBlank (stretch ++ right) = stretch ++ right := by
      rw [trimStartBy_eq_self_iff, List.head?_append, List.head?_eq_some_head some]
      exact headInk
    rw [trimStartBy] at kept
    rw [trimStartBy, List.append_assoc, List.dropWhile_append, kept]
    split
    · exact List.infix_append [] stretch right
    · rw [← List.append_assoc]
      exact List.infix_append _ stretch right
  obtain ⟨left', right', shape⟩ := started
  rw [trim, trimBy, ← shape, trimEndBy, List.reverse_append, List.dropWhile_append]
  have kept :
      (left' ++ stretch).reverse.dropWhile isBlank = (left' ++ stretch).reverse := by
    change trimStartBy isBlank _ = _
    rw [trimStartBy_eq_self_iff, List.head?_reverse, List.getLast?_append,
      List.getLast?_eq_some_getLast some]
    exact lastInk
  split
  · rw [kept, List.reverse_reverse]
    exact (List.suffix_append left' stretch).isInfix
  · rw [List.reverse_append, List.reverse_reverse]
    exact List.infix_append left' stretch _

/-- A trimmed stretch that is never cut stands in one piece of the list. -/
theorem exists_piece_of_uncut
    {before stretch after : Text}
    (some : stretch ≠ [])
    (trimmed : trim stretch = stretch)
    (uncut :
      ∀ front back,
        stretch = front ++ ';' :: back →
          (CutterMode.outside.run (before ++ front)).cuts = false) :
    ∃ piece ∈ splitList (before ++ (stretch ++ after)), stretch <:+: piece := by
  obtain ⟨earlier, left, -, cutLater⟩ := cutFrom_append .outside before
  have pieces := cutLater (stretch ++ after)
  rw [← rawPieces_eq, cutFrom_append_of_uncut fun front back shape =>
    CutterMode.run_append _ before front ▸ uncut front back shape] at pieces
  have inRaw :
      ∃ raw ∈ rawPieces (before ++ (stretch ++ after)), stretch <:+: raw := by
    rw [pieces]
    refine ⟨_, List.mem_append_right _ List.mem_cons_self, ?_⟩
    rw [← List.append_assoc]
    exact List.infix_append _ _ _
  obtain ⟨raw, isRaw, within⟩ := inRaw
  have inTrimmed := isInfix_trim some trimmed within
  refine ⟨trim raw, ?_, inTrimmed⟩
  have notNothing : trim raw ≠ [] := by
    intro nothing
    rw [nothing, List.infix_nil] at inTrimmed
    exact some inTrimmed
  simp only [splitList, List.mem_filter, Bool.not_eq_true', List.isEmpty_eq_false_iff]
  exact ⟨List.mem_map_of_mem isRaw, notNothing⟩

end Text

end RefExpand
