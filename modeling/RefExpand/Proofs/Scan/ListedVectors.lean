import Mathlib.Data.List.Infix
import RefExpand.Proofs.Scan.VectorClose

namespace RefExpand

/-!
# Vectors in a list

Cutting a list spares a vector exactly if the part of it that is exposed to the
cutter holds no semicolon. This is so where every opening outside the vectors
was read as a vector, so that the cutter is outside again between them.
-/

namespace Text

/-- The two characters at which the list cutter enters a vector. -/
def opening : Text := ['@', '(']

namespace CutterMode

theorem step_close
    {mode : CutterMode}
    (outside : mode.cuts = true) :
    mode.step ')' = .outside := by
  cases mode with
  | outside =>
      rfl
  | atSign =>
      rfl
  | vector =>
      cases outside
  | quoted =>
      cases outside

/-- At an opening the cutter enters a vector, also behind an at sign. -/
theorem run_opening
    {mode : CutterMode}
    (outside : mode.cuts = true)
    (rest : Text) :
    mode.run ('@' :: '(' :: rest) = CutterMode.vector.run rest := by
  cases mode with
  | outside =>
      rfl
  | atSign =>
      rfl
  | vector =>
      cases outside
  | quoted =>
      cases outside

/-- A text without openings does not take the cutter into a vector. -/
theorem cuts_run_of_plain
    {text : Text}
    (plain : ¬ opening <:+: text) :
    (CutterMode.outside.run text).cuts = true := by
  -- Behind an at sign an opening may be completed by the next character.
  have both :
      (¬ opening <:+: text → (CutterMode.outside.run text).cuts = true) ∧
        (¬ opening <:+: '@' :: text → (CutterMode.atSign.run text).cuts = true) := by
    clear plain
    induction text with
    | nil =>
        exact ⟨fun _ => rfl, fun _ => rfl⟩
    | cons c rest inductionHypothesis =>
        obtain ⟨fromOutside, fromSign⟩ := inductionHypothesis
        constructor
        · intro plain
          by_cases isSign : c = '@'
          · subst isSign
            exact fromSign plain
          · have stays : CutterMode.outside.step c = .outside := by
              simp [step, isSign]
            rw [run_cons, stays]
            exact fromOutside fun within => plain (within.trans (List.suffix_cons c rest).isInfix)
        · intro plain
          have shorter : ¬ opening <:+: c :: rest := fun within =>
            plain (within.trans (List.suffix_cons '@' (c :: rest)).isInfix)
          have notOpen : c ≠ '(' := by
            rintro rfl
            exact plain (List.prefix_append opening rest).isInfix
          by_cases isSign : c = '@'
          · subst isSign
            exact fromSign shorter
          · have leaves : CutterMode.atSign.step c = .outside := by
              simp [step, notOpen, isSign]
            rw [run_cons, leaves]
            exact fromOutside fun within =>
              shorter (within.trans (List.suffix_cons c rest).isInfix)
  exact both.1 plain

end CutterMode

/-- No split point of the text lies in the span of so many bytes. -/
def Spares (text : Text) (start size : Nat) : Prop :=
  ∀ point, IsSplitPoint text point → ¬ (start ≤ point ∧ point < start + size)

/-- A stretch is spared if the cutter cuts at no semicolon of it. -/
theorem spares_iff
    (before stretch after : Text) :
    Spares (before ++ (stretch ++ after)) before.utf8Size stretch.utf8Size ↔
      ∀ front back,
        stretch = front ++ ';' :: back →
          (CutterMode.outside.run (before ++ front)).cuts = false := by
  constructor
  · rintro spares front back rfl
    rw [← Bool.not_eq_true]
    intro cuts
    refine spares _ (isSplitPoint_iff.mpr ⟨before ++ front, back ++ after, by simp, cuts, rfl⟩) ?_
    have semicolon : utf8Size (';' :: back) = 1 + utf8Size back :=
      rfl
    simp only [utf8Size_append, semicolon]
    omega
  · rintro uncut point isSplit ⟨fromStart, beforeEnd⟩
    obtain ⟨front, back, shape, cuts, rfl⟩ := isSplitPoint_iff.mp isSplit
    obtain ⟨front, rfl, shape⟩ := exists_of_append_eq_append shape fromStart
    have semicolon : utf8Size [';'] = 1 :=
      rfl
    rw [utf8Size_append] at beforeEnd
    have whole : front ++ [';'] ++ back = stretch ++ after := by
      simpa using shape.symm
    obtain ⟨inside, rfl, -⟩ :=
      exists_of_append_eq_append whole (by rw [utf8Size_append, semicolon]; omega)
    rw [uncut front inside (by simp)] at cuts
    cases cuts

end Text

namespace ItemVector

/-- The functions of a vector leave nothing to the list cutter that could open another vector. -/
def ClosesForLists (vector : ItemVector) : Prop :=
  ∃ behind, vector.exposed? = some behind ∧ ¬ Text.opening <:+: behind

instance (vector : ItemVector) : Decidable vector.ClosesForLists :=
  decidable_of_iff (∃ behind ∈ vector.exposed?, ¬ Text.opening <:+: behind) Iff.rfl

theorem closesForLists_of_quoted
    {text rest : Text}
    {vector : ItemVector}
    (read : read? text = some (vector, rest))
    (allQuoted : ∀ transform ∈ vector.transforms, transform.functionName? = none) :
    vector.ClosesForLists :=
  ⟨[], exposed?_of_quoted read allQuoted, by simp [Text.opening]⟩

section Entered

variable {text rest : Text} {vector : ItemVector} {behind : Text} {mode : Text.CutterMode}

/-- A vector, as the list cutter takes it: an opening, an inside, a close, and what is behind. -/
theorem exists_of_exposed?
    (read : read? text = some (vector, rest))
    (exposed : vector.exposed? = some behind) :
    ∃ inside,
      vector.written = '@' :: '(' :: (inside ++ ')' :: behind) ∧
        Text.CutterMode.vector.run (inside ++ [')']) = .outside ∧
        (∀ front back,
          inside = front ++ ';' :: back →
            (Text.CutterMode.vector.run front).cuts = false) ∧
        (behind = [] ∨ ∃ later, behind = later ++ [')']) := by
  obtain ⟨whole, written⟩ := exists_written read
  rw [exposed?, written] at exposed
  obtain ⟨inside, shape, leaves, uncut⟩ := Text.exists_of_behindClose? exposed
  have atEnd : behind = [] ∨ ∃ later, behind = later ++ [')'] := by
    rcases behind.eq_nil_or_concat with nothing | ⟨later, last, concat⟩
    · exact .inl nothing
    · rw [concat, List.concat_eq_append] at shape
      have lasts := congrArg List.getLast? shape
      have isClose : last = ')' := by
        simpa [List.getLast?_cons] using lasts.symm
      exact .inr ⟨later, by rw [concat, List.concat_eq_append, isClose]⟩
  exact ⟨inside, by rw [written]; simpa using shape, leaves, uncut, atEnd⟩

variable
  (read : read? text = some (vector, rest))
  (exposed : vector.exposed? = some behind)
  (noOpening : ¬ Text.opening <:+: behind)
  (outside : mode.cuts = true)

include read exposed noOpening outside

/-- Behind a vector the cutter is outside again. -/
theorem run_written :
    mode.run vector.written = .outside := by
  obtain ⟨inside, written, leaves, -, atEnd⟩ := exists_of_exposed? read exposed
  have behindInside :
      mode.run vector.written = Text.CutterMode.outside.run behind := by
    rw [written, Text.CutterMode.run_opening outside, ← List.singleton_append,
      ← List.append_assoc, Text.CutterMode.run_append, leaves]
  rcases atEnd with rfl | ⟨later, rfl⟩
  · rw [behindInside, Text.CutterMode.run_nil]
  · have plain : ¬ Text.opening <:+: later := fun within =>
      noOpening (within.trans (List.prefix_append later [')']).isInfix)
    rw [behindInside, Text.CutterMode.run_append]
    exact Text.CutterMode.step_close (Text.CutterMode.cuts_run_of_plain plain)

/-- A vector that the cutter enters from outside is cut at its exposed semicolons only. -/
theorem uncut_iff :
    (∀ front back,
        vector.written = front ++ ';' :: back → (mode.run front).cuts = false) ↔
      ';' ∉ behind := by
  obtain ⟨inside, written, leaves, uncut, -⟩ := exists_of_exposed? read exposed
  constructor
  · intro spared isMember
    obtain ⟨front, back, rfl⟩ := List.append_of_mem isMember
    have plain : ¬ Text.opening <:+: front := fun within =>
      noOpening (within.trans (List.prefix_append front (';' :: back)).isInfix)
    have notCut :=
      spared ('@' :: '(' :: (inside ++ ')' :: front)) back (by rw [written]; simp)
    rw [Text.CutterMode.run_opening outside, ← List.singleton_append, ← List.append_assoc,
      Text.CutterMode.run_append, leaves, Text.CutterMode.cuts_run_of_plain plain] at notCut
    cases notCut
  · intro noSemicolon front back shape
    rw [written] at shape
    -- The semicolon is neither of the two characters of the opening.
    obtain ⟨front, rfl, insideShape⟩ :
        ∃ later,
          front = '@' :: '(' :: later ∧ inside ++ ')' :: behind = later ++ ';' :: back := by
      match front with
      | [] =>
          simp at shape
      | [_] =>
          simp at shape
      | _ :: _ :: later =>
          simp only [List.cons_append, List.cons.injEq] at shape
          obtain ⟨rfl, rfl, shape⟩ := shape
          exact ⟨later, rfl, shape⟩
    rw [Text.CutterMode.run_opening outside]
    rcases List.append_eq_append_iff.mp insideShape with
      ⟨later, rfl, closeFirst⟩ | ⟨later, inFront, semicolonFirst⟩
    · cases later with
      | nil =>
          simp at closeFirst
      | cons c later =>
          rw [List.cons_append, List.cons.injEq] at closeFirst
          exact absurd (closeFirst.2 ▸ List.mem_append_right later List.mem_cons_self) noSemicolon
    · cases later with
      | nil =>
          simp at semicolonFirst
      | cons c later =>
          rw [List.cons_append, List.cons.injEq] at semicolonFirst
          obtain ⟨rfl, -⟩ := semicolonFirst
          exact uncut front later inFront

end Entered

/-- The list cutter finds its way through a stretch and the vector behind it. -/
def Passable (stretch : Text × ItemVector) : Prop :=
  ¬ Text.opening <:+: stretch.1 ∧
    ∃ text rest, read? text = some (stretch.2, rest) ∧ stretch.2.ClosesForLists

/-- Through such stretches the cutter comes out where it went in. -/
theorem run_spread
    {found : List (Text × ItemVector)}
    (passable : ∀ stretch ∈ found, Passable stretch) :
    Text.CutterMode.outside.run (Cut.spread (·.written) found) = .outside := by
  induction found with
  | nil =>
      rfl
  | cons stretch found inductionHypothesis =>
      obtain ⟨plain, text, rest, read, behind, exposed, noOpening⟩ :=
        passable stretch List.mem_cons_self
      rw [Cut.spread_cons, Text.CutterMode.run_append, Text.CutterMode.run_append,
        run_written read exposed noOpening (Text.CutterMode.cuts_run_of_plain plain)]
      exact inductionHypothesis fun later isMember =>
        passable later (List.mem_cons_of_mem _ isMember)

section Listed

variable
  {text : Text}
  (openingsRead : ∀ stretch ∈ (cut text).found, ¬ Text.opening <:+: stretch.1)
  (functionsClose :
    ∀ vector ∈ (cut text).values,
      (∃ transform ∈ vector.transforms, transform.functionName? ≠ none) →
        vector.ClosesForLists)

include openingsRead functionsClose

theorem passable_of_found :
    ∀ stretch ∈ (cut text).found, Passable stretch := by
  intro stretch isFound
  obtain ⟨earlier, later, found⟩ := List.append_of_mem isFound
  obtain ⟨rest, -, read⟩ := Reader.read_of_found reader_takes found
  refine ⟨openingsRead stretch isFound, _, rest, read, ?_⟩
  by_cases hasFunction : ∃ transform ∈ stretch.2.transforms, transform.functionName? ≠ none
  · exact functionsClose _ (List.mem_map_of_mem isFound) hasFunction
  · refine closesForLists_of_quoted read fun transform isMember => ?_
    exact Decidable.not_not.mp fun isFunction => hasFunction ⟨transform, isMember, isFunction⟩

/--
Splitting a list spares a vector exactly if no semicolon of it is exposed, and
then the whole vector stands in one piece. A vector without functions is always
spared.
-/
theorem spared_iff_nothing_exposed
    {offset : Nat}
    {vector : ItemVector}
    (captured : (offset, vector) ∈ (cut text).placed (·.written) 0) :
    (Text.Spares text offset vector.written.utf8Size ↔
        ∀ behind ∈ vector.exposed?, ';' ∉ behind) ∧
      (Text.Spares text offset vector.written.utf8Size →
        ∃ piece ∈ Text.splitList text, vector.written <:+: piece) ∧
      ((∀ transform ∈ vector.transforms, transform.functionName? = none) →
        Text.Spares text offset vector.written.utf8Size) := by
  obtain ⟨earlier, gap, later, found, rfl⟩ := Cut.exists_of_mem_place captured
  obtain ⟨rest, shape, read⟩ := Reader.read_of_found reader_takes found
  have passable := passable_of_found openingsRead functionsClose
  have isFound : (gap, vector) ∈ (cut text).found := by
    rw [found]
    exact List.mem_append_right _ List.mem_cons_self
  obtain ⟨plain, -, -, -, behind, exposed, noOpening⟩ := passable _ isFound
  have outside :
      (Text.CutterMode.outside.run (Cut.spread (·.written) earlier ++ gap)).cuts = true := by
    rw [Text.CutterMode.run_append, run_spread fun stretch isMember =>
      passable stretch (found ▸ List.mem_append_left _ isMember)]
    exact Text.CutterMode.cuts_run_of_plain plain
  have inText :
      text = Cut.spread (·.written) earlier ++ gap ++ (vector.written ++ rest) := by
    rw [List.append_assoc]
    exact shape
  generalize Cut.spread (·.written) earlier ++ gap = before at outside inText
  rw [Nat.zero_add, exposed, inText]
  have spares := Text.spares_iff before vector.written rest
  simp only [Text.CutterMode.run_append] at spares
  have sparedIff :
      Text.Spares (before ++ (vector.written ++ rest)) before.utf8Size vector.written.utf8Size ↔
        ';' ∉ behind :=
    spares.trans (uncut_iff read exposed noOpening outside)
  refine ⟨by simpa using sparedIff, fun spared => ?_, fun allQuoted => ?_⟩
  · obtain ⟨inside, written⟩ := exists_written read
    have trimmed : Text.trim vector.written = vector.written := by
      rw [written, ← List.cons_append]
      exact Text.trim_cons_append_singleton (by decide) (by decide) _
    refine Text.exists_piece_of_uncut (by simp [written]) trimmed fun front back split => ?_
    rw [Text.CutterMode.run_append]
    exact spares.mp spared front back split
  · have nothing : behind = [] :=
      Option.some.inj (exposed.symm.trans (exposed?_of_quoted read allQuoted))
    exact sparedIff.mpr (by simp [nothing])

end Listed

/-- The function in the second vector exposes a parenthesis and nothing that could be cut. -/
theorem function_vector_spared :
    let text : Text := "x;@(B->'%(Y);z', ';');@(A->Count())"
    let vector : ItemVector :=
      { written := "@(A->Count())"
        itemType := "A"
        transforms := [{ written := "Count()", offset := 5, kind := .function "Count" "" }]
        separator := none }
    Text.Spares text 22 13 ∧ ∃ piece ∈ Text.splitList text, vector.written <:+: piece := by
  intro text vector
  have openingsRead : ∀ stretch ∈ (cut text).found, ¬ Text.opening <:+: stretch.1 := by
    decide +kernel
  have functionsClose :
      ∀ vector ∈ (cut text).values,
        (∃ transform ∈ vector.transforms, transform.functionName? ≠ none) →
          vector.ClosesForLists := by
    decide +kernel
  have captured : (22, vector) ∈ (cut text).placed (·.written) 0 := by
    decide +kernel
  have spared := spared_iff_nothing_exposed openingsRead functionsClose captured
  have nothingExposed : ∀ behind ∈ vector.exposed?, ';' ∉ behind := by
    decide +kernel
  exact ⟨spared.1.mpr nothingExposed, spared.2.1 (spared.1.mpr nothingExposed)⟩

/-- Behind the argument list of a function the semicolon of a separator is cut at. -/
theorem not_every_vector_spared :
    ¬ ∀ (text : Text) (offset : Nat) (vector : ItemVector),
        (offset, vector) ∈ (cut text).placed (·.written) 0 →
          Text.Spares text offset vector.written.utf8Size ∧
            ∃ piece ∈ Text.splitList text, vector.written <:+: piece := by
  intro always
  let vector : ItemVector :=
    { written := "@(A->Count(), ';')"
      itemType := "A"
      transforms := [{ written := "Count()", offset := 5, kind := .function "Count" "" }]
      separator := some { text := ";", offset := 15 } }
  have captured : (0, vector) ∈ (cut vector.written).placed (·.written) 0 := by
    decide +kernel
  have split : Text.IsSplitPoint vector.written 15 :=
    ⟨["@(A->Count(), '".toList], ["')".toList], by simp, by simp, by decide +kernel,
      by decide +kernel⟩
  exact (always _ 0 vector captured).1 15 split (by decide +kernel)

end ItemVector

end RefExpand
