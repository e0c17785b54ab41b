import RefExpand.Proofs.Text.Escaping
import RefExpand.Text.Part

namespace RefExpand

/-!
# Texts between separators

A text that is split at the characters of a class is the library's split of a list,
so a separator divides the pieces of what stands before it from those of what
stands behind it, and the pieces are joined to the text again. No piece holds a
character of the class.
-/

namespace Text

variable {p : Char → Bool}

theorem splitAtChars_eq_splitOnP
    (p : Char → Bool)
    (text : Text) :
    splitAtChars p text = text.splitOnP p := by
  induction text with
  | nil =>
      rw [splitAtChars, List.splitOnP_nil]
  | cons c rest inductionHypothesis =>
      rw [splitAtChars, List.splitOnP_cons_eq_if_modifyHead, inductionHypothesis]
      cases pieces : List.splitOnP p rest with
      | nil =>
          exact absurd pieces (List.splitOnP_ne_nil p rest)
      | cons first others =>
          rfl

theorem splitAtChars_of_free
    {text : Text}
    (free : ∀ c ∈ text, p c = false) :
    splitAtChars p text = [text] := by
  rw [splitAtChars_eq_splitOnP, List.splitOnP_eq_singleton free]

/-- A separator divides the pieces. -/
theorem splitAtChars_append_cut
    {cut : Char}
    (cuts : p cut = true)
    (front back : Text) :
    splitAtChars p (front ++ cut :: back) = splitAtChars p front ++ splitAtChars p back := by
  simp only [splitAtChars_eq_splitOnP]
  exact List.splitOnP_append_cons front back cuts

theorem free_of_mem_splitAtChars
    {text piece : Text}
    (isPiece : piece ∈ splitAtChars p text) :
    ∀ c ∈ piece, p c = false := by
  induction text generalizing piece with
  | nil =>
      rw [List.mem_singleton.mp isPiece]
      exact fun c isMember => absurd isMember List.not_mem_nil
  | cons c rest inductionHypothesis =>
      rw [splitAtChars] at isPiece
      split at isPiece
      · rcases List.mem_cons.mp isPiece with rfl | inRest
        · exact fun c isMember => absurd isMember List.not_mem_nil
        · exact inductionHypothesis inRest
      · rename_i kept
        cases pieces : splitAtChars p rest with
        | nil =>
            rw [pieces] at isPiece
            rw [List.mem_singleton.mp isPiece]
            simpa using kept
        | cons first others =>
            rw [pieces] at isPiece inductionHypothesis
            rcases List.mem_cons.mp isPiece with rfl | inOthers
            · rw [List.forall_mem_cons]
              exact ⟨Bool.not_eq_true _ ▸ kept, inductionHypothesis List.mem_cons_self⟩
            · exact inductionHypothesis (List.mem_cons_of_mem _ inOthers)

theorem not_mem_of_mem_splitAtChars
    {cut : Char}
    {text piece : Text}
    (isPiece : piece ∈ splitAtChars (· == cut) text) :
    cut ∉ piece := by
  intro isMember
  simpa using free_of_mem_splitAtChars isPiece cut isMember

/-- Between its separators a text is its pieces, empty ones included. -/
theorem join_splitAtChars
    (cut : Char)
    (text : Text) :
    join [cut] (splitAtChars (· == cut) text) = text := by
  rw [splitAtChars_eq_splitOnP]
  exact List.intercalate_splitOn cut

/-- Pieces without the separator are found again in the joined text. -/
theorem splitAtChars_join
    {cut : Char}
    {pieces : List Text}
    (present : pieces ≠ [])
    (free : ∀ piece ∈ pieces, cut ∉ piece) :
    splitAtChars (· == cut) (join [cut] pieces) = pieces := by
  rw [splitAtChars_eq_splitOnP]
  exact List.splitOn_intercalate cut free present

theorem free_of_not_mem
    {cut : Char}
    {text : Text}
    (absent : cut ∉ text) :
    ∀ c ∈ text, (c == cut) = false := by
  intro c isMember
  rw [beq_eq_false_iff_ne]
  rintro rfl
  exact absent isMember

/-- The last separator divides a text. -/
theorem breakAtLast?_append_cons
    {stop : Char}
    (stops : p stop = true)
    (front : Text)
    {back : Text}
    (free : ∀ c ∈ back, p c = false) :
    breakAtLast? p (front ++ stop :: back) = some (front, back) := by
  have reversed : (front ++ stop :: back).reverse = back.reverse ++ stop :: front.reverse := by
    simp
  have absent : ∀ c ∈ back.reverse, p c = false := by
    simpa using free
  rw [breakAtLast?, reversed, breakAt?_append_cons absent stops]
  simp

theorem breakAt?_of_free
    {text : Text}
    (free : ∀ c ∈ text, p c = false) :
    breakAt? p text = none := by
  induction text with
  | nil =>
      rfl
  | cons c rest inductionHypothesis =>
      rw [List.forall_mem_cons] at free
      rw [breakAt?, free.1, inductionHypothesis free.2]
      rfl

theorem breakAtLast?_of_free
    {text : Text}
    (free : ∀ c ∈ text, p c = false) :
    breakAtLast? p text = none := by
  rw [breakAtLast?, breakAt?_of_free (by simpa using free), Option.map_none]

/-- A text has no separator, or a last one. -/
theorem free_or_exists_last
    (p : Char → Bool)
    (text : Text) :
    (∀ c ∈ text, p c = false) ∨
      ∃ front stop back,
        text = front ++ stop :: back ∧ p stop = true ∧ ∀ c ∈ back, p c = false := by
  induction text with
  | nil =>
      exact .inl fun c isMember => absurd isMember List.not_mem_nil
  | cons c rest inductionHypothesis =>
      rcases inductionHypothesis with free | ⟨front, stop, back, rfl, stops, free⟩
      · cases isStop : p c with
        | true =>
            exact .inr ⟨[], c, rest, rfl, isStop, free⟩
        | false =>
            exact .inl (List.forall_mem_cons.mpr ⟨isStop, free⟩)
      · exact .inr ⟨c :: front, stop, back, rfl, stops, free⟩

end Text

end RefExpand
