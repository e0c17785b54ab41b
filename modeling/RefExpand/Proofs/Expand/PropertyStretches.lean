import RefExpand.Expand.Properties
import RefExpand.Proofs.Expand.Run
import RefExpand.Proofs.Template.Read

namespace RefExpand

/-!
# The property phase, stretch by stretch

The text of an expression is put together from its stretches: those without
dollar signs stay, and a reference becomes the escaped text of its value. Only
backslashes are touched afterwards, so without them that is the result.
-/

theorem Path.adjustSeparators_of_not_mem
    {path : Text}
    (noBackslash : '\\' ∉ path) :
    adjustSeparators path = path := by
  have each : ∀ c ∈ path, (if c == '\\' then '/' else c) = id c := by
    intro c isMember
    rw [if_neg, id]
    rw [beq_iff_eq]
    rintro rfl
    exact noBackslash isMember
  rw [adjustSeparators, List.map_congr_left each, List.map_id]

namespace Piece

theorem text_of_isBlank
    {piece : Piece}
    (blank : piece.isBlank = true) :
    piece.text = [] := by
  cases piece with
  | literal text =>
      exact List.isEmpty_iff.mp blank
  | value content =>
      cases blank

/-- Leaving blank pieces out leaves no text out. -/
theorem flatMap_text_filter
    (pieces : List Piece) :
    (pieces.filter (!·.isBlank)).flatMap text = pieces.flatMap text := by
  induction pieces with
  | nil =>
      rfl
  | cons piece rest inductionHypothesis =>
      cases blank : piece.isBlank with
      | true =>
          rw [List.filter_cons_of_neg (by simp [blank]), List.flatMap_cons,
            text_of_isBlank blank, inductionHypothesis, List.nil_append]
      | false =>
          rw [List.filter_cons_of_pos (by simp [blank]), List.flatMap_cons,
            List.flatMap_cons, inductionHypothesis]

/-- Without backslashes the pieces put together are the texts of the pieces. -/
theorem escaped_assemble
    {pieces : List Piece}
    (noBackslash : '\\' ∉ pieces.flatMap text)
    (adjusts : Bool) :
    (assemble adjusts pieces).escaped = pieces.flatMap text := by
  rw [← flatMap_text_filter] at noBackslash ⊢
  unfold assemble
  split
  · rename_i nothing
    rw [nothing]
    rfl
  · rename_i content lone
    rw [lone]
    simp [text]
  · cases adjusts with
    | true =>
        exact Path.adjustSeparators_of_not_mem noBackslash
    | false =>
        rfl

end Piece

namespace PropertyPhase

variable {phase : PropertyPhase}

/-- A lone reference yields its value as it is. -/
theorem evaluate_lone
    (adjusts : Bool)
    (written : Text)
    (request : Request) :
    (Template.mixed [.literal [], .reference written request, .literal []]).evaluate phase
        adjusts =
      Request.evaluate phase written request := by
  simp [Template.evaluate, Segment.evaluateAll, Segment.evaluate, Piece.assemble, Piece.isBlank]

/-- The texts of the pieces of an expression, put together. -/
def joined
    (phase : PropertyPhase)
    (expression : Text) :
    Expansion Text :=
  (·.flatMap Piece.text) <$> Segment.evaluateAll phase (Segment.readAll expression)

theorem joined_nil :
    phase.joined [] = pure [] := by
  rw [joined, Segment.readAll_of_unopened rfl]
  rfl

theorem joined_append
    {front : Text}
    (noReference : '$' ∉ front)
    (rest : Text) :
    phase.joined (front ++ rest) = (front ++ ·) <$> phase.joined rest := by
  obtain ⟨first, others, shape⟩ := Segment.readAll_eq_cons rest
  unfold joined
  rw [Segment.readAll_append noReference, shape]
  simp [Segment.prepend, Segment.evaluateAll, Segment.evaluate, Piece.text]

/-- A reference becomes the escaped text of its value. -/
theorem joined_reference
    {inside : Text}
    (balanced : Balanced inside)
    (rest : Text) :
    phase.joined ('$' :: '(' :: (inside ++ ')' :: rest)) =
      Request.evaluate phase ('$' :: '(' :: (inside ++ [')'])) (Request.read inside) >>=
        fun value => (value.escaped ++ ·) <$> phase.joined rest := by
  unfold joined
  rw [Segment.readAll_reference balanced]
  simp [Segment.evaluateAll, Segment.evaluate, Piece.text]

/-- A reference to a property becomes its value. -/
theorem joined_property
    {name : Text}
    (named : name.isName = true)
    (rest : Text) :
    phase.joined ('$' :: '(' :: (name ++ ')' :: rest)) =
      phase.lookup name >>= fun value => (value.escaped ++ ·) <$> phase.joined rest := by
  have balanced : Balanced name :=
    .ofNameContinue (Text.continues_of_isName named)
  rw [joined_reference balanced, Request.read_of_isName named, Request.evaluate]

/-- If what is put together holds no backslash, it is the text of the expression. -/
theorem runFrom_text
    {expression result : Text}
    {before after : Trace}
    (run : (phase.joined expression).runFrom before = (.ok result, after))
    (noBackslash : '\\' ∉ result) :
    (phase.text expression).runFrom before = (.ok result, after) := by
  unfold joined at run
  rw [map_eq_pure_bind, Expansion.runFrom_bind] at run
  unfold text value
  rw [Template.read]
  split
  · rw [Template.evaluate, bind_assoc, Expansion.runFrom_bind]
    rcases segmentsRun :
      (Segment.evaluateAll phase (Segment.readAll expression)).runFrom before with
      ⟨found, middle⟩
    rw [segmentsRun] at run
    cases found with
    | error failure =>
        cases run
    | ok pieces =>
        cases run
        exact Prod.ext (congrArg Except.ok (Piece.escaped_assemble noBackslash true)) rfl
  -- A plain template is not cut into segments, but its one segment would be the same text.
  · rename_i absent
    have unopened : Text.breakOn? "$(" expression = none := by
      simpa [Text.holds] using absent
    rw [Segment.readAll_of_unopened unopened] at run
    simpa [Segment.evaluateAll, Segment.evaluate, Template.evaluate, Piece.text,
      Value.escaped] using run

/-- The text of a reference to a property is its value, and the lookup is noted. -/
theorem runFrom_text_property
    {name : Text}
    (named : name.isName = true)
    (noBackslash : '\\' ∉ (phase.valueOf name).1)
    (before : Trace) :
    (phase.text ('$' :: '(' :: (name ++ [')']))).runFrom before =
      (.ok (phase.valueOf name).1,
        { before with usage := before.usage ++ [(name, (phase.valueOf name).2)] }) := by
  refine runFrom_text ?_ noBackslash
  rw [joined_property named, joined_nil]
  have shape : (phase.valueOf name).1 ++ [] = (phase.valueOf name).1 :=
    List.append_nil _
  conv => right; rw [← shape]
  rfl

end PropertyPhase

end RefExpand
