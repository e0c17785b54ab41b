import RefExpand.Proofs.Expand.PropertyStretches

namespace RefExpand

/-!
# References as substitution

An expression of literals and references to properties is expanded by putting
the value of each name in the place of its reference. The values are copied: a
reference that stands in a value is not looked up. Unless the expression is a
reference and nothing else, backslashes become slashes, also those of a value.
-/

/-- A reference to a property, perhaps with blanks around its name. -/
structure PlainReference where
  before : Text
  name : Text
  after : Text
  blankBefore :
    ∀ c ∈ before, isBlank c = true
  named :
    name.isName = true
  blankAfter :
    ∀ c ∈ after, isBlank c = true

namespace PlainReference

/-- What stands between the parentheses. -/
def inside
    (reference : PlainReference) :
    Text :=
  reference.before ++ reference.name ++ reference.after

/-- The reference as it is written. -/
def written
    (reference : PlainReference) :
    Text :=
  '$' :: '(' :: (reference.inside ++ [')'])

theorem read_inside
    (reference : PlainReference) :
    Request.read reference.inside = .property reference.name := by
  refine Request.read_of_trim ?_ reference.named
  rw [inside, Text.trim, Text.trimBy_between reference.blankBefore reference.blankAfter]
  exact Text.trim_of_isName reference.named

/-- Neither blanks nor names hold quotes or parentheses. -/
theorem balanced_inside
    (reference : PlainReference) :
    Balanced reference.inside := by
  have ofName : Balanced reference.name :=
    .ofNameContinue (Text.continues_of_isName reference.named)
  exact ((Balanced.ofBlanks reference.blankBefore).append ofName).append
    (.ofBlanks reference.blankAfter)

end PlainReference

/-- A literal and the reference behind it. -/
structure PlainStretch where
  literal : Text
  unopened :
    Text.holds "$(" literal = false
  reference : PlainReference

namespace PlainStretch

/-- The literal and the reference as they are written. -/
def text
    (stretch : PlainStretch) :
    Text :=
  stretch.literal ++ stretch.reference.written

/-- The literal with a value behind it. -/
def filled
    (valueOf : Text → Text)
    (stretch : PlainStretch) :
    Text :=
  stretch.literal ++ valueOf stretch.reference.name

/-- The segments that a stretch is read as. -/
def segments
    (stretch : PlainStretch) :
    List Segment :=
  [.literal stretch.literal,
    .reference stretch.reference.written (.property stretch.reference.name)]

/-- The pieces that a stretch becomes. -/
def pieces
    (valueOf : Text → Text)
    (stretch : PlainStretch) :
    List Piece :=
  [.literal stretch.literal, .value (.str (valueOf stretch.reference.name))]

/-- A stretch is a literal and a reference, whatever follows. -/
theorem readAll_append
    (stretch : PlainStretch)
    (rest : Text) :
    Segment.readAll (stretch.text ++ rest) = stretch.segments ++ Segment.readAll rest := by
  have read :=
    Segment.readAll_literal_reference stretch.unopened stretch.reference.balanced_inside rest
  rw [stretch.reference.read_inside] at read
  simpa [text, segments, PlainReference.written] using read

theorem holds_append
    (stretch : PlainStretch)
    (rest : Text) :
    Text.holds "$(" (stretch.text ++ rest) = true := by
  have cut :=
    Text.breakOn?_append_reference stretch.unopened (stretch.reference.inside ++ ')' :: rest)
  have shape :
      stretch.text ++ rest =
        stretch.literal ++ '$' :: '(' :: (stretch.reference.inside ++ ')' :: rest) := by
    simp [text, PlainReference.written]
  rw [Text.holds, shape, cut]
  rfl

end PlainStretch

/-- Literals with references between them, of which there is at least one. -/
structure PlainExpression where
  first : PlainStretch
  others : List PlainStretch
  last : Text
  unopened :
    Text.holds "$(" last = false

namespace PlainExpression

/-- The literals with the references behind them. -/
def stretches
    (expression : PlainExpression) :
    List PlainStretch :=
  expression.first :: expression.others

/-- The text of an expression. -/
def text
    (expression : PlainExpression) :
    Text :=
  expression.stretches.flatMap PlainStretch.text ++ expression.last

/-- The text of an expression with a value in the place of each reference. -/
def filled
    (valueOf : Text → Text)
    (expression : PlainExpression) :
    Text :=
  expression.stretches.flatMap (·.filled valueOf) ++ expression.last

/-- The expression is one reference and nothing else. -/
def isLone
    (expression : PlainExpression) :
    Bool :=
  expression.others.isEmpty && expression.first.literal.isEmpty && expression.last.isEmpty

/-- What an expression stands for: a lone value as it is, or else a text without backslashes. -/
def substituted
    (valueOf : Text → Text)
    (expression : PlainExpression) :
    Text :=
  if expression.isLone then valueOf expression.first.reference.name
  else (expression.filled valueOf).map fun c => if c = '\\' then '/' else c

/-- The names that stand in an expression, in their order. -/
def names
    (expression : PlainExpression) :
    List Text :=
  expression.stretches.map (·.reference.name)

theorem readAll_stretches
    {last : Text}
    (unopened : Text.holds "$(" last = false)
    (stretches : List PlainStretch) :
    Segment.readAll (stretches.flatMap PlainStretch.text ++ last) =
      stretches.flatMap PlainStretch.segments ++ [.literal last] := by
  induction stretches with
  | nil =>
      refine Segment.readAll_of_unopened ?_
      simpa [Text.holds] using unopened
  | cons stretch rest inductionHypothesis =>
      rw [List.flatMap_cons, List.append_assoc, stretch.readAll_append, inductionHypothesis,
        List.flatMap_cons, List.append_assoc]

theorem read_text
    (expression : PlainExpression) :
    Template.read expression.text =
      .mixed
        (expression.stretches.flatMap PlainStretch.segments ++ [.literal expression.last]) := by
  have opened : Text.holds "$(" expression.text = true := by
    rw [text, stretches, List.flatMap_cons, List.append_assoc]
    exact expression.first.holds_append _
  rw [Template.read, if_pos opened, text, readAll_stretches expression.unopened]

end PlainExpression

namespace PropertyPhase

variable (phase : PropertyPhase)

/-- The value of a name: the table's, or else the one reserved for the file, or else none. -/
def meaning
    (name : Text) :
    Text :=
  ((phase.table.value? name).or
    (phase.context.location.file.bind fun file => reservedProperty? file name)).getD []

theorem valueOf_fst
    (name : Text) :
    (phase.valueOf name).1 = phase.meaning name := by
  unfold valueOf meaning
  cases phase.table.value? name with
  | some value =>
      rfl
  | none =>
      cases phase.context.location.file.bind fun file => reservedProperty? file name <;> rfl

/-- A lookup gives the value of the name and is noted. -/
theorem runFrom_lookup
    (name : Text)
    (before : Trace) :
    (phase.lookup name).runFrom before =
      (.ok (.str (phase.meaning name)),
        { before with usage := before.usage ++ [(name, (phase.valueOf name).2)] }) := by
  rw [← valueOf_fst]
  rfl

/-- The lookups of names, in their order. -/
def lookups
    (names : List Text) :
    List (Text × PropertyUsage) :=
  names.map fun name => (name, (phase.valueOf name).2)

/-- Stretches become pieces one after the other, and each name is looked up once. -/
theorem evaluateAll_stretches
    (stretches : List PlainStretch)
    (last : Text)
    (before : Trace) :
    (Segment.evaluateAll phase
          (stretches.flatMap PlainStretch.segments ++ [.literal last])).runFrom before =
      (.ok (stretches.flatMap (·.pieces phase.meaning) ++ [.literal last]),
        { before with
          usage := before.usage ++ phase.lookups (stretches.map (·.reference.name)) }) := by
  induction stretches generalizing before with
  | nil =>
      simp [Segment.evaluateAll, Segment.evaluate, lookups]
  | cons stretch rest inductionHypothesis =>
      have later :=
        inductionHypothesis
          { before with
            usage :=
              before.usage ++
                [(stretch.reference.name, (phase.valueOf stretch.reference.name).2)] }
      simp only [List.flatMap_cons, PlainStretch.segments, List.cons_append, List.nil_append,
        Segment.evaluateAll, Segment.evaluate, Request.evaluate]
      simp only [Expansion.runFrom_bind, Expansion.runFrom_pure, runFrom_lookup, later]
      simp [lookups, PlainStretch.pieces]

end PropertyPhase

/-- Pieces that are not one value alone are put together to their texts. -/
theorem Piece.assemble_of_several
    {pieces : List Piece}
    (notLone : ∀ content, pieces.filter (!·.isBlank) ≠ [.value content]) :
    assemble true pieces = .str (Path.adjustSeparators (pieces.flatMap text)) := by
  rw [← flatMap_text_filter]
  unfold assemble
  split
  · rename_i nothing
    rw [nothing]
    rfl
  · rename_i content lone
    exact absurd lone (notLone content)
  · rfl

namespace PlainExpression

variable (expression : PlainExpression) (valueOf : Text → Text)

/-- The pieces that an expression becomes. -/
def pieces :
    List Piece :=
  expression.stretches.flatMap (·.pieces valueOf) ++ [.literal expression.last]

theorem flatMap_text_pieces :
    (expression.pieces valueOf).flatMap Piece.text = expression.filled valueOf := by
  have ofStretch :
      ∀ stretch : PlainStretch,
        (stretch.pieces valueOf).flatMap Piece.text = stretch.filled valueOf := by
    intro stretch
    simp [PlainStretch.pieces, PlainStretch.filled, Piece.text, Value.escaped]
  simp [pieces, filled, List.flatMap_append, List.flatMap_assoc, ofStretch, Piece.text]

/-- The pieces of a lone reference are its value, next to blank ones. -/
theorem assemble_lone
    (lone : expression.isLone = true) :
    Piece.assemble true (expression.pieces valueOf) =
      .str (valueOf expression.first.reference.name) := by
  simp only [isLone, Bool.and_eq_true, List.isEmpty_iff] at lone
  obtain ⟨⟨noOthers, noLiteral⟩, noLast⟩ := lone
  simp [pieces, stretches, noOthers, noLiteral, noLast, PlainStretch.pieces, Piece.assemble,
    Piece.isBlank]

/-- Unless a reference stands alone, its value is not the only piece. -/
theorem filter_pieces_ne
    (notLone : expression.isLone = false)
    (content : Value) :
    (expression.pieces valueOf).filter (!·.isBlank) ≠ [.value content] := by
  intro oneValue
  simp only [pieces, stretches, List.flatMap_cons, PlainStretch.pieces, List.cons_append,
    List.nil_append, List.filter_cons, Piece.isBlank] at oneValue
  cases noLiteral : expression.first.literal.isEmpty with
  | false =>
      simp [noLiteral] at oneValue
  | true =>
      -- The first value is the only piece, so that neither a value nor a text is behind it.
      cases shape : expression.others with
      | nil =>
          cases noLast : expression.last.isEmpty with
          | false =>
              simp [noLiteral, shape, noLast] at oneValue
          | true =>
              simp [isLone, noLiteral, shape, noLast] at notLone
      | cons second others =>
          simp [noLiteral, shape] at oneValue

theorem assemble_joined
    (notLone : expression.isLone = false) :
    Piece.assemble true (expression.pieces valueOf) =
      .str (Path.adjustSeparators (expression.filled valueOf)) := by
  rw [Piece.assemble_of_several (expression.filter_pieces_ne valueOf notLone),
    flatMap_text_pieces]

theorem assemble_pieces :
    Piece.assemble true (expression.pieces valueOf) = .str (expression.substituted valueOf) := by
  unfold substituted
  cases lone : expression.isLone with
  | true =>
      exact expression.assemble_lone valueOf lone
  | false =>
      rw [expression.assemble_joined valueOf lone, Path.adjustSeparators]
      simp

end PlainExpression

namespace PropertyPhase

end PropertyPhase

end RefExpand
