import RefExpand.Proofs.Expand.Failures
import RefExpand.Proofs.Expand.Reentry

namespace RefExpand

/-!
# The value of an expression, stretch by stretch

An expression in which a reference stands has the value of its stretches, evaluated from
left to right and put together. So it has no value if one of its references has none, and
a reference that stands alone has the value of what it asks for.
-/

namespace Stretch

theorem holds_of_mem_cut
    {inside text : Text}
    (isReference : reference inside ∈ cut text) :
    Text.holds "$(" text = true := by
  rw [cut] at isReference
  split at isReference
  · simp at isReference
  · rename_i before after opened
    rw [Text.holds, opened]
    rfl

/-- A reference is cut out of its written form, between two blank literals. -/
theorem cut_written
    {inside : Text}
    (nested : Nested inside) :
    cut (written inside) = [.literal [], .reference inside, .literal []] := by
  have opened : Text.breakOn? "$(".toList (written inside) = some ([], inside ++ [')']) :=
    Text.breakOn?_reference _
  obtain ⟨span, closed, rfl, atEnd⟩ := nested.closeParen? []
  have nothingBehind : cut span.rest = [.literal []] := by
    rw [atEnd, cut]
    rfl
  rw [cut]
  split
  · rename_i unopened
    rw [opened] at unopened
    cases unopened
  · rename_i before after opened'
    rw [opened] at opened'
    cases opened'
    split
    · rename_i unclosed
      rw [closed] at unclosed
      cases unclosed
    · rename_i other closed'
      rw [closed] at closed'
      cases closed'
      rw [nothingBehind]

end Stretch

namespace PropertyPhase

variable {phase : PropertyPhase}

/-- The value of an expression is put together from its stretches. -/
theorem value_eq_assemble
    {inside expression : Text}
    (isReference : Stretch.reference inside ∈ Stretch.cut expression) :
    phase.value expression =
      Piece.assemble true <$>
        (Stretch.cut expression).mapM (phase.stretchLevel phase.enter) := by
  have opened : Text.holds "$(" expression = true :=
    Stretch.holds_of_mem_cut isReference
  have level := congrFun phase.level_enter (.expression true expression)
  rw [PropertyPhase.level, if_pos opened] at level
  rw [map_eq_pure_bind]
  exact level.symm

/-- An expression has no value if one of its references has none. -/
theorem value_fails
    {inside expression : Text}
    (isReference : Stretch.reference inside ∈ Stretch.cut expression)
    (fails : ((Request.read inside).evaluate phase (Stretch.written inside)).Fails) :
    (phase.value expression).Fails := by
  rw [phase.value_eq_assemble isReference]
  refine Expansion.Fails.map (.mapM_of_mem isReference ?_) _
  rw [stretchLevel, bodyLevel_enter]
  exact fails.bind _

/-- The expression ends with the failure of the first reference that fails. -/
theorem runFrom_value_of_error
    {expression inside : Text}
    {front rest : List Stretch}
    (shape : Stretch.cut expression = front ++ .reference inside :: rest)
    {before middle after : Trace}
    {pieces : List Piece}
    {failure : Failure}
    (reached :
      (front.mapM (phase.stretchLevel phase.enter)).runFrom before = (.ok pieces, middle))
    (fails :
      ((Request.read inside).evaluate phase (Stretch.written inside)).runFrom middle =
        (.error failure, after)) :
    (phase.value expression).runFrom before = (.error failure, after) := by
  have isReference : Stretch.reference inside ∈ Stretch.cut expression := by
    simp [shape]
  have here :
      (phase.stretchLevel phase.enter (.reference inside)).runFrom middle =
        (.error failure, after) := by
    rw [stretchLevel, bodyLevel_enter, Expansion.runFrom_bind, fails]
  rw [phase.value_eq_assemble isReference, shape, List.mapM_append, List.mapM_cons,
    Expansion.runFrom_map, Expansion.runFrom_bind, reached]
  dsimp only
  rw [bind_assoc, Expansion.runFrom_bind, here]
  rfl

/-- A reference that stands alone has the value of what it asks for. -/
theorem value_written
    {inside : Text}
    (nested : Nested inside) :
    phase.value (Stretch.written inside) =
      (Request.read inside).evaluate phase (Stretch.written inside) := by
  have stretches := Stretch.cut_written nested
  have isReference : Stretch.reference inside ∈ Stretch.cut (Stretch.written inside) := by
    simp [stretches]
  rw [phase.value_eq_assemble isReference, stretches]
  simp [List.mapM_cons, stretchLevel, bodyLevel_enter, Piece.assemble, Piece.isBlank]

end PropertyPhase

end RefExpand
