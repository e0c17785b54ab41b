import RefExpand.Expand.Expander
import RefExpand.Proofs.Expand.ItemStretches
import RefExpand.Proofs.Expand.Run

namespace RefExpand

/-!
# The text form and the value form

The text form writes every value out before the item phase, and the value form
hands texts alone to it. Nothing comes of the difference: no other value has an
at sign in its escaped text, so the item phase finds no vector in it.
-/

/-- Of the reserved characters only two occur in the escaped form of a value that is no text. -/
theorem Value.not_mem_escaped
    {value : Value}
    (noText : value.text? = none)
    {c : Char}
    (reserved : Text.isReserved c = true)
    (noPercent : c ≠ '%')
    (noSemicolon : c ≠ ';') :
    c ∉ value.escaped := by
  have notEscaped : ∀ text, c ∉ Text.escape text :=
    Text.not_mem_escape reserved noPercent
  have noEquals : c ≠ '=' := by
    rintro rfl
    exact absurd reserved (by decide)
  cases value with
  | str text =>
      cases noText
  | null =>
      exact List.not_mem_nil
  | seq items =>
      intro isMember
      rcases Text.mem_of_mem_join isMember with inSeparator | ⟨piece, isPiece, inPiece⟩
      · exact noSemicolon (List.mem_singleton.mp inSeparator)
      · obtain ⟨item, -, rfl⟩ := List.mem_map.mp isPiece
        exact notEscaped item inPiece
  | table entries =>
      intro isMember
      rcases Text.mem_of_mem_join isMember with inSeparator | ⟨piece, isPiece, inPiece⟩
      · exact noSemicolon (List.mem_singleton.mp inSeparator)
      · obtain ⟨⟨key, content⟩, -, rfl⟩ := List.mem_map.mp isPiece
        rcases List.mem_append.mp inPiece with inKey | inContent
        · exact notEscaped key.raw inKey
        · rcases List.mem_cons.mp inContent with isEquals | inContent
          · exact noEquals isEquals
          · exact notEscaped content.raw inContent
  | _ =>
      exact notEscaped _

namespace ItemPhase

theorem text_of_not_mem
    {phase : ItemPhase}
    {expression : Text}
    (noVector : '@' ∉ expression) :
    phase.text expression = .ok expression := by
  have whole : phase.text (expression ++ []) = (phase.text []).map (expression ++ ·) :=
    text_append noVector []
  rw [text_nil, List.append_nil] at whole
  rw [whole, Except.map, List.append_nil]

end ItemPhase

namespace Expander

variable (expander : Expander) (options : ExpandOptions)

/-- The item phase leaves the escaped form of a value that is no text as it is. -/
theorem expandItems_escaped
    {value : Value}
    (noText : value.text? = none) :
    expander.expandItems options value.escaped = pure value.escaped := by
  unfold expandItems
  split
  · have noVector : '@' ∉ value.escaped :=
      Value.not_mem_escaped noText (by decide) (by decide) (by decide)
    rw [ItemPhase.text_of_not_mem noVector]
    rfl
  · rfl

/-- Writing a value out and expanding items in it is expanding items and writing out the result. -/
theorem expandItems_of_value
    (value : Value) :
    expander.expandItems options value.escaped =
      Value.escaped <$>
        (match value with
        | .str text => do return .str (← expander.expandItems options text)
        | other => return other) := by
  cases value with
  | str text =>
      rw [map_bind]
      exact (bind_pure _).symm
  | _ =>
      exact expander.expandItems_escaped options rfl

/-- As computations, the text form is the value form with the value written out. -/
theorem text_eq_map_value
    (expression : Text) :
    expander.text options expression =
      Value.escaped <$> expander.value options expression := by
  unfold text value beforeItems expandProperties
  rw [bind_assoc, map_bind]
  refine bind_congr fun expanded => ?_
  dsimp only
  split
  · rw [PropertyPhase.text, bind_assoc, map_bind]
    refine bind_congr fun value => ?_
    rw [pure_bind]
    exact expander.expandItems_of_value options value
  · rw [pure_bind, pure_bind]
    exact expander.expandItems_of_value options (.str expanded)

/--
From every trace the text form and the value form end alike: both fail with the
same failure, or the text is the escaped form of the value, whatever its type.
They leave the same trace behind.
-/
theorem text_runs_as_value
    (expression : Text)
    (before : Trace) :
    (expander.text options expression).runFrom before =
      (((expander.value options expression).runFrom before).1.map Value.escaped,
        ((expander.value options expression).runFrom before).2) := by
  rw [text_eq_map_value, Expansion.runFrom_map]

end Expander

end RefExpand
