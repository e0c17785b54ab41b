import Mathlib.Data.List.Infix
import RefExpand.Expand.Expander
import RefExpand.Proofs.Expand.MetadataLookups
import RefExpand.Proofs.Expand.PropertyStretches
import RefExpand.Proofs.Scan.Respelling

namespace RefExpand

/-!
# Text with nothing to expand

Openings that open nothing are literal text in every phase. Only the property phase
touches such a text: behind an opening of its own that nothing closes, it puts a lone
literal together as it does several pieces, and so writes slashes for backslashes.
-/

/-- No vector and no metadata reference stands in the text, and nothing closes a `$(`. -/
structure Text.NothingToExpand
    (text : Text) :
    Prop where
  noVector : ∀ part, part <:+ text → ItemVector.read? part = none
  noMetadata : ∀ part, part <:+ text → MetadataReference.read? part = none
  noReference : ∀ inside, '$' :: '(' :: inside <:+ text → closeParen? inside = none

instance (text : Text) : Decidable text.NothingToExpand :=
  decidable_of_iff
    (∀ part ∈ text.tails,
      ItemVector.read? part = none ∧ MetadataReference.read? part = none ∧
        (part.take 2 = "$(".toList → closeParen? (part.drop 2) = none))
    ⟨fun everywhere =>
      { noVector := fun part inside => (everywhere part ((List.mem_tails _ _).mpr inside)).1
        noMetadata := fun part inside => (everywhere part ((List.mem_tails _ _).mpr inside)).2.1
        noReference := fun _ inside => (everywhere _ ((List.mem_tails _ _).mpr inside)).2.2 rfl },
    fun nothing part isTail =>
      have inside := (List.mem_tails _ _).mp isTail
      ⟨nothing.noVector part inside, nothing.noMetadata part inside, fun opens =>
        nothing.noReference (part.drop 2) <| by
          have whole := List.take_append_drop 2 part
          rw [opens] at whole
          exact whole.symm ▸ inside⟩⟩

/-- A text in which nothing is recognised anywhere is left whole. -/
theorem Reader.cut_of_unread_everywhere
    {reader : Reader α}
    {text : Text}
    (unread : ∀ part, part <:+ text → reader.read? part = none) :
    reader.cut text = { found := [], last := text } := by
  induction text with
  | nil =>
      exact cut_nil
  | cons c tail inductionHypothesis =>
      have later : reader.cut tail = { found := [], last := tail } := by
        apply inductionHypothesis
        intro part inside
        exact unread part (inside.trans (List.suffix_cons c tail))
      rw [cut_of_unread (unread _ (List.suffix_refl _)), later]
      rfl

/-- Scanning takes a slash for a backslash. -/
theorem ScansAlike.slashes :
    ScansAlike fun c => if c == '\\' then '/' else c := by
  constructor
  case mark =>
    have noSlash : '/' ∉ scanMarks := by
      decide
    have noBackslash : '\\' ∉ scanMarks := by
      decide
    intro mark isMark c
    by_cases isBackslash : c = '\\'
    · subst isBackslash
      change '/' = mark ↔ '\\' = mark
      exact iff_of_false (fun same => noSlash (same ▸ isMark)) fun same =>
        noBackslash (same ▸ isMark)
    · simp [isBackslash]
  all_goals
    intro c
    by_cases isBackslash : c = '\\'
    · subst isBackslash
      rfl
    · simp [isBackslash]

namespace Text.NothingToExpand

variable {text : Text}

theorem cut_vectors
    (nothing : text.NothingToExpand) :
    ItemVector.cut text = { found := [], last := text } :=
  Reader.cut_of_unread_everywhere nothing.noVector

/-- The phases in front of the items may change backslashes, and no vector comes of it. -/
theorem cut_vectors_adjusted
    (nothing : text.NothingToExpand) :
    ItemVector.cut (Path.adjustSeparators text) =
      { found := [], last := Path.adjustSeparators text } := by
  apply Reader.cut_of_unread_everywhere
  intro part inside
  obtain ⟨before, inText, rfl⟩ := List.suffix_map_iff.mp inside
  exact ScansAlike.slashes.read?_eq_none (nothing.noVector before inText)

theorem replaceAround
    {m : Type → Type}
    [Monad m]
    [LawfulMonad m]
    (nothing : text.NothingToExpand)
    (replace : MetadataReference → m Text) :
    ItemVector.replaceAround replace text = pure text := by
  have cutReferences : MetadataReference.cut text = { found := [], last := text } :=
    Reader.cut_of_unread_everywhere nothing.noMetadata
  simp [ItemVector.replaceAround, MetadataReference.replaceIn, nothing.cut_vectors, cutReferences]

/-- Nothing closes the first opening of a reference, so the whole text is a literal. -/
theorem readAll
    (nothing : text.NothingToExpand) :
    Segment.readAll text = [.literal text] := by
  cases opened : Text.breakOn? "$(" text with
  | none =>
      exact Segment.readAll_of_unopened opened
  | some parts =>
      rcases parts with ⟨before, after⟩
      have inText : '$' :: '(' :: after <:+ text :=
        ⟨before, by simpa using (Text.breakOn?_eq_append opened).symm⟩
      exact Segment.readAll_of_unclosed opened (nothing.noReference after inText)

/-- What the property phase makes of the text, if it sees an opening. -/
theorem propertyText
    (nothing : text.NothingToExpand)
    (phase : PropertyPhase) :
    phase.text text =
      pure (if Text.holds "$(" text then Path.adjustSeparators text else text) := by
  unfold PropertyPhase.text PropertyPhase.value
  rw [Template.read]
  by_cases opened : Text.holds "$(" text = true
  · have nonempty : text.isEmpty = false := by
      cases text with
      | nil =>
          cases opened
      | cons c tail =>
          rfl
    rw [if_pos opened, if_pos opened, nothing.readAll]
    simp [Template.evaluate, Segment.evaluateAll, Segment.evaluate, Piece.assemble, Piece.isBlank,
      nonempty, Piece.text, Value.escaped]
  · rw [if_neg opened, if_neg opened]
    rfl

/-- No phase of the items finds a vector. -/
theorem itemText
    (nothing : text.NothingToExpand)
    (phase : ItemPhase) :
    phase.text text = .ok text ∧
      phase.text (Path.adjustSeparators text) = .ok (Path.adjustSeparators text) := by
  constructor
  · rw [ItemPhase.text, nothing.cut_vectors]
    rfl
  · rw [ItemPhase.text, nothing.cut_vectors_adjusted]
    rfl

end Text.NothingToExpand

namespace Path

theorem adjustSeparators_eq_self_iff
    (path : Text) :
    adjustSeparators path = path ↔ '\\' ∉ path := by
  constructor
  · intro unchanged isMember
    have isChanged : '\\' ∈ adjustSeparators path := unchanged.symm ▸ isMember
    obtain ⟨c, -, becomes⟩ := List.mem_map.mp isChanged
    by_cases isBackslash : c = '\\'
    · simp [isBackslash] at becomes
    · simp [isBackslash] at becomes
  · exact adjustSeparators_of_not_mem

end Path

namespace Expander

variable {expander : Expander} {options : ExpandOptions} {expression : Text}

theorem expandMetadata_of_nothing
    (nothing : expression.NothingToExpand)
    (hasTable : options.intersects .metadata = true → expander.metadata.isSome = true) :
    expander.expandMetadata options expression = pure expression := by
  unfold expandMetadata
  by_cases asks : options.intersects .metadata = true
  · obtain ⟨table, isTable⟩ := Option.isSome_iff_exists.mp (hasTable asks)
    rw [if_pos asks, isTable]
    exact nothing.replaceAround _
  · rw [if_neg asks]

/-- The property phase and the item phase of a text with nothing to expand. -/
theorem text_eq_of_nothing
    (nothing : expression.NothingToExpand)
    (hasTable : options.intersects .metadata = true → expander.metadata.isSome = true) :
    expander.text options expression =
      pure
        (if options.contains .properties = true ∧ Text.holds "$(" expression = true then
          Path.adjustSeparators expression
        else expression) := by
  have itemText := nothing.itemText (expander.itemPhase options)
  have afterItems :
      ∀ text, (expander.itemPhase options).text text = .ok text →
        expander.expandItems options text = pure text := by
    intro text unchanged
    unfold expandItems
    split
    · rw [unchanged]
      rfl
    · rfl
  unfold Expander.text beforeItems
  rw [expandMetadata_of_nothing nothing hasTable, pure_bind]
  by_cases asks : options.contains .properties = true
  · rw [expandProperties, if_pos asks, nothing.propertyText, pure_bind]
    by_cases opened : Text.holds "$(" expression = true
    · rw [if_pos opened, if_pos ⟨asks, opened⟩]
      exact afterItems _ itemText.2
    · rw [if_neg opened, if_neg fun joins => opened joins.2]
      exact afterItems _ itemText.1
  · rw [expandProperties, if_neg asks, pure_bind, if_neg fun joins => asks joins.1]
    exact afterItems _ itemText.1

/--
What becomes of a text with nothing to expand, whatever is asked for. It stays as it is
unless properties are asked for and it holds both an opening and a backslash; then its
backslashes are slashes, and nothing else changes.
-/
theorem text_of_nothing_to_expand
    (expander : Expander)
    (options : ExpandOptions)
    {expression : Text}
    (nothing : expression.NothingToExpand)
    (hasTable : options.intersects .metadata = true → expander.metadata.isSome = true)
    (before : Trace) :
    let joins := options.contains .properties = true ∧ Text.holds "$(" expression = true
    let expanded := (expander.text options expression).runFrom before
    (joins → expanded = (.ok (Path.adjustSeparators expression), before)) ∧
      (¬ joins → expanded = (.ok expression, before)) ∧
      (expanded = (.ok expression, before) ↔ (joins → '\\' ∉ expression)) := by
  intro joins expanded
  have whole :
      expanded = (.ok (if joins then Path.adjustSeparators expression else expression), before) :=
    congrArg (Expansion.runFrom · before) (text_eq_of_nothing nothing hasTable)
  rw [whole]
  by_cases joinsHere : joins
  · simp [joinsHere, Path.adjustSeparators_eq_self_iff]
  · simp [joinsHere]

/-- Stray openings of all three kinds, and a quote that nothing closes. -/
theorem text_of_stray_openings :
    let expander : Expander :=
      { metadata := some (({} : StringMetadata).toTable)
        context := .onEmptyMachine }
    let expression : Text := "a $( 'b @(C-> %("
    expression.NothingToExpand ∧
      (ExpandOptions.all.intersects .metadata = true → expander.metadata.isSome = true) ∧
      (expander.text .all expression).runFrom {} = (.ok expression, {}) := by
  intro expander expression
  have nothing : expression.NothingToExpand := by
    decide +kernel
  have hasTable :
      ExpandOptions.all.intersects .metadata = true → expander.metadata.isSome = true :=
    fun _ => rfl
  have expanded := text_of_nothing_to_expand expander .all nothing hasTable {}
  exact ⟨nothing, hasTable, expanded.2.2.mpr fun _ => by decide⟩

/-- A backslash in front of an opening that nothing closes becomes a slash. -/
theorem not_every_plain_text_kept :
    ¬ ∀ (expander : Expander) (options : ExpandOptions) (expression : Text),
        expression.NothingToExpand →
          (options.intersects .metadata = true → expander.metadata.isSome = true) →
            ((expander.text options expression).runFrom {}).1 = .ok expression := by
  intro always
  let expander : Expander := { context := .onEmptyMachine }
  have nothing : Text.NothingToExpand "a\\b$(" := by
    decide +kernel
  have kept := always expander .properties _ nothing (by decide)
  rw [text_eq_of_nothing nothing (by decide)] at kept
  exact absurd (Except.ok.inj kept) (by decide +kernel)

end Expander

end RefExpand
