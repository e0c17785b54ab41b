import RefExpand.Library.ValueMembers
import RefExpand.Proofs.Value.CompositeFormats

namespace RefExpand

/-!
# Where a number pattern is cut

A pattern that is no row of zeros is cut behind its first byte. That is between two
characters exactly if the first character that is not blank has one byte; otherwise the
run halts, whichever value is formatted, and whether a member or an item of a composite
format asks for it.
-/

namespace NumberPattern

/-- The number of digits that a pattern asks for: those of a row of zeros, or its precision. -/
def requestedWidth? (pattern : Text) : Option Nat :=
  match pattern.trim with
  | [] => none
  | letter :: rest =>
      if (letter :: rest).all (· == '0') then some (rest.length + 1)
      else (readPrecision? rest).join

/-- A pattern that asks for no more digits than a field may have. -/
structure FieldPattern where
  text : Text
  le_of_requested : ∀ width ∈ requestedWidth? text, width ≤ 65535

/-- The cut behind the first byte of a pattern is inside a character. -/
def cutsCharacter (pattern : Text) : Bool :=
  Text.cutsCharacter 1 pattern.trim

/-- How a run ends that cuts a pattern inside its first character. -/
def cutHalt (pattern : Text) : Halt :=
  .cutCharacter 1 pattern.trim

/-- An item with a pattern, as it is written in a template. -/
def writtenItem
    (index : Nat)
    (width : Option Composite.FieldWidth)
    (pattern : Text) :
    Text :=
  '{' :: (Composite.itemText index (width.map (·.count)) (some pattern) ++ ['}'])

/-- A pattern gives a text or no result by every way that leads to it. -/
structure Formats (pattern : Text) : Prop where
  alone (value : Value) : ∃ text, value.formatNumber pattern = .ok text
  called (value : Value) (surroundings : Surroundings) : ∃ text,
    ValueMembers.formatted { receiver := some value, arguments := [.str pattern], surroundings } =
      .ok (.str text)
  filled {arguments : List Value} (index : Fin arguments.length)
    (width : Option Composite.FieldWidth) (rest : Text) (fits : arguments.length ≤ UInt64.size)
    (closed : '}' ∉ pattern) : ∃ text,
    Composite.format arguments (writtenItem index width pattern ++ rest) =
      (Composite.format arguments rest).map (text ++ ·)

/-- A pattern ends the run by every way that leads to it. -/
structure Halts (pattern : Text) : Prop where
  alone (value : Value) : value.formatNumber pattern = .error (cutHalt pattern)
  called (value : Value) (surroundings : Surroundings) :
    ValueMembers.formatted { receiver := some value, arguments := [.str pattern], surroundings } =
      .error (.halted (cutHalt pattern))
  filled {arguments : List Value} (index : Fin arguments.length)
    (width : Option Composite.FieldWidth) (rest : Text) (fits : arguments.length ≤ UInt64.size)
    (closed : '}' ∉ pattern) (noMoment : ∀ moment, arguments.get index ≠ .dateTime moment) :
    Composite.format arguments (writtenItem index width pattern ++ rest) =
      .error (.halted (cutHalt pattern))

/-- The first byte of a text is a part of a longer character. -/
theorem cutsCharacter_one_cons
    (c : Char)
    (rest : Text) :
    Text.cutsCharacter 1 (c :: rest) = decide (c.utf8Size ≠ 1) := by
  have positive := c.utf8Size_pos
  by_cases oneByte : c.utf8Size = 1
  · rw [decide_eq_false (not_not_intro oneByte), Text.cutsCharacter, Text.charAround?, oneByte]
    cases rest <;> rfl
  · have longer : 1 < 0 + c.utf8Size := by
      omega
    rw [decide_eq_true oneByte, Text.cutsCharacter, Text.charAround?, if_neg (by decide),
      if_pos longer]
    rfl

end NumberPattern

open NumberPattern

variable {pattern : Text}

namespace Value

theorem formatNumber_of_cut
    (cut : cutsCharacter pattern = true)
    (value : Value) :
    value.formatNumber pattern = .error (cutHalt pattern) := by
  unfold formatNumber cutHalt
  unfold cutsCharacter at cut
  cases written : pattern.trim with
  | nil =>
      rw [written] at cut
      cases cut
  | cons letter rest =>
      rw [written, cutsCharacter_one_cons, decide_eq_true_eq] at cut
      have noZero : (letter :: rest).all (· == '0') = false := by
        rw [List.all_cons, Bool.and_eq_false_iff, beq_eq_false_iff_ne]
        left
        rintro rfl
        exact cut rfl
      dsimp only
      rw [noZero, if_neg Bool.false_ne_true, if_pos cut]

theorem exists_formatNumber
    (uncut : cutsCharacter pattern = false)
    (value : Value) :
    ∃ text, value.formatNumber pattern = .ok text := by
  unfold formatNumber
  unfold cutsCharacter at uncut
  cases written : pattern.trim with
  | nil =>
      exact ⟨_, rfl⟩
  | cons letter rest =>
      rw [written, cutsCharacter_one_cons, decide_eq_false_iff_not] at uncut
      dsimp only
      rw [if_neg uncut]
      split <;> exact ⟨_, rfl⟩

end Value

/-- The member that formats a number shows what its pattern gives. -/
theorem ValueMembers.formatted_eq
    (value : Value)
    (pattern : Text)
    (surroundings : Surroundings) :
    formatted { receiver := some value, arguments := [.str pattern], surroundings } =
      ((value.formatNumber pattern).mapError .halted).map fun text =>
        .str (text.getD value.raw) := by
  change (do
    let text ← (value.formatNumber pattern).mapError CallError.halted
    return Value.str (text.getD value.raw)) = _
  cases value.formatNumber pattern <;> rfl

namespace Composite

/-- A value that is no moment is formatted by its pattern as a number. -/
theorem formatValue_of_noMoment
    {value : Value}
    (noMoment : ∀ moment, value ≠ .dateTime moment)
    (pattern : Text) :
    formatValue value (some pattern) =
      ((value.formatNumber pattern).mapError .halted).map (·.getD value.raw) := by
  rw [formatValue]
  exact noMoment

theorem exists_formatValue
    (uncut : cutsCharacter pattern = false)
    (value : Value) :
    ∃ text, formatValue value (some pattern) = .ok text := by
  by_cases noMoment : ∀ moment, value ≠ .dateTime moment
  · obtain ⟨text, formatted⟩ := value.exists_formatNumber uncut
    rw [formatValue_of_noMoment noMoment, formatted]
    exact ⟨_, rfl⟩
  · obtain ⟨moment, isMoment⟩ := not_forall.mp noMoment
    rw [not_not.mp isMoment]
    exact ⟨_, rfl⟩

/-- An item gives what its pattern gives for its argument, in front of what follows. -/
theorem format_writtenItem
    {arguments : List Value}
    (fits : arguments.length ≤ UInt64.size)
    (closed : '}' ∉ pattern)
    (index : Fin arguments.length)
    (width : Option FieldWidth)
    (rest : Text) :
    format arguments (writtenItem index width pattern ++ rest) =
      ((formatValue (arguments.get index) (some pattern)).map (Piece.padded width)).bind fun filled =>
        (format arguments rest).map (filled ++ ·) := by
  have closed' : ∀ text ∈ some pattern, '}' ∉ text := by
    rintro text ⟨⟩
    exact closed
  rw [writtenItem, List.cons_append, List.append_assoc, List.singleton_append,
    format_item (close_not_mem_itemText _ _ closed') (head?_itemText _ _ _),
    fillInner_itemText fits]
  rfl

end Composite

namespace NumberPattern

theorem formats_of_uncut
    (uncut : cutsCharacter pattern = false) :
    Formats pattern where
  alone := Value.exists_formatNumber uncut
  called := by
    intro value surroundings
    obtain ⟨text, formatted⟩ := value.exists_formatNumber uncut
    rw [ValueMembers.formatted_eq, formatted]
    exact ⟨_, rfl⟩
  filled := by
    intro arguments index width rest fits closed
    obtain ⟨text, formatted⟩ := Composite.exists_formatValue uncut (arguments.get index)
    rw [Composite.format_writtenItem fits closed, formatted]
    exact ⟨_, rfl⟩

theorem halts_of_cut
    (cut : cutsCharacter pattern = true) :
    Halts pattern where
  alone := Value.formatNumber_of_cut cut
  called := by
    intro value surroundings
    rw [ValueMembers.formatted_eq, value.formatNumber_of_cut cut]
    rfl
  filled := by
    intro arguments index width rest fits closed noMoment
    rw [Composite.format_writtenItem fits closed, Composite.formatValue_of_noMoment noMoment,
      Value.formatNumber_of_cut cut]
    rfl

/--
A pattern gives a text or no result for every value, called for or filled in, exactly
if its cut is between two characters; it ends the run exactly if the cut is inside one.
-/
theorem patterns_halt_exactly_at_cuts
    (pattern : FieldPattern) :
    (Formats pattern.text ↔ cutsCharacter pattern.text = false) ∧
      (Halts pattern.text ↔ cutsCharacter pattern.text = true) := by
  have exclusive (formats : Formats pattern.text) (halts : Halts pattern.text) : False := by
    obtain ⟨text, formatted⟩ := formats.alone .null
    rw [halts.alone] at formatted
    cases formatted
  cases cut : cutsCharacter pattern.text with
  | false =>
      have formats := formats_of_uncut cut
      exact ⟨iff_of_true formats rfl, iff_of_false (exclusive formats) Bool.false_ne_true⟩
  | true =>
      have halts := halts_of_cut cut
      exact ⟨iff_of_false (exclusive · halts) Bool.noConfusion, iff_of_true halts rfl⟩

/-- A pattern that begins with a letter of two bytes ends the run. -/
theorem not_every_pattern_cut_between_characters :
    ¬ ∀ (pattern : FieldPattern) (value : Value),
        ∃ text, value.formatNumber pattern.text = .ok text := by
  intro claimed
  obtain ⟨text, formatted⟩ := claimed ⟨"é", by decide⟩ (.int 5)
  rw [Value.formatNumber_of_cut (by decide)] at formatted
  cases formatted

end NumberPattern

end RefExpand
