import Mathlib.Control.Monad.Basic
import RefExpand.Proofs.Expand.OptionChange
import RefExpand.Proofs.Expand.PerPair
import RefExpand.Proofs.Expand.Run
import RefExpand.Proofs.Text.Escaping

namespace RefExpand

/-!
# Stopping at the first entry that is not empty

Asked to stop, the item phase takes the last transform of a vector one pair at
a time, and drops what stands behind a vector at which it stopped. What it has
written by then is a beginning of the whole text, and it is not empty, since it
stopped at an entry that is not. A vector that ends in the search for the
directory of each spec is left out: its pairs cannot be taken one by one.
-/

/-- The last transform of the vector finds the directory of each spec. -/
def ItemVector.endsInDirectories
    (vector : ItemVector) :
    Bool :=
  vector.transforms.getLast?.any Transform.findsDirectories

/-- The text is the whole one, or a beginning of it that is not empty. -/
def Text.CutFrom
    (whole short : Text) :
    Prop :=
  short = whole ∨ (short <+: whole ∧ short ≠ [])

namespace Text.CutFrom

variable {whole short : Text}

theorem isPrefix
    (cut : CutFrom whole short) :
    short <+: whole := by
  rcases cut with rfl | ⟨beginning, -⟩
  · exact List.prefix_refl _
  · exact beginning

/-- What is left is empty only of the empty text. -/
theorem eq_nil_iff
    (cut : CutFrom whole short) :
    short = [] ↔ whole = [] := by
  rcases cut with rfl | ⟨beginning, some⟩
  · exact Iff.rfl
  · have wholeSome : whole ≠ [] := by
      rintro rfl
      exact some (List.prefix_nil.mp beginning)
    simp [some, wholeSome]

theorem append
    (front : Text)
    (cut : CutFrom whole short) :
    CutFrom (front ++ whole) (front ++ short) := by
  rcases cut with rfl | ⟨beginning, some⟩
  · exact .inl rfl
  · exact .inr ⟨(List.prefix_append_right_inj front).mpr beginning,
      List.append_ne_nil_of_right_ne_nil front some⟩

end Text.CutFrom

/-- The joined texts of pairs among which work stopped are a beginning that is not empty. -/
theorem ItemVector.join_of_stopped
    (vector : ItemVector)
    {full kept : List ItemPair}
    (shortened : Shortened full kept true) :
    vector.join kept <+: vector.join full ∧ vector.join kept ≠ [] := by
  cases shortened with
  | stopped beginning some =>
      obtain ⟨pair, isMember, notEmpty⟩ := some
      constructor
      · exact Text.join_prefix vector.joint (beginning.map ItemPair.text)
      · refine Text.join_ne_nil vector.joint (List.mem_map_of_mem isMember) ?_
        intro blank
        rw [ItemPair.isEmpty, blank] at notEmpty
        cases notEmpty

namespace ItemPhase

/-- The item phase, asked to stop. -/
def breaking
    (phase : ItemPhase) :
    ItemPhase :=
  { phase with options := phase.options.breaking }

theorem breaks_breaking
    (phase : ItemPhase) :
    phase.breaking.breaks = true := by
  have kept :
      (phase.options.bits ||| ExpandOptions.breakOnNotEmpty.bits) &&&
          ExpandOptions.breakOnNotEmpty.bits =
        ExpandOptions.breakOnNotEmpty.bits := by
    ext i isBit
    simp +contextual
  rw [breaks, breaking, ExpandOptions.contains, ExpandOptions.breaking, ExpandOptions.union,
    kept, beq_self_eq_true]

variable {phase : ItemPhase}

/-- The transforms of a vector succeed when asked to stop, and stop within what they give. -/
theorem runTransforms_shortened
    (goesOn : phase.breaks = false)
    {pipeline : Pipeline}
    {transforms : List Transform}
    (noDirectories : transforms.getLast?.any Transform.findsDirectories = false)
    {batch : List ItemPair}
    {found : VectorEntries}
    (ran : phase.runTransforms pipeline transforms batch = .ok found) :
    found.stopped = false ∧
      ∃ kept stopped,
        phase.breaking.runTransforms pipeline transforms batch =
            .ok { pairs := kept, stopped } ∧
          Shortened found.pairs kept stopped := by
  rw [runTransforms, goesOn] at ran
  obtain ⟨pairs, ranAll, isFound⟩ := exists_of_bind_eq_ok ran
  cases isFound
  refine ⟨rfl, ?_⟩
  rw [runTransforms, breaks_breaking]
  cases last : transforms.getLast? with
  | none =>
      rw [List.getLast?_eq_none_iff] at last
      subst last
      cases ranAll
      exact ⟨batch, _, rfl, .ofAll batch⟩
  | some final =>
      obtain ⟨leading, rfl⟩ := List.getLast?_eq_some_iff.mp last
      rw [last] at noDirectories
      rw [runAll, List.foldlM_append] at ranAll
      obtain ⟨middle, ranLeading, ranFinal⟩ := exists_of_bind_eq_ok ranAll
      rw [List.foldlM_cons] at ranFinal
      obtain ⟨atEnd, applied, isEnd⟩ := exists_of_bind_eq_ok ranFinal
      cases isEnd
      obtain ⟨kept, stopped, stoppedEarly, shortened⟩ :=
        Pipeline.applyUntilFound_shortened noDirectories applied
      refine ⟨kept, stopped, ?_, shortened⟩
      simp only [List.dropLast_concat]
      rw [runAll, ranLeading]
      simp only [bind, Except.bind, stoppedEarly]
      rfl

/-- A vector that gives its entries gives some of them when asked to stop. -/
theorem entries_shortened
    (goesOn : phase.breaks = false)
    {vector : ItemVector}
    (noDirectories : vector.endsInDirectories = false)
    {keepsPlaceholders : Bool}
    {found : VectorEntries}
    (given : phase.entries vector keepsPlaceholders = .ok found) :
    found.stopped = false ∧
      ∃ kept stopped,
        phase.breaking.entries vector keepsPlaceholders = .ok { pairs := kept, stopped } ∧
          Shortened found.pairs kept stopped := by
  unfold entries at given ⊢
  dsimp only at given ⊢
  change
    found.stopped = false ∧ ∃ kept stopped,
      (if (phase.items vector.itemType).isEmpty && !vector.countsNothing then _ else _) = _ ∧ _
  split at given
  · rename_i noItems
    cases given
    refine ⟨rfl, [], false, ?_, .whole⟩
    rw [if_pos noItems]
  · rename_i someItems
    obtain ⟨batch, started, located⟩ := exists_of_bind_eq_ok given
    have startedToo : phase.breaking.startBatch (phase.items vector.itemType) = .ok batch :=
      started
    cases ran :
        phase.runTransforms
          { context := phase.context, keepsPlaceholders, expression := vector.written }
          vector.transforms batch with
    | error failure =>
        rw [ran] at located
        cases located
    | ok entries =>
        rw [ran] at located
        cases located
        obtain ⟨isWhole, kept, stopped, stoppedEarly, shortened⟩ :=
          runTransforms_shortened goesOn noDirectories ran
        refine ⟨isWhole, kept, stopped, ?_, shortened⟩
        rw [if_neg someItems]
        change (phase.breaking.startBatch (phase.items vector.itemType) >>= _) = _
        rw [startedToo]
        exact congrArg (Except.mapError (·.withLocation phase.context.location)) stoppedEarly

theorem vectorText_eq_join
    (keepsLength : phase.options.contains .truncate = false)
    (vector : ItemVector)
    (pairs : List ItemPair) :
    phase.vectorText vector pairs = vector.join pairs := by
  rw [vectorText, keepsLength]
  rfl

/-- Where all vectors are replaced, they are when asked to stop, up to the one stopped at. -/
theorem replaceVectors_cutFrom
    (goesOn : phase.breaks = false)
    (keepsLength : phase.options.contains .truncate = false)
    {last : Text}
    {vectors : List (Text × ItemVector)}
    (noDirectories : ∀ found ∈ vectors, found.2.endsInDirectories = false)
    {whole : Text}
    (replaced : phase.replaceVectors last vectors = .ok whole) :
    ∃ short,
      phase.breaking.replaceVectors last vectors = .ok short ∧ Text.CutFrom whole short := by
  have keepsLengthToo : phase.breaking.options.contains .truncate = false := by
    rw [← keepsLength]
    exact phase.options.contains_breaking _ (by decide)
  induction vectors generalizing whole with
  | nil =>
      cases replaced
      exact ⟨_, rfl, .inl rfl⟩
  | cons head rest inductionHypothesis =>
      obtain ⟨before, vector⟩ := head
      obtain ⟨found, given, replaced⟩ := exists_of_bind_eq_ok replaced
      obtain ⟨isWhole, kept, stopped, stoppedEarly, shortened⟩ :=
        entries_shortened goesOn (noDirectories _ List.mem_cons_self) given
      simp only [isWhole] at replaced
      obtain ⟨later, replacedLater, isText⟩ := exists_of_bind_eq_ok replaced
      cases isText
      rw [replaceVectors, stoppedEarly, vectorText_eq_join keepsLength]
      cases stopped with
      | true =>
          obtain ⟨beginning, some⟩ := vector.join_of_stopped shortened
          refine ⟨before ++ vector.join kept, ?_, .inr ⟨?_, ?_⟩⟩
          · simp only [bind, Except.bind, vectorText_eq_join keepsLengthToo]
            rfl
          · rw [List.append_assoc, List.prefix_append_right_inj]
            exact beginning.trans (List.prefix_append _ later)
          · exact List.append_ne_nil_of_right_ne_nil before some
      | false =>
          cases shortened
          obtain ⟨short, shortLater, cut⟩ :=
            inductionHypothesis
              (fun other isMember => noDirectories other (List.mem_cons_of_mem _ isMember))
              replacedLater
          refine ⟨before ++ vector.join found.pairs ++ short, ?_, cut.append _⟩
          simp only [bind, Except.bind, vectorText_eq_join keepsLengthToo, shortLater]
          rfl

/-- The item phase succeeds when asked to stop, and its text is cut from the whole one. -/
theorem text_cutFrom
    (goesOn : phase.breaks = false)
    (keepsLength : phase.options.contains .truncate = false)
    {expression : Text}
    (noDirectories :
      ∀ vector ∈ (ItemVector.cut expression).values, vector.endsInDirectories = false)
    {whole : Text}
    (replaced : phase.text expression = .ok whole) :
    ∃ short, phase.breaking.text expression = .ok short ∧ Text.CutFrom whole short :=
  replaceVectors_cutFrom goesOn keepsLength
    (fun _ isMember => noDirectories _ (List.mem_map_of_mem isMember)) replaced

end ItemPhase

namespace Expander

/--
Where the text of an expression is expanded without stopping and without
truncation, it is also expanded when asked to stop at the first entry that is
not empty. That gives a beginning of the whole text, empty only if the whole
text is. No vector that comes to the item phase may end in the search for the
directory of each spec.
-/
theorem text_of_breakOnNotEmpty
    (expander : Expander)
    {options : ExpandOptions}
    (expandsItems : options.contains .items = true)
    (keepsLength : options.contains .truncate = false)
    (goesOn : options.contains .breakOnNotEmpty = false)
    {expression : Text}
    {before after : Trace}
    (noDirectories :
      ∀ expanded middle,
        (expander.beforeItems options expression).runFrom before = (.ok expanded, middle) →
          ∀ vector ∈ (ItemVector.cut expanded).values, vector.endsInDirectories = false)
    {whole : Text}
    (run : (expander.text options expression).runFrom before = (.ok whole, after)) :
    ∃ short,
      (expander.text (options.union .breakOnNotEmpty) expression).runFrom before =
          (.ok short, after) ∧
        short <+: whole ∧ (short = [] ↔ whole = []) := by
  have expandsItemsToo : options.breaking.contains .items = true := by
    rw [← expandsItems]
    exact options.contains_breaking _ (by decide)
  rw [text, Expansion.runFrom_bind] at run
  rcases beforeRun : (expander.beforeItems options expression).runFrom before with
    ⟨result, middle⟩
  rw [beforeRun] at run
  cases result with
  | error failure =>
      cases run
  | ok expanded =>
      simp only [expandItems, expandsItems, if_true, Expansion.runFrom_ofExcept] at run
      obtain ⟨replaced, rfl⟩ := Prod.mk.inj run
      obtain ⟨short, shortReplaced, cut⟩ :=
        (expander.itemPhase options).text_cutFrom goesOn keepsLength
          (noDirectories expanded middle beforeRun) replaced
      refine ⟨short, ?_, cut.isPrefix, cut.eq_nil_iff⟩
      change (expander.text options.breaking expression).runFrom before = _
      rw [text, Expansion.runFrom_bind, beforeItems_breaking, beforeRun]
      simp only [expandItems, expandsItemsToo, if_true, Expansion.runFrom_ofExcept]
      exact Prod.ext shortReplaced rfl

/-- The second of three items is the first with a culture: what stands behind it is dropped. -/
theorem text_of_breakOnNotEmpty_at_second_item :
    let files : List Item := [
      { itemType := "F".toList, spec := "a".toList },
      { itemType := "F".toList, spec := "b".toList,
        metadata := [("Culture".toList, "fr".toList)] },
      { itemType := "F".toList, spec := "c".toList,
        metadata := [("Culture".toList, "de".toList)] }]
    let expander : Expander :=
      { items := fun itemType => if itemType = "F".toList then files else []
        context := .onEmptyMachine }
    let expression := "@(Missing)x@(F->'%(Culture)', ', ')y@(F->Count())".toList
    let whole := "x, fr, dey3".toList
    (expander.text .items expression).runFrom {} = (.ok whole, {}) ∧
      ∃ short,
        (expander.text (.union .items .breakOnNotEmpty) expression).runFrom {} =
            (.ok short, {}) ∧
          short <+: whole ∧ (short = [] ↔ whole = []) := by
  intro files expander expression whole
  have replaced : (expander.itemPhase .items).text expression = .ok whole := by
    decide +kernel
  have run : (expander.text .items expression).runFrom {} = (.ok whole, {}) :=
    Prod.ext replaced rfl
  have noDirectories :
      ∀ vector ∈ (ItemVector.cut expression).values, vector.endsInDirectories = false := by
    decide +kernel
  refine ⟨run, text_of_breakOnNotEmpty expander rfl rfl rfl ?_ run⟩
  intro expanded middle beforeRun
  cases beforeRun
  exact noDirectories

end Expander

end RefExpand
