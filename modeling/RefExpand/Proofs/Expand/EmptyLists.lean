import Mathlib.Control.Monad.Basic
import RefExpand.Expand.Items
import RefExpand.Proofs.Expand.PerPair
import RefExpand.Proofs.Expand.Run

namespace RefExpand

/-!
# Vectors over no items

A vector over no items is empty at once, unless a function that answers on
nothing stands among its transforms. All other transforms make nothing of
nothing, so the short cut gives what the transforms would have given.
-/

/-- The functions that give a pair even to an empty batch. -/
def ListFunction.answersNothing : ListFunction → Bool
  | .count | .anyHaveMetadataValue => true
  | _ => false

/-- The transform gives a pair even to an empty batch. -/
def Transform.answersNothing
    (transform : Transform) :
    Bool :=
  (transform.functionName?.bind ListFunction.ofName?).any ListFunction.answersNothing

namespace Transform

theorem answersNothing_eq
    (transform : Transform) :
    transform.answersNothing =
      (transform.functionName?.any (Text.sameName "Count") ||
        transform.functionName?.any (Text.sameName "AnyHaveMetadataValue")) := by
  unfold answersNothing
  cases transform.functionName? with
  | none =>
      rfl
  | some name =>
      rw [Option.bind_some, Bool.eq_iff_iff, Option.any_eq_true, Bool.or_eq_true]
      change _ ↔ Text.sameName ListFunction.count.name name = true ∨
        Text.sameName ListFunction.anyHaveMetadataValue.name name = true
      simp only [← ListFunction.ofName?_eq_some_iff]
      constructor
      · rintro ⟨function, isNamed, answers⟩
        cases function with
        | count =>
            exact .inl isNamed
        | anyHaveMetadataValue =>
            exact .inr isNamed
        | _ =>
            cases answers
      · rintro (isNamed | isNamed)
        · exact ⟨_, isNamed, rfl⟩
        · exact ⟨_, isNamed, rfl⟩

end Transform

/-- The names that leave the short cut are those of the functions that answer on nothing. -/
theorem ItemVector.countsNothing_eq_any
    (vector : ItemVector) :
    vector.countsNothing = vector.transforms.any Transform.answersNothing := by
  rw [Bool.eq_iff_iff]
  simp only [countsNothing, hasFunction, Bool.or_eq_true, List.any_eq_true,
    Transform.answersNothing_eq, and_or_left, exists_or]

namespace Pipeline

variable {pipeline : Pipeline} {transform : Transform}

/-- A step makes nothing of nothing, unless it answers on nothing. -/
theorem run_nil
    {step : TransformStep}
    (needsPairs : step.listFunction?.any ListFunction.answersNothing = false)
    {pairs : List ItemPair}
    (ran : pipeline.run step [] = .ok pairs) :
    pairs = [] := by
  by_cases perPair : step.actsPerPair = true
  · exact (run_splits perPair).nil ran
  · -- What is left are the functions that look at the whole batch.
    cases step with
    | quoted _ | modifier _ | member _ _ =>
        exact absurd rfl perPair
    | list function arguments =>
        cases function with
        | count | anyHaveMetadataValue =>
            cases needsPairs
        | directoriesAbove | directoryName | distinctWithCase | distinct | reverse =>
            cases ran
            rfl
        | _ =>
            exact absurd rfl perPair

/-- A transform that succeeds makes nothing of nothing, unless it answers on nothing. -/
theorem apply_nil
    (needsPairs : transform.answersNothing = false)
    {pairs : List ItemPair}
    (applied : pipeline.apply transform [] = .ok pairs) :
    pairs = [] := by
  obtain ⟨step, resolved, ran⟩ := exists_of_bind_eq_ok applied
  rw [Transform.answersNothing, listFunction?_of_step (eq_ok_of_mapError resolved)] at needsPairs
  exact run_nil needsPairs ran

end Pipeline

namespace ItemPhase

variable {phase : ItemPhase}

/-- So do transforms one after the other. -/
theorem runAll_nil
    {pipeline : Pipeline}
    {transforms : List Transform}
    (needPairs : ∀ transform ∈ transforms, transform.answersNothing = false)
    {pairs : List ItemPair}
    (ran : runAll pipeline transforms [] = .ok pairs) :
    pairs = [] := by
  induction transforms with
  | nil =>
      cases ran
      rfl
  | cons transform rest inductionHypothesis =>
      rw [runAll, List.foldlM_cons] at ran
      obtain ⟨middle, applied, ran⟩ := exists_of_bind_eq_ok ran
      have nothing : middle = [] :=
        Pipeline.apply_nil (needPairs _ List.mem_cons_self) applied
      rw [nothing] at ran
      exact inductionHypothesis
        (fun other isMember => needPairs other (List.mem_cons_of_mem _ isMember)) ran

/--
Where the transforms of a vector over no items succeed, the vector gives what
they give. It gives nothing at once only where they give nothing.
-/
theorem entries_of_no_items
    (goesOn : phase.breaks = false)
    {vector : ItemVector}
    (noItems : phase.items vector.itemType = [])
    {keepsPlaceholders : Bool}
    {pairs : List ItemPair}
    (ran :
      runAll { context := phase.context, keepsPlaceholders, expression := vector.written }
        vector.transforms [] = .ok pairs) :
    phase.entries vector keepsPlaceholders = .ok { pairs, stopped := false } ∧
      (vector.countsNothing = false → pairs = []) := by
  have nothingCounted (silent : vector.countsNothing = false) : pairs = [] := by
    rw [ItemVector.countsNothing_eq_any, List.any_eq_false] at silent
    exact runAll_nil (fun transform isMember => Bool.not_eq_true _ ▸ silent transform isMember) ran
  refine ⟨?_, nothingCounted⟩
  unfold entries
  rw [noItems]
  cases counts : vector.countsNothing with
  | false =>
      rw [nothingCounted counts]
      rfl
  | true =>
      change (phase.runTransforms _ vector.transforms []).mapError _ = _
      rw [runTransforms, goesOn, if_neg Bool.false_ne_true, ran]
      rfl

/-- Behind steps that make nothing of nothing the count is a pair, and goes on as one. -/
theorem entries_of_no_items_counted :
    let phase : ItemPhase :=
      { items := fun _ => []
        options := .items
        context := .onEmptyMachine }
    let vector : ItemVector :=
      { written := "@(A->Reverse()->count()->'%(Identity)x')"
        itemType := "A"
        transforms := [
          { written := "Reverse()", offset := 5, kind := .function "Reverse" "" },
          { written := "count()", offset := 16, kind := .function "count" "" },
          { written := "'%(Identity)x'", offset := 25, kind := .quoted "%(Identity)x" }]
        separator := none }
    phase.entries vector false = .ok { pairs := [.of "0x" none], stopped := false } := by
  intro phase vector
  have ran :
      runAll
          { context := phase.context, keepsPlaceholders := false, expression := vector.written }
          vector.transforms [] =
        .ok [.of "0x" none] := by
    decide +kernel
  have goesOn : phase.breaks = false := by
    decide
  exact (entries_of_no_items goesOn rfl ran).1

end ItemPhase

end RefExpand
