import RefExpand.Proofs.Expand.StepNames

namespace RefExpand

/-!
# Transforms that look at one pair at a time

What such a transform makes of a batch is what it makes of the front, followed
by what it makes of the rest. So taking the pairs one by one, and stopping at
the first that gives something, leaves a beginning of what the batch gives.
Directory names do not split: a spec that was met before gets the directory
that was found then.
-/

namespace Pipeline

/-- The outcome of a batch is that of its front, followed by that of what stands behind. -/
def Splits
    (action : List ItemPair → Except Failure (List ItemPair)) :
    Prop :=
  ∀ front back,
    action (front ++ back) = do return (← action front) ++ (← action back)

namespace Splits

variable {action : List ItemPair → Except Failure (List ItemPair)}

theorem ofEach
    (each : ItemPair → Except Failure (List ItemPair)) :
    Splits fun batch => do return (← batch.mapM each).flatten := by
  intro front back
  simp [List.mapM_append]

theorem ofMap
    (change : ItemPair → ItemPair) :
    Splits fun batch => .ok (batch.map change) := by
  intro front back
  simp [bind, Except.bind, pure, Except.pure]

/-- A batch without pairs gives none. -/
theorem nil
    (splits : Splits action)
    {pairs : List ItemPair}
    (applied : action [] = .ok pairs) :
    pairs = [] := by
  have twice := splits [] []
  rw [List.nil_append, applied] at twice
  have doubled : pairs = pairs ++ pairs :=
    Except.ok.inj twice
  exact List.self_eq_append_left.mp doubled

/-- The first pair and the pairs behind it give their own share. -/
theorem cons
    (splits : Splits action)
    {pair : ItemPair}
    {rest pairs : List ItemPair}
    (applied : action (pair :: rest) = .ok pairs) :
    ∃ first later,
      action [pair] = .ok first ∧ action rest = .ok later ∧ pairs = first ++ later := by
  have whole := splits [pair] rest
  rw [List.singleton_append, applied] at whole
  obtain ⟨first, atFirst, whole⟩ := exists_of_bind_eq_ok whole.symm
  obtain ⟨later, atRest, whole⟩ := exists_of_bind_eq_ok whole
  exact ⟨first, later, atFirst, atRest, (Except.ok.inj whole).symm⟩

end Splits

end Pipeline

/-- The step takes the pairs of a batch one by one. -/
def TransformStep.actsPerPair : TransformStep → Bool
  | .list function _ => !function.needsBatch && function != .directoryName
  | _ => true

/-- The transform is the function that finds the directory of each spec. -/
def Transform.findsDirectories
    (transform : Transform) :
    Bool :=
  (transform.functionName?.bind ListFunction.ofName?) == some .directoryName

namespace Pipeline

variable {pipeline : Pipeline} {transform : Transform}

/-- A step that takes pairs one by one splits. -/
theorem run_splits
    {step : TransformStep}
    (perPair : step.actsPerPair = true) :
    Splits (pipeline.run step) := by
  cases step with
  | quoted body =>
      exact .ofEach _
  | modifier modifier =>
      exact .ofEach _
  | member name arguments =>
      exact .ofEach _
  | list function arguments =>
      cases function with
      | combine | clearMetadata =>
          exact .ofMap _
      | count | directoriesAbove | directoryName | distinctWithCase | distinct | reverse |
          anyHaveMetadataValue =>
          cases perPair
      | _ =>
          exact .ofEach _

theorem runsPerItem_eq
    (transform : Transform) :
    transform.runsPerItem =
      !(transform.functionName?.bind ListFunction.ofName?).any ListFunction.needsBatch := by
  unfold Transform.runsPerItem Transform.functionName?
  cases transform.kind <;> rfl

/-- What a transform that runs per item does takes the pairs one by one, or finds directories. -/
theorem step_cases
    (perItem : transform.runsPerItem = true)
    {step : TransformStep}
    (resolved : pipeline.step transform = .ok step) :
    step.actsPerPair = true ∨
      transform.findsDirectories = true ∧ ∃ arguments, step = .list .directoryName arguments := by
  cases step with
  | quoted _ | modifier _ | member _ _ =>
      exact .inl rfl
  | list function arguments =>
      have isFunction : transform.functionName?.bind ListFunction.ofName? = some function :=
        listFunction?_of_step resolved
      by_cases finds : function = .directoryName
      · subst finds
        refine .inr ⟨?_, arguments, rfl⟩
        simp [Transform.findsDirectories, isFunction]
      · refine .inl ?_
        rw [runsPerItem_eq, isFunction] at perItem
        simpa [TransformStep.actsPerPair, finds] using perItem

theorem step_actsPerPair
    (perItem : transform.runsPerItem = true)
    (noDirectories : transform.findsDirectories = false)
    {step : TransformStep}
    (resolved : pipeline.step transform = .ok step) :
    step.actsPerPair = true := by
  rcases step_cases perItem resolved with actsPerPair | ⟨finds, -⟩
  · exact actsPerPair
  · rw [finds] at noDirectories
    cases noDirectories

theorem apply_splits
    (perItem : transform.runsPerItem = true)
    (noDirectories : transform.findsDirectories = false) :
    Splits (pipeline.apply transform) := by
  intro front back
  unfold apply
  cases resolved : pipeline.step transform with
  | error failure =>
      rfl
  | ok step =>
      exact run_splits (step_actsPerPair perItem noDirectories resolved) front back

end Pipeline

/--
What is left of the pairs of a vector if work may stop at a pair that is not
empty: all of them, or a beginning that holds such a pair.
-/
inductive Shortened
    (full : List ItemPair) :
    (kept : List ItemPair) → (stopped : Bool) → Prop where
  | whole :
      Shortened full full false
  | stopped {kept : List ItemPair}
      (beginning : kept <+: full)
      (some : ∃ pair ∈ kept, pair.isEmpty = false) :
      Shortened full kept true

namespace Shortened

/-- Where work stops only after all pairs, none of them is dropped. -/
theorem ofAll
    (full : List ItemPair) :
    Shortened full full (full.any (!·.isEmpty)) := by
  cases found : full.any (!·.isEmpty) with
  | false =>
      exact .whole
  | true =>
      simp only [List.any_eq_true, Bool.not_eq_true'] at found
      exact .stopped (List.prefix_refl full) found

/-- Pairs in front of the others are kept. -/
theorem append
    (front : List ItemPair)
    {full kept : List ItemPair}
    {stopped : Bool}
    (shortened : Shortened full kept stopped) :
    Shortened (front ++ full) (front ++ kept) stopped := by
  cases shortened with
  | whole =>
      exact .whole
  | stopped beginning some =>
      obtain ⟨pair, isMember, notEmpty⟩ := some
      exact .stopped ((List.prefix_append_right_inj front).mpr beginning)
        ⟨pair, List.mem_append_right front isMember, notEmpty⟩

end Shortened

namespace Pipeline

variable {pipeline : Pipeline} {transform : Transform}

/-- Taking the pairs one by one succeeds where the batch does, and stops within what it gives. -/
theorem applyEach_shortened
    (splits : Splits (pipeline.apply transform))
    {batch pairs : List ItemPair}
    (applied : pipeline.apply transform batch = .ok pairs) :
    ∃ kept stopped,
      pipeline.applyEach transform batch = .ok (kept, stopped) ∧
        Shortened pairs kept stopped := by
  induction batch generalizing pairs with
  | nil =>
      rw [splits.nil applied]
      exact ⟨[], false, rfl, .whole⟩
  | cons pair rest inductionHypothesis =>
      obtain ⟨first, later, atFirst, atRest, rfl⟩ := splits.cons applied
      obtain ⟨kept, stopped, eachOfRest, shortened⟩ := inductionHypothesis atRest
      rw [applyEach, atFirst]
      cases found : first.any (!·.isEmpty) with
      | true =>
          simp only [bind, Except.bind, found]
          simp only [List.any_eq_true, Bool.not_eq_true'] at found
          exact ⟨first, true, rfl, .stopped (List.prefix_append first later) found⟩
      | false =>
          simp only [bind, Except.bind, found, eachOfRest]
          exact ⟨first ++ kept, stopped, rfl, shortened.append first⟩

/-- The last transform succeeds where it does on the whole batch, and stops within what it gives. -/
theorem applyUntilFound_shortened
    (noDirectories : transform.findsDirectories = false)
    {batch pairs : List ItemPair}
    (applied : pipeline.apply transform batch = .ok pairs) :
    ∃ kept stopped,
      pipeline.applyUntilFound transform batch = .ok (kept, stopped) ∧
        Shortened pairs kept stopped := by
  unfold applyUntilFound
  split
  · rename_i perItem
    exact applyEach_shortened (apply_splits perItem noDirectories) applied
  · rw [applied]
    exact ⟨pairs, _, rfl, .ofAll pairs⟩

end Pipeline

end RefExpand
