import RefExpand.Proofs.Expand.Run

namespace RefExpand

/-!
# What a computation may fail with

A computation fails only with some failures if each of its steps does, and it fails
always if one of its steps does. The closure lemmas are stated of plain results and of
expansions alike, so that what a phase may fail with is read off its steps, and no run
has to be followed.
-/

/-- Whatever the result fails with is one of these. -/
def FailsOnly
    (allowed : ε → Prop)
    (result : Except ε α) :
    Prop :=
  ∀ failure, result = .error failure → allowed failure

namespace FailsOnly

variable {allowed : ε → Prop}

theorem ok
    (value : α) :
    FailsOnly allowed (.ok value) := by
  rintro failure ⟨⟩

theorem error
    {failure : ε}
    (isAllowed : allowed failure) :
    FailsOnly allowed (.error failure : Except ε α) := by
  rintro other ⟨⟩
  exact isAllowed

theorem mono
    {wider : ε → Prop}
    {result : Except ε α}
    (fails : FailsOnly allowed result)
    (widens : ∀ failure, allowed failure → wider failure) :
    FailsOnly wider result :=
  fun failure isFailure => widens failure (fails failure isFailure)

theorem bind
    {result : Except ε α}
    {next : α → Except ε β}
    (first : FailsOnly allowed result)
    (later : ∀ value, FailsOnly allowed (next value)) :
    FailsOnly allowed (result >>= next) := by
  cases result with
  | error failure =>
      exact error (first failure rfl)
  | ok value =>
      exact later value

theorem map
    {result : Except ε α}
    (fails : FailsOnly allowed result)
    (make : α → β) :
    FailsOnly allowed (result.map make) := by
  cases result with
  | error failure =>
      exact error (fails failure rfl)
  | ok value =>
      exact ok (make value)

/-- Failures that are reworded are those that rewording makes of the ones before. -/
theorem mapError
    {reworded : δ → Prop}
    {result : Except ε α}
    {reword : ε → δ}
    (fails : FailsOnly allowed result)
    (rewords : ∀ failure, allowed failure → reworded (reword failure)) :
    FailsOnly reworded (result.mapError reword) := by
  cases result with
  | error failure =>
      exact error (rewords failure (fails failure rfl))
  | ok value =>
      exact ok value

/-- Whatever the failures were before, only their wording matters. -/
theorem reworded
    {reword : δ → ε}
    (rewords : ∀ failure, allowed (reword failure))
    (result : Except δ α) :
    FailsOnly allowed (result.mapError reword) := by
  have anyFailure : FailsOnly (fun _ => True) result :=
    fun _ _ => trivial
  exact anyFailure.mapError fun failure _ => rewords failure

theorem mapM
    {action : α → Except ε β}
    {items : List α}
    (each : ∀ item ∈ items, FailsOnly allowed (action item)) :
    FailsOnly allowed (items.mapM action) := by
  induction items with
  | nil =>
      exact ok []
  | cons item rest inductionHypothesis =>
      have later :=
        inductionHypothesis fun other isMember => each other (List.mem_cons_of_mem _ isMember)
      rw [List.mapM_cons]
      exact (each item List.mem_cons_self).bind fun _ => later.bind fun _ => ok _

end FailsOnly

/-- A failure is a halt, or an error that is among these. -/
def Failure.ErrorsAre
    (allowed : ExpandError → Prop) :
    Failure → Prop
  | .error cause => allowed cause
  | .halt _ => True

theorem Failure.ErrorsAre.mono
    {allowed wider : ExpandError → Prop}
    {failure : Failure}
    (among : failure.ErrorsAre allowed)
    (widens : ∀ cause, allowed cause → wider cause) :
    failure.ErrorsAre wider := by
  cases failure with
  | error cause =>
      exact widens cause among
  | halt breach =>
      trivial

namespace Expansion

/-- Whatever trace it starts from, the computation fails with one of these or not at all. -/
def RaisesOnly
    (allowed : Failure → Prop)
    (action : Expansion α) :
    Prop :=
  ∀ before, FailsOnly allowed (action.runFrom before).1

namespace RaisesOnly

variable {allowed : Failure → Prop} {action : Expansion α}

theorem error_allowed
    {errors : ExpandError → Prop}
    (raises : action.RaisesOnly (Failure.ErrorsAre errors))
    {before : Trace}
    {cause : ExpandError}
    (fails : (action.runFrom before).1 = .error (.error cause)) :
    errors cause :=
  raises before _ fails

theorem ofExcept
    {result : Except Failure α}
    (fails : FailsOnly allowed result) :
    (Expansion.ofExcept result).RaisesOnly allowed :=
  fun _ => fails

theorem pure
    (value : α) :
    (Pure.pure value : Expansion α).RaisesOnly allowed :=
  fun _ => .ok value

theorem throw
    {failure : Failure}
    (isAllowed : allowed failure) :
    (MonadExcept.throw failure : Expansion α).RaisesOnly allowed :=
  fun _ => .error isAllowed

theorem mono
    {wider : Failure → Prop}
    (raises : action.RaisesOnly allowed)
    (widens : ∀ failure, allowed failure → wider failure) :
    action.RaisesOnly wider :=
  fun before => (raises before).mono widens

theorem bind
    {next : α → Expansion β}
    (first : action.RaisesOnly allowed)
    (later : ∀ value, (next value).RaisesOnly allowed) :
    (action >>= next).RaisesOnly allowed := by
  intro before
  rw [runFrom_bind]
  have firstFails := first before
  rcases run : action.runFrom before with ⟨result, middle⟩
  rw [run] at firstFails
  cases result with
  | error failure =>
      exact .error (firstFails failure rfl)
  | ok value =>
      exact later value middle

theorem mapM
    {action : β → Expansion α}
    {items : List β}
    (each : ∀ item ∈ items, (action item).RaisesOnly allowed) :
    (items.mapM action).RaisesOnly allowed := by
  induction items with
  | nil =>
      exact pure []
  | cons item rest inductionHypothesis =>
      have later :=
        inductionHypothesis fun other isMember => each other (List.mem_cons_of_mem _ isMember)
      rw [List.mapM_cons]
      exact (each item List.mem_cons_self).bind fun _ => later.bind fun _ => pure _

/-- A failure is raised with a location, if it has none already. -/
theorem located
    {located : Failure → Prop}
    {location : Location}
    (raises : action.RaisesOnly allowed)
    (locates : ∀ failure, allowed failure → located (failure.withLocation location)) :
    (Expansion.located location action).RaisesOnly located := by
  intro before
  rw [runFrom_located]
  exact (raises before).mapError locates

/-- With a value in the place of an error, only halts are left. -/
theorem orElseValue
    (raises : action.RaisesOnly allowed)
    (value : α) :
    (action.orElseValue value).RaisesOnly fun failure =>
      allowed failure ∧ ∃ breach, failure = .halt breach := by
  intro before
  rw [runFrom_orElseValue]
  have fails := raises before
  rcases run : action.runFrom before with ⟨result, after⟩
  rw [run] at fails
  rcases result with (cause | breach) | found
  · exact .ok value
  · exact .error ⟨fails _ rfl, breach, rfl⟩
  · exact .ok found

end RaisesOnly

/-- The computation fails, from whatever trace it starts. -/
def Fails (action : Expansion α) : Prop :=
  ∀ before, ∃ failure, (action.runFrom before).1 = .error failure

namespace Fails

variable {action : Expansion α}

theorem ofExcept
    (failure : Failure) :
    Fails (Expansion.ofExcept (.error failure) : Expansion α) :=
  fun _ => ⟨failure, rfl⟩

theorem throw
    (failure : Failure) :
    Fails (MonadExcept.throw failure : Expansion α) :=
  fun _ => ⟨failure, rfl⟩

/-- What follows a failure does not run. -/
theorem bind
    (fails : Fails action)
    (next : α → Expansion β) :
    Fails (action >>= next) := by
  intro before
  obtain ⟨failure, result⟩ := fails before
  rw [runFrom_bind]
  rcases run : action.runFrom before with ⟨found, after⟩
  rw [run] at result
  dsimp only at result
  subst result
  exact ⟨failure, rfl⟩

theorem map
    (fails : Fails action)
    (make : α → β) :
    Fails (make <$> action) := by
  rw [map_eq_pure_bind]
  exact fails.bind _

/-- A failure that is sure to follow is sure to come, if no other comes first. -/
theorem next
    {next : α → Expansion β}
    (fails : ∀ value, Fails (next value)) :
    Fails (action >>= next) := by
  intro before
  rw [runFrom_bind]
  rcases action.runFrom before with ⟨result, after⟩
  cases result with
  | error failure =>
      exact ⟨failure, rfl⟩
  | ok value =>
      exact fails value after

/-- A list fails with one of its items. -/
theorem mapM_of_mem
    {make : β → Expansion α}
    {items : List β}
    {item : β}
    (isMember : item ∈ items)
    (fails : Fails (make item)) :
    Fails (items.mapM make) := by
  induction items with
  | nil =>
      cases isMember
  | cons first rest inductionHypothesis =>
      rw [List.mapM_cons]
      rcases List.mem_cons.mp isMember with rfl | inRest
      · exact fails.bind _
      · exact .next fun _ => (inductionHypothesis inRest).bind _

end Fails

end Expansion

end RefExpand
