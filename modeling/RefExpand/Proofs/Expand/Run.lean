import RefExpand.Expand.Context
import RefExpand.Library.Standard

namespace RefExpand

/-!
# Runs of an expansion

A run starts from a trace and ends with a result and the trace it leaves
behind. The equations below say what each building block of an expansion does
to both, so that later proofs never open the monad. An outcome that holds at
the end of every run from a well-kept trace is a triple of its own.

Two computations agree if from related traces they end with the same result and
with related traces. Agreement is kept by all that expansions are built from, so
it is enough to show it of the places where the computations differ.
-/

namespace Expansion

/-- The result of a computation from a trace, and the trace it leaves behind. -/
def runFrom
    (action : Expansion α)
    (before : Trace) :
    Except Failure α × Trace :=
  action.run.run before

@[simp] theorem runFrom_pure
    (value : α)
    (before : Trace) :
    (pure value : Expansion α).runFrom before =
      (.ok value, before) :=
  rfl

@[simp] theorem runFrom_throw
    (failure : Failure)
    (before : Trace) :
    (throw failure : Expansion α).runFrom before =
      (.error failure, before) :=
  rfl

/-- The second computation runs from the trace of the first, if that succeeded. -/
theorem runFrom_bind
    (action : Expansion α)
    (next : α → Expansion β)
    (before : Trace) :
    (action >>= next).runFrom before =
      match action.runFrom before with
      | (.ok value, after) => (next value).runFrom after
      | (.error failure, after) => (.error failure, after) := by
  unfold runFrom
  rw [ExceptT.run_bind, StateT.run_bind]
  change
    StateT.run _ (action.run.run before).2 = _
  rcases action.run.run before with ⟨result, after⟩
  cases result <;> rfl

/-- A run that ends with a value ran the first computation to a value, and went on from there. -/
theorem exists_of_runFrom_bind
    {action : Expansion α}
    {next : α → Expansion β}
    {before after : Trace}
    {value : β}
    (ran : (action >>= next).runFrom before = (.ok value, after)) :
    ∃ found middle,
      action.runFrom before = (.ok found, middle) ∧
        (next found).runFrom middle = (.ok value, after) := by
  rw [runFrom_bind] at ran
  rcases run : action.runFrom before with ⟨result, middle⟩
  rw [run] at ran
  cases result with
  | error failure =>
      cases ran
  | ok found =>
      exact ⟨found, middle, rfl, ran⟩

/-- Mapping changes the value and nothing else. -/
theorem runFrom_map
    (make : α → β)
    (action : Expansion α)
    (before : Trace) :
    (make <$> action).runFrom before =
      ((action.runFrom before).1.map make, (action.runFrom before).2) := by
  rw [map_eq_pure_bind, runFrom_bind]
  rcases action.runFrom before with ⟨result, after⟩
  cases result <;> rfl

@[simp] theorem runFrom_ofExcept
    (result : Except Failure α)
    (before : Trace) :
    (ofExcept result).runFrom before = (result, before) :=
  rfl

@[simp] theorem runFrom_noteUsage
    (name : Text)
    (usage : PropertyUsage)
    (before : Trace) :
    (noteUsage name usage).runFrom before =
      (.ok (), { before with usage := before.usage ++ [(name, usage)] }) :=
  rfl

@[simp] theorem runFrom_noteMessage
    (message : LogMessage)
    (before : Trace) :
    (noteMessage message).runFrom before =
      (.ok (), { before with log := before.log ++ [message] }) :=
  rfl

@[simp] theorem runFrom_takeTurn
    (before : Trace) :
    takeTurn.runFrom before =
      (.ok before.calls, { before with calls := before.calls + 1 }) :=
  rfl

/-- Finding a type touches the cache of types only. -/
@[simp] theorem runFrom_findType
    (resolver : Resolver)
    (name : Text)
    (before : Trace) :
    (findType resolver name).runFrom before =
      (.ok (before.types.resolve resolver.catalog resolver.allowedProbe name).1,
        { before with
          types :=
            (before.types.resolve resolver.catalog resolver.allowedProbe name).2 }) :=
  rfl

/-- Attaching a location changes the failure and nothing else. -/
theorem runFrom_located
    (location : Location)
    (action : Expansion α)
    (before : Trace) :
    (located location action).runFrom before =
      ((action.runFrom before).1.mapError (·.withLocation location),
        (action.runFrom before).2) := by
  rfl

/-- A value in the place of an error; a halt stays. -/
theorem runFrom_orElseValue
    (action : Expansion α)
    (value : α)
    (before : Trace) :
    (orElseValue action value).runFrom before =
      match action.runFrom before with
      | (.error (.error _), after) => (.ok value, after)
      | (result, after) => (result, after) := by
  unfold runFrom orElseValue
  rw [ExceptT.run_tryCatch, StateT.run_bind]
  change
    StateT.run _ (action.run.run before).2 = _
  rcases action.run.run before with ⟨result, after⟩
  rcases result with failure | found
  · cases failure <;> rfl
  · rfl

/-- If one action gives on every item what is made of the other's result, so it does on the list. -/
theorem mapM_eq_map
    {first : γ → Expansion α}
    {second : γ → Expansion β}
    {make : α → β}
    {items : List γ}
    (each : ∀ item ∈ items, second item = make <$> first item) :
    items.mapM second = List.map make <$> items.mapM first := by
  induction items with
  | nil =>
      simp
  | cons item rest inductionHypothesis =>
      have later :=
        inductionHypothesis fun other isMember => each other (List.mem_cons_of_mem _ isMember)
      simp [List.mapM_cons, each item List.mem_cons_self, later]

theorem mapM_congr
    {first second : γ → Expansion α}
    {items : List γ}
    (each : ∀ item ∈ items, first item = second item) :
    items.mapM first = items.mapM second := by
  have mapped := mapM_eq_map fun item isMember => (each item isMember).trans (id_map _).symm
  rwa [List.map_id_fun, id_map] at mapped

/-- From a trace that is well kept a run ends with such an outcome, in a well-kept trace. -/
def Ends
    (keeps : Trace → Prop)
    (action : Expansion α)
    (outcome : Except Failure α → Prop) :
    Prop :=
  ∀ before,
    keeps before →
      outcome (action.runFrom before).1 ∧ keeps (action.runFrom before).2

namespace Ends

variable {keeps : Trace → Prop} {action : Expansion α} {next : α → Expansion β}

theorem ofExcept
    {result : Except Failure α}
    {outcome : Except Failure α → Prop}
    (ends : outcome result) :
    Ends keeps (Expansion.ofExcept result) outcome :=
  fun _ start => ⟨ends, start⟩

theorem pure
    (value : α) :
    Ends keeps (Pure.pure value) (· = .ok value) :=
  fun _ start => ⟨rfl, start⟩

/-- After a computation that gives a value, the next one runs on this value. -/
theorem bind
    {value : α}
    {outcome : Except Failure β → Prop}
    (first : Ends keeps action (· = .ok value))
    (second : Ends keeps (next value) outcome) :
    Ends keeps (action >>= next) outcome := by
  intro before start
  obtain ⟨result, middle⟩ := first before start
  rw [runFrom_bind]
  rcases run : action.runFrom before with ⟨found, after⟩
  rw [run] at result middle
  dsimp only at result middle
  subst result
  exact second after middle

/-- A computation that fails is not followed by another one. -/
theorem bind_error
    {outcome : Failure → Prop}
    (first : Ends keeps action fun result => ∃ failure, result = .error failure ∧ outcome failure) :
    Ends keeps (action >>= next) fun result =>
      ∃ failure, result = .error failure ∧ outcome failure := by
  intro before start
  obtain ⟨⟨failure, result, holds⟩, after⟩ := first before start
  rw [runFrom_bind]
  rcases run : action.runFrom before with ⟨found, middle⟩
  rw [run] at result after
  dsimp only at result after
  subst result
  exact ⟨⟨failure, rfl, holds⟩, after⟩

theorem map
    {value : α}
    (first : Ends keeps action (· = .ok value))
    (make : α → β) :
    Ends keeps (make <$> action) (· = .ok (make value)) := by
  rw [map_eq_pure_bind]
  exact first.bind (pure (make value))

/-- A value has no location. -/
theorem located
    {value : α}
    (ends : Ends keeps action (· = .ok value))
    (location : Location) :
    Ends keeps (Expansion.located location action) (· = .ok value) := by
  intro before start
  obtain ⟨result, after⟩ := ends before start
  rw [runFrom_located, result]
  exact ⟨rfl, after⟩

/-- A failure is the same, apart from its location. -/
theorem located_error
    {outcome : Failure → Prop}
    (ends : Ends keeps action fun result => ∃ failure, result = .error failure ∧ outcome failure)
    {location : Location}
    (unlocated : ∀ failure, outcome failure → outcome (failure.withLocation location)) :
    Ends keeps (Expansion.located location action) fun result =>
      ∃ failure, result = .error failure ∧ outcome failure := by
  intro before start
  obtain ⟨⟨failure, result, holds⟩, after⟩ := ends before start
  rw [runFrom_located, result]
  exact ⟨⟨_, rfl, unlocated failure holds⟩, after⟩

end Ends

/-- From related traces both end with the same result and with related traces. -/
def Agree
    (related : Trace → Trace → Prop)
    (left right : Expansion α) :
    Prop :=
  ∀ before before',
    related before before' →
      (left.runFrom before).1 = (right.runFrom before').1 ∧
        related (left.runFrom before).2 (right.runFrom before').2

namespace Agree

variable {related : Trace → Trace → Prop}

theorem ofExcept
    {left right : Except Failure α}
    (same : left = right) :
    Agree related (Expansion.ofExcept left) (Expansion.ofExcept right) := by
  subst same
  exact fun _ _ start => ⟨rfl, start⟩

theorem pure
    (value : α) :
    Agree related (Pure.pure value) (Pure.pure value) :=
  fun _ _ start => ⟨rfl, start⟩

theorem throw
    (failure : Failure) :
    Agree related (MonadExcept.throw failure : Expansion α) (MonadExcept.throw failure) :=
  fun _ _ start => ⟨rfl, start⟩

/-- Computations that agree, followed by computations that agree, agree. -/
theorem bind
    {left right : Expansion α}
    {leftNext rightNext : α → Expansion β}
    (first : Agree related left right)
    (next : ∀ value, Agree related (leftNext value) (rightNext value)) :
    Agree related (left >>= leftNext) (right >>= rightNext) := by
  intro before before' start
  obtain ⟨sameResult, middle⟩ := first before before' start
  rw [runFrom_bind, runFrom_bind]
  rcases leftRun : left.runFrom before with ⟨leftResult, leftMiddle⟩
  rcases rightRun : right.runFrom before' with ⟨rightResult, rightMiddle⟩
  rw [leftRun, rightRun] at sameResult middle
  dsimp only at sameResult middle
  subst sameResult
  cases leftResult with
  | error failure =>
      exact ⟨rfl, middle⟩
  | ok value =>
      exact next value leftMiddle rightMiddle middle

theorem located
    {left right : Expansion α}
    (inner : Agree related left right)
    (location : Location) :
    Agree related (Expansion.located location left) (Expansion.located location right) := by
  intro before before' start
  obtain ⟨sameResult, after⟩ := inner before before' start
  rw [runFrom_located, runFrom_located, sameResult]
  exact ⟨rfl, after⟩

theorem orElseValue
    {left right : Expansion α}
    (inner : Agree related left right)
    (value : α) :
    Agree related (left.orElseValue value) (right.orElseValue value) := by
  intro before before' start
  obtain ⟨sameResult, after⟩ := inner before before' start
  rw [runFrom_orElseValue, runFrom_orElseValue]
  rcases leftRun : left.runFrom before with ⟨leftResult, leftAfter⟩
  rcases rightRun : right.runFrom before' with ⟨rightResult, rightAfter⟩
  rw [leftRun, rightRun] at sameResult after
  dsimp only at sameResult after
  subst sameResult
  rcases leftResult with (cause | breach) | found
  all_goals exact ⟨rfl, after⟩

/-- Computations that agree on every item of a list agree on the list. -/
theorem mapM_of_mem
    {left right : β → Expansion α}
    {items : List β}
    (each : ∀ item ∈ items, Agree related (left item) (right item)) :
    Agree related (items.mapM left) (items.mapM right) := by
  induction items with
  | nil =>
      exact pure []
  | cons item rest inductionHypothesis =>
      have later :=
        inductionHypothesis fun other isMember => each other (List.mem_cons_of_mem _ isMember)
      rw [List.mapM_cons, List.mapM_cons]
      exact (each item List.mem_cons_self).bind fun _ => later.bind fun _ => pure _

theorem mapM
    {left right : β → Expansion α}
    (each : ∀ item, Agree related (left item) (right item))
    (items : List β) :
    Agree related (items.mapM left) (items.mapM right) :=
  mapM_of_mem fun item _ => each item

end Agree

end Expansion

/-- The standard catalog on a machine without files and variables, whose clock stands still. -/
def ExpandContext.onEmptyMachine : ExpandContext :=
  { host := { now := default, freshId := fun _ => [] }
    fileSystem := ({} : ListedFiles).toFileSystem
    resolver := { catalog := Catalog.standard, probe := Catalog.standard.additionalType? } }

end RefExpand
