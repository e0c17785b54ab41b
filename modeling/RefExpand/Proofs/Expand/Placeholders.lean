import Mathlib.Control.Monad.Basic
import RefExpand.Expand.Items
import RefExpand.Proofs.Expand.PerPair
import RefExpand.Proofs.Expand.Run

namespace RefExpand

/-!
# Placeholders

A vector may be run with placeholders, which keep the place of entries that came
out empty, or without them. As long as no step counts placeholders or reads the
metadata behind them, both runs go side by side: after each step the batch
without placeholders is what is left of the other batch when its placeholders
are taken out.
-/

/-- The pairs that have a spec. -/
def ItemPair.present
    (batch : List ItemPair) :
    List ItemPair :=
  batch.filter (·.spec.isSome)

namespace ItemPair

@[simp] theorem present_nil :
    present [] = [] :=
  rfl

theorem present_cons_some
    {pair : ItemPair}
    (hasSpec : pair.spec.isSome = true)
    (rest : List ItemPair) :
    present (pair :: rest) = pair :: present rest :=
  List.filter_cons_of_pos hasSpec

theorem present_cons_none
    {pair : ItemPair}
    (noSpec : pair.spec = none)
    (rest : List ItemPair) :
    present (pair :: rest) = present rest :=
  List.filter_cons_of_neg (by simp [noSpec])

theorem present_append
    (front back : List ItemPair) :
    present (front ++ back) = present front ++ present back :=
  List.filter_append ..

/-- A change that neither gives nor takes a spec may come before or after. -/
theorem present_map
    (change : ItemPair → ItemPair)
    (keepsPresence : ∀ pair, (change pair).spec.isSome = pair.spec.isSome)
    (batch : List ItemPair) :
    present (batch.map change) = (present batch).map change := by
  rw [present, List.filter_map]
  simp only [Function.comp_def, keepsPresence]
  rfl

/-- Pairs that are made with a spec are all present. -/
theorem present_map_of
    (specs : List α)
    (make : α → ItemPair)
    (hasSpec : ∀ spec, (make spec).spec.isSome = true) :
    present (specs.map make) = specs.map make := by
  rw [present, List.filter_eq_self]
  intro pair isMember
  obtain ⟨spec, -, rfl⟩ := List.mem_map.mp isMember
  exact hasSpec spec

end ItemPair

open ItemPair (present present_nil present_cons_some present_cons_none present_append)

/--
Where the pairs of a batch are run one by one, those without a spec may be left
out if what they give is dropped afterwards anyway.
-/
theorem mapM_present
    {full bare : ItemPair → Except ε (List β)}
    {keep : β → Bool}
    (onSpec :
      ∀ pair found,
        pair.spec.isSome = true → full pair = .ok found → bare pair = .ok (found.filter keep))
    (onPlaceholder :
      ∀ pair found, pair.spec = none → full pair = .ok found → found.filter keep = [])
    {batch : List ItemPair}
    {found : List (List β)}
    (mapped : batch.mapM full = .ok found) :
    ∃ kept,
      (present batch).mapM bare = .ok kept ∧ kept.flatten = found.flatten.filter keep := by
  induction batch generalizing found with
  | nil =>
      cases mapped
      exact ⟨[], rfl, rfl⟩
  | cons pair rest inductionHypothesis =>
      rw [List.mapM_cons] at mapped
      obtain ⟨first, atFirst, mapped⟩ := exists_of_bind_eq_ok mapped
      obtain ⟨later, atRest, mapped⟩ := exists_of_bind_eq_ok mapped
      cases mapped
      obtain ⟨kept, bareRest, flat⟩ := inductionHypothesis atRest
      cases spec : pair.spec with
      | none =>
          refine ⟨kept, by rw [present_cons_none spec, bareRest], ?_⟩
          rw [flat, List.flatten_cons, List.filter_append, onPlaceholder pair first spec atFirst,
            List.nil_append]
      | some text =>
          have hasSpec : pair.spec.isSome = true := by
            rw [spec]
            rfl
          refine ⟨first.filter keep :: kept, ?_, ?_⟩
          · rw [present_cons_some hasSpec, List.mapM_cons, onSpec pair first hasSpec atFirst,
              bareRest]
            rfl
          · rw [List.flatten_cons, List.flatten_cons, List.filter_append, flat]

/-- The function counts placeholders or reads the metadata behind them. -/
def ListFunction.readsPlaceholders : ListFunction → Bool
  | .count | .metadata | .anyHaveMetadataValue => true
  | _ => false

/-- The transform is a function that reads placeholders. -/
def Transform.readsPlaceholders
    (transform : Transform) :
    Bool :=
  (transform.functionName?.bind ListFunction.ofName?).any ListFunction.readsPlaceholders

/-- The step is a function that reads placeholders. -/
def TransformStep.readsPlaceholders : TransformStep → Bool
  | .list function _ => function.readsPlaceholders
  | _ => false

namespace Pipeline

/-- The pipeline that drops what comes out empty. -/
def withoutPlaceholders
    (pipeline : Pipeline) :
    Pipeline :=
  { pipeline with keepsPlaceholders := false }

variable {pipeline : Pipeline}

/-- What is emitted without placeholders is the present part of what is emitted. -/
theorem emit_withoutPlaceholders
    (spec : Option Text)
    (source : Option Item) :
    pipeline.withoutPlaceholders.emit spec source = present (pipeline.emit spec source) := by
  unfold emit
  cases spec.filter (!·.isEmpty) with
  | some spec =>
      rfl
  | none =>
      cases keeps : pipeline.keepsPlaceholders with
      | false =>
          simp [withoutPlaceholders]
      | true =>
          simp only [withoutPlaceholders, Bool.false_eq_true, if_false, if_true]
          rfl

theorem emit_none
    (source : Option Item) :
    present (pipeline.emit none source) = [] := by
  rw [← emit_withoutPlaceholders]
  rfl

/-- What one pair gives when specs are mapped with an action. -/
def mapSpec
    (pipeline : Pipeline)
    (action : Text → Option Item → Except Failure (Option Text))
    (pair : ItemPair) :
    Except Failure (List ItemPair) :=
  match pair.spec with
  | none => .ok (pipeline.emit none pair.source)
  | some spec => do return pipeline.emit (← action spec pair.source) pair.source

/-- What is left of one pair under a test. -/
def keptIf
    (test : ItemPair → Except Failure Bool)
    (pair : ItemPair) :
    Except Failure (List ItemPair) := do
  return if ← test pair then [pair] else []

theorem mapSpec_present
    {action : Text → Option Item → Except Failure (Option Text)}
    {pair : ItemPair}
    {given : List ItemPair}
    (hasSpec : pair.spec.isSome = true)
    (mapped : pipeline.mapSpec action pair = .ok given) :
    pipeline.withoutPlaceholders.mapSpec action pair = .ok (present given) := by
  obtain ⟨_ | spec, source⟩ := pair
  · cases hasSpec
  · obtain ⟨result, acted, emitted⟩ := exists_of_bind_eq_ok mapped
    cases emitted
    rw [← emit_withoutPlaceholders]
    change (action spec source >>= fun result => _) = _
    rw [acted]
    rfl

theorem mapSpec_placeholder
    {action : Text → Option Item → Except Failure (Option Text)}
    {pair : ItemPair}
    {given : List ItemPair}
    (noSpec : pair.spec = none)
    (mapped : pipeline.mapSpec action pair = .ok given) :
    present given = [] := by
  rw [mapSpec, noSpec] at mapped
  cases mapped
  exact emit_none pair.source

/-- A test keeps a pair as it is, or drops it. -/
theorem keptIf_cases
    {test : ItemPair → Except Failure Bool}
    {pair : ItemPair}
    {given : List ItemPair}
    (tested : keptIf test pair = .ok given) :
    given = [pair] ∨ given = [] := by
  obtain ⟨passes, -, decided⟩ := exists_of_bind_eq_ok tested
  cases decided
  cases passes
  · exact .inr rfl
  · exact .inl rfl

/-- The directory of a spec, found before or now. -/
def directoryOf
    (pipeline : Pipeline)
    (known : List (Text × Option Text))
    (spec : Text)
    (source : Option Item) :
    Except Failure (Option Text) :=
  match known.lookup spec.unescape with
  | some directory => .ok directory
  | none => do
      let path ← ofResult (pipeline.rooted spec source)
      return (Path.directoryName? path).map Text.escape

theorem directoryNames_of_spec
    {known : List (Text × Option Text)}
    {pair : ItemPair}
    {text : Text}
    (spec : pair.spec = some text)
    (rest : List ItemPair) :
    pipeline.directoryNames known (pair :: rest) = do
      let directory ← pipeline.directoryOf known text pair.source
      return pipeline.emit directory pair.source ++
        (← pipeline.directoryNames ((text.unescape, directory) :: known) rest) := by
  rw [directoryNames, spec, directoryOf]
  dsimp only
  cases known.lookup text.unescape with
  | some directory =>
      rfl
  | none =>
      cases ofResult (pipeline.rooted text pair.source) <;> rfl

section Steps

variable {batch pairs : List ItemPair}

theorem mapSpecs_present
    {action : Text → Option Item → Except Failure (Option Text)}
    (mapped : pipeline.mapSpecs action batch = .ok pairs) :
    pipeline.withoutPlaceholders.mapSpecs action (present batch) = .ok (present pairs) := by
  obtain ⟨found, mappedEach, isFlat⟩ := exists_of_bind_eq_ok mapped
  cases isFlat
  obtain ⟨kept, bareEach, flat⟩ :=
    mapM_present (fun _ _ => mapSpec_present) (fun _ _ => mapSpec_placeholder) mappedEach
  change (do return (← (present batch).mapM (mapSpec _ action)).flatten) = _
  rw [bareEach]
  exact congrArg Except.ok flat

theorem keepIf_present
    {test : ItemPair → Except Failure Bool}
    (tested : keepIf test batch = .ok pairs) :
    keepIf test (present batch) = .ok (present pairs) := by
  obtain ⟨found, testedEach, isFlat⟩ := exists_of_bind_eq_ok tested
  cases isFlat
  have onSpec :
      ∀ pair given,
        pair.spec.isSome = true →
          keptIf test pair = .ok given → keptIf test pair = .ok (present given) := by
    intro pair given hasSpec decided
    rw [decided]
    rcases keptIf_cases decided with rfl | rfl
    · rw [present_cons_some hasSpec, present_nil]
    · rfl
  have onPlaceholder :
      ∀ pair given,
        pair.spec = none → keptIf test pair = .ok given → present given = [] := by
    intro pair given noSpec decided
    rcases keptIf_cases decided with rfl | rfl
    · rw [present_cons_none noSpec, present_nil]
    · rfl
  obtain ⟨kept, bareEach, flat⟩ := mapM_present onSpec onPlaceholder testedEach
  change (do return (← (present batch).mapM (keptIf test)).flatten) = _
  rw [bareEach]
  exact congrArg Except.ok flat

/-- Taking out placeholders does not change which specs come first. -/
theorem keepFirst_present
    [BEq β]
    [LawfulBEq β]
    {key : ItemPair → β}
    (tellsPlaceholders :
      ∀ pair other, key pair = key other → pair.spec.isSome = other.spec.isSome)
    {seen seenBare : List β}
    (sameSeen :
      ∀ pair, pair.spec.isSome = true → seenBare.contains (key pair) = seen.contains (key pair)) :
    keepFirst key seenBare (present batch) = present (keepFirst key seen batch) := by
  induction batch generalizing seen seenBare with
  | nil =>
      rfl
  | cons pair rest inductionHypothesis =>
      rw [keepFirst]
      cases spec : pair.spec with
      | none =>
          rw [present_cons_none spec]
          split
          · exact inductionHypothesis sameSeen
          · rw [present_cons_none spec]
            refine inductionHypothesis fun other hasSpec => ?_
            have differs : (key other == key pair) = false := by
              rw [beq_eq_false_iff_ne]
              intro sameKey
              have samePresence := tellsPlaceholders other pair sameKey
              rw [hasSpec, spec] at samePresence
              cases samePresence
            rw [List.contains_cons, differs, Bool.false_or, sameSeen other hasSpec]
      | some text =>
          have hasSpec : pair.spec.isSome = true := by
            rw [spec]
            rfl
          rw [present_cons_some hasSpec, keepFirst, sameSeen pair hasSpec]
          split
          · exact inductionHypothesis sameSeen
          · rw [present_cons_some hasSpec]
            congr 1
            refine inductionHypothesis fun other otherHasSpec => ?_
            rw [List.contains_cons, List.contains_cons, sameSeen other otherHasSpec]

theorem directoryNames_present
    {known : List (Text × Option Text)}
    (named : pipeline.directoryNames known batch = .ok pairs) :
    pipeline.withoutPlaceholders.directoryNames known (present batch) = .ok (present pairs) := by
  induction batch generalizing known pairs with
  | nil =>
      cases named
      rfl
  | cons pair rest inductionHypothesis =>
      cases spec : pair.spec with
      | none =>
          rw [directoryNames, spec] at named
          obtain ⟨later, namedLater, isWhole⟩ := exists_of_bind_eq_ok named
          cases isWhole
          rw [present_cons_none spec, present_append, emit_none, List.nil_append]
          exact inductionHypothesis namedLater
      | some text =>
          have hasSpec : pair.spec.isSome = true := by
            rw [spec]
            rfl
          rw [directoryNames_of_spec spec] at named
          obtain ⟨directory, found, named⟩ := exists_of_bind_eq_ok named
          obtain ⟨later, namedLater, isWhole⟩ := exists_of_bind_eq_ok named
          cases isWhole
          have foundToo :
              pipeline.withoutPlaceholders.directoryOf known text pair.source = .ok directory :=
            found
          rw [present_cons_some hasSpec, present_append, ← emit_withoutPlaceholders,
            directoryNames_of_spec spec, foundToo]
          change (pipeline.withoutPlaceholders.directoryNames _ _ >>= fun later => _) = _
          rw [inductionHypothesis namedLater]
          rfl

theorem directoriesAbove_placeholder
    {pair : ItemPair}
    (noSpec : pair.spec = none) :
    pipeline.directoriesAbove pair = .ok [] := by
  have empty : pair.isEmpty = true := by
    rw [ItemPair.isEmpty, ItemPair.text, noSpec]
    rfl
  rw [directoriesAbove, if_pos empty]
  rfl

theorem runList_present
    {function : ListFunction}
    (blind : function.readsPlaceholders = false)
    {arguments : List Text}
    (ran : pipeline.runList function arguments batch = .ok pairs) :
    pipeline.withoutPlaceholders.runList function arguments (present batch) =
      .ok (present pairs) := by
  cases function with
  | count | metadata | anyHaveMetadataValue =>
      cases blind
  | «exists» | hasMetadata | withMetadataValue | withoutMetadataValue =>
      exact keepIf_present ran
  | combine =>
      cases ran
      refine congrArg Except.ok (ItemPair.present_map _ (fun pair => ?_) batch).symm
      rw [combineWith]
      cases spec : pair.spec with
      | none =>
          rw [spec]
      | some text =>
          rfl
  | clearMetadata =>
      cases ran
      let detach : ItemPair → ItemPair := fun pair => { pair with source := none }
      exact congrArg Except.ok (ItemPair.present_map detach (fun _ => rfl) batch).symm
  | reverse =>
      cases ran
      exact congrArg Except.ok List.filter_reverse.symm
  | distinctWithCase =>
      cases ran
      refine congrArg Except.ok (keepFirst_present (fun pair other sameKey => ?_) fun _ _ => rfl)
      rw [sameKey]
  | distinct =>
      cases ran
      refine congrArg Except.ok (keepFirst_present (fun pair other sameKey => ?_) fun _ _ => rfl)
      simpa using congrArg Option.isSome sameKey
  | directoryName =>
      exact directoryNames_present ran
  | directoriesAbove =>
      obtain ⟨found, foundEach, isSorted⟩ := exists_of_bind_eq_ok ran
      cases isSorted
      have keepsAll : ∀ row : List Text, row.filter (fun _ => true) = row := fun row =>
        List.filter_eq_self.mpr fun _ _ => rfl
      have onSpec :
          ∀ (pair : ItemPair) (given : List Text),
            pair.spec.isSome = true →
              ofResult (pipeline.directoriesAbove pair) = .ok given →
                ofResult (pipeline.directoriesAbove pair) =
                  .ok (given.filter fun _ => true) := by
        intro pair given _ above
        rw [above, keepsAll]
      have onPlaceholder :
          ∀ (pair : ItemPair) (given : List Text),
            pair.spec = none →
              ofResult (pipeline.directoriesAbove pair) = .ok given →
                (given.filter fun _ => true) = [] := by
        intro pair given noSpec above
        rw [directoriesAbove_placeholder noSpec] at above
        cases above
        rfl
      obtain ⟨kept, bareEach, flat⟩ := mapM_present onSpec onPlaceholder foundEach
      rw [keepsAll] at flat
      rw [ItemPair.present_map_of _ _ fun _ => rfl, ← flat]
      have sameDirectories :
          pipeline.withoutPlaceholders.directoriesAbove = pipeline.directoriesAbove :=
        rfl
      rw [runList]
      simp only [sameDirectories, bareEach]
      rfl

/-- Without the placeholders a step gives what it gives with them, but for the placeholders. -/
theorem run_present
    {step : TransformStep}
    (blind : step.readsPlaceholders = false)
    (ran : pipeline.run step batch = .ok pairs) :
    pipeline.withoutPlaceholders.run step (present batch) = .ok (present pairs) := by
  cases step with
  | quoted body =>
      rw [run] at ran
      exact mapSpecs_present ran
  | modifier modifier =>
      rw [run] at ran
      exact mapSpecs_present ran
  | member name arguments =>
      rw [run] at ran
      exact mapSpecs_present ran
  | list function arguments =>
      exact runList_present blind ran

/-- What a transform does reads placeholders only if the transform is a function that does. -/
theorem step_blind
    {transform : Transform}
    (blind : transform.readsPlaceholders = false)
    {step : TransformStep}
    (resolved : pipeline.step transform = .ok step) :
    step.readsPlaceholders = false := by
  cases step with
  | quoted _ | modifier _ | member _ _ =>
      rfl
  | list function arguments =>
      rw [Transform.readsPlaceholders, listFunction?_of_step resolved] at blind
      exact blind

theorem apply_present
    {transform : Transform}
    (blind : transform.readsPlaceholders = false)
    (applied : pipeline.apply transform batch = .ok pairs) :
    pipeline.withoutPlaceholders.apply transform (present batch) = .ok (present pairs) := by
  obtain ⟨step, resolved, ran⟩ := exists_of_bind_eq_ok applied
  have resolvedToo : ofResult (pipeline.withoutPlaceholders.step transform) = .ok step :=
    resolved
  rw [apply, resolvedToo]
  exact run_present (step_blind blind (eq_ok_of_mapError resolved)) ran

end Steps

end Pipeline

namespace ItemPhase

variable {phase : ItemPhase}

/-- The transforms of a vector, one after the other, keep the two runs side by side. -/
theorem runAll_present
    {pipeline : Pipeline}
    {transforms : List Transform}
    (blind : ∀ transform ∈ transforms, transform.readsPlaceholders = false)
    {batch pairs : List ItemPair}
    (ran : runAll pipeline transforms batch = .ok pairs) :
    runAll pipeline.withoutPlaceholders transforms (present batch) = .ok (present pairs) := by
  induction transforms generalizing batch with
  | nil =>
      cases ran
      rfl
  | cons transform rest inductionHypothesis =>
      rw [runAll, List.foldlM_cons] at ran ⊢
      obtain ⟨middle, applied, ran⟩ := exists_of_bind_eq_ok ran
      rw [Pipeline.apply_present (blind _ List.mem_cons_self) applied]
      exact inductionHypothesis
        (fun other isMember => blind other (List.mem_cons_of_mem _ isMember)) ran

theorem present_startOf
    {item : Item}
    {batch : List ItemPair}
    (started : Pipeline.ofResult (phase.startOf item) = .ok batch) :
    present batch = batch := by
  have started : phase.startOf item = .ok batch :=
    eq_ok_of_mapError started
  unfold startOf at started
  dsimp only at started
  split at started
  · split at started
    all_goals
      obtain ⟨base, -, started⟩ := exists_of_bind_eq_ok started
      obtain ⟨files, -, started⟩ := exists_of_bind_eq_ok started
      cases started
      exact ItemPair.present_map_of files _ fun _ => rfl
  · cases started
    rfl

/-- All entries that a vector starts with have a spec. -/
theorem present_startBatch
    {items : List Item}
    {batch : List ItemPair}
    (started : phase.startBatch items = .ok batch) :
    present batch = batch := by
  obtain ⟨found, startedEach, isFlat⟩ := exists_of_bind_eq_ok started
  cases isFlat
  clear started
  induction items generalizing found with
  | nil =>
      cases startedEach
      rfl
  | cons item rest inductionHypothesis =>
      rw [List.mapM_cons] at startedEach
      obtain ⟨first, atFirst, startedEach⟩ := exists_of_bind_eq_ok startedEach
      obtain ⟨later, atRest, startedEach⟩ := exists_of_bind_eq_ok startedEach
      cases startedEach
      rw [List.flatten_cons, present_append, inductionHypothesis later atRest,
        present_startOf atFirst]

/-- The entries of a vector that blind transforms give, with placeholders and without. -/
theorem entries_without_placeholders
    (goesOn : phase.breaks = false)
    {vector : ItemVector}
    (blind : ∀ transform ∈ vector.transforms, transform.readsPlaceholders = false)
    {found : VectorEntries}
    (given : phase.entries vector true = .ok found) :
    phase.entries vector false =
      .ok { pairs := found.pairs.filter (·.spec.isSome), stopped := false } := by
  unfold entries at given ⊢
  dsimp only at given ⊢
  split at given
  · rename_i noItems
    cases given
    rw [if_pos noItems]
    rfl
  · rename_i someItems
    rw [if_neg someItems]
    obtain ⟨batch, started, ran⟩ := exists_of_bind_eq_ok given
    have ran := eq_ok_of_mapError ran
    rw [runTransforms, goesOn] at ran
    obtain ⟨pairs, ranAll, isFound⟩ := exists_of_bind_eq_ok ran
    cases isFound
    have ranBare :
        runAll
            { context := phase.context, keepsPlaceholders := false,
              expression := vector.written }
            vector.transforms (present batch) =
          .ok (present pairs) :=
      runAll_present blind ranAll
    rw [present_startBatch started] at ranBare
    rw [started]
    change (phase.runTransforms _ vector.transforms batch).mapError _ = _
    rw [runTransforms, goesOn, if_neg Bool.false_ne_true, ranBare]
    rfl

/-- The first and the third item have no culture: two placeholders become one, and move behind. -/
theorem entries_without_placeholders_of_cultures :
    let first : Item := { itemType := "F", spec := "a" }
    let second : Item := { itemType := "F", spec := "b", metadata := [("Culture", "fr")] }
    let third : Item := { itemType := "F", spec := "c" }
    let phase : ItemPhase :=
      { items := fun _ => [first, second, third]
        options := .items
        context := .onEmptyMachine }
    let vector : ItemVector :=
      { written := "@(F->'%(Culture)'->Distinct()->Reverse())"
        itemType := "F"
        transforms := [
          { written := "'%(Culture)'", offset := 5, kind := .quoted "%(Culture)" },
          { written := "Distinct()", offset := 19, kind := .function "Distinct" "" },
          { written := "Reverse()", offset := 31, kind := .function "Reverse" "" }]
        separator := none }
    phase.entries vector true =
        .ok { pairs := [.of "fr" (some second), .placeholder (some first)], stopped := false } ∧
      phase.entries vector false =
        .ok { pairs := [.of "fr" (some second)], stopped := false } := by
  intro first second third phase vector
  have given :
      phase.entries vector true =
        .ok { pairs := [.of "fr" (some second), .placeholder (some first)], stopped := false } := by
    decide +kernel
  have blind : ∀ transform ∈ vector.transforms, transform.readsPlaceholders = false := by
    decide +kernel
  have goesOn : phase.breaks = false := by
    decide
  exact ⟨given, entries_without_placeholders goesOn blind given⟩

end ItemPhase

end RefExpand
