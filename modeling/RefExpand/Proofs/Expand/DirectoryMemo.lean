import RefExpand.Proofs.Expand.Placeholders

namespace RefExpand

/-!
# The directories that were found before

Of the transforms that run per item one looks back: a spec that was met before
gets the directory found then, whatever item it comes from. Where the directory
of a pair is decided by its plain spec, this changes nothing, and what a batch
gives is what its parts give. Two items of one relative spec in two projects are
enough for the batch to give something else.
-/

namespace Pipeline

variable {pipeline : Pipeline} {transform : Transform}

/-- On pairs of a kind, the outcome of a batch is that of its front and of what stands behind. -/
def SplitsOn
    (admitted : ItemPair → Prop)
    (action : List ItemPair → Except Failure (List ItemPair)) :
    Prop :=
  ∀ front back,
    (∀ pair ∈ front ++ back, admitted pair) →
      action (front ++ back) = do return (← action front) ++ (← action back)

/-- The directory of a spec that was not met before; an empty one is none. -/
def ownDirectory
    (pipeline : Pipeline)
    (spec : Text)
    (source : Option Item) :
    Except Failure (Option Text) := do
  let path ← ofResult (pipeline.rooted spec source)
  return ((Path.directoryName? path).map Text.escape).filter (!·.isEmpty)

theorem map_directoryOf_nil
    (spec : Text)
    (source : Option Item) :
    (pipeline.directoryOf [] spec source).map (·.filter (!·.isEmpty)) =
      pipeline.ownDirectory spec source := by
  rw [directoryOf, ownDirectory]
  cases ofResult (pipeline.rooted spec source) <;> rfl

/-- Among pairs of a kind, those with one plain spec have one directory. -/
def SharesDirectories
    (pipeline : Pipeline)
    (admitted : ItemPair → Prop) :
    Prop :=
  ∀ first second spec other directory,
    admitted first → first.spec = some spec →
    admitted second → second.spec = some other →
    other.unescape = spec.unescape →
    pipeline.ownDirectory spec first.source = .ok directory →
      pipeline.ownDirectory other second.source = .ok directory

/-- An empty result gives what no result gives. -/
theorem emit_filter
    (spec : Option Text)
    (source : Option Item) :
    pipeline.emit (spec.filter (!·.isEmpty)) source = pipeline.emit spec source := by
  simp [emit, Option.filter_filter]

/-- What a result gives tells the result, unless it is empty. -/
theorem filter_eq_of_emit_eq
    {spec other : Option Text}
    {source : Option Item}
    (same : pipeline.emit spec source = pipeline.emit other source) :
    spec.filter (!·.isEmpty) = other.filter (!·.isEmpty) := by
  obtain ⟨context, keepsPlaceholders, expression⟩ := pipeline
  unfold emit at same
  generalize spec.filter (!·.isEmpty) = shown at *
  generalize other.filter (!·.isEmpty) = shownOther at *
  cases keepsPlaceholders <;> cases shown <;> cases shownOther <;>
    simp_all [ItemPair.of, ItemPair.placeholder]

/-- A batch that is mapped gives what its first pair gives, and then the others. -/
theorem mapSpecs_cons
    (action : Text → Option Item → Except Failure (Option Text))
    (pair : ItemPair)
    (rest : List ItemPair) :
    pipeline.mapSpecs action (pair :: rest) = do
      return (← pipeline.mapSpec action pair) ++ (← pipeline.mapSpecs action rest) := by
  change
    (do return (← (pair :: rest).mapM (pipeline.mapSpec action)).flatten) =
      (do return (← pipeline.mapSpec action pair) ++
        (← (do return (← rest.mapM (pipeline.mapSpec action)).flatten)))
  rw [List.mapM_cons]
  simp

/-- What is known of a spec holds for all pairs of a kind that have it. -/
def Knows
    (pipeline : Pipeline)
    (admitted : ItemPair → Prop)
    (known : List (Text × Option Text)) :
    Prop :=
  ∀ pair spec directory,
    admitted pair → pair.spec = some spec → known.lookup spec.unescape = some directory →
      pipeline.ownDirectory spec pair.source = .ok (directory.filter (!·.isEmpty))

section Memo

variable {admitted : ItemPair → Prop} {known : List (Text × Option Text)}

/-- With and without what is known, the same directory is found. -/
theorem Knows.map_directoryOf
    (knows : pipeline.Knows admitted known)
    {pair : ItemPair}
    {text : Text}
    (isAdmitted : admitted pair)
    (spec : pair.spec = some text) :
    (pipeline.directoryOf known text pair.source).map (·.filter (!·.isEmpty)) =
      pipeline.ownDirectory text pair.source := by
  rw [directoryOf]
  cases found : known.lookup text.unescape with
  | some directory =>
      exact (knows pair text directory isAdmitted spec found).symm
  | none =>
      exact map_directoryOf_nil text pair.source

/-- What was found for one pair may be remembered for the others with its spec. -/
theorem Knows.cons
    (shares : pipeline.SharesDirectories admitted)
    (knows : pipeline.Knows admitted known)
    {pair : ItemPair}
    {text : Text}
    (isAdmitted : admitted pair)
    (spec : pair.spec = some text)
    {directory : Option Text}
    (own : pipeline.ownDirectory text pair.source = .ok (directory.filter (!·.isEmpty))) :
    pipeline.Knows admitted ((text.unescape, directory) :: known) := by
  intro other otherText remembered otherAdmitted otherSpec found
  rw [List.lookup_cons] at found
  cases same : otherText.unescape == text.unescape with
  | true =>
      rw [same] at found
      cases found
      exact shares pair other text otherText _ isAdmitted spec otherAdmitted otherSpec
        (beq_iff_eq.mp same) own
  | false =>
      rw [same] at found
      exact knows other otherText remembered otherAdmitted otherSpec found

/-- Where pairs of one spec share a directory, each pair gets its own. -/
theorem directoryNames_eq_mapSpecs
    (shares : pipeline.SharesDirectories admitted)
    (knows : pipeline.Knows admitted known)
    {batch : List ItemPair}
    (allAdmitted : ∀ pair ∈ batch, admitted pair) :
    pipeline.directoryNames known batch = pipeline.mapSpecs pipeline.ownDirectory batch := by
  induction batch generalizing known with
  | nil =>
      rfl
  | cons pair rest inductionHypothesis =>
      have isAdmitted := allAdmitted pair List.mem_cons_self
      have restAdmitted : ∀ other ∈ rest, admitted other :=
        fun other isMember => allAdmitted other (List.mem_cons_of_mem _ isMember)
      rw [mapSpecs_cons]
      cases spec : pair.spec with
      | none =>
          rw [directoryNames, mapSpec]
          simp only [spec]
          rw [inductionHypothesis knows restAdmitted]
          rfl
      | some text =>
          have own := knows.map_directoryOf isAdmitted spec
          rw [directoryNames_of_spec spec, mapSpec]
          simp only [spec]
          cases found : pipeline.directoryOf known text pair.source with
          | error failure =>
              rw [found] at own
              rw [← own]
              rfl
          | ok directory =>
              rw [found] at own
              have later :=
                inductionHypothesis (knows.cons shares isAdmitted spec own.symm) restAdmitted
              rw [← own]
              simp only [Except.map, bind, Except.bind, emit_filter]
              rw [later]
              rfl

/-- Directories that are shared by the pairs of one spec split. -/
theorem splitsOn_directoryNames
    (shares : pipeline.SharesDirectories admitted) :
    SplitsOn admitted (pipeline.directoryNames []) := by
  have knowsNothing : pipeline.Knows admitted [] := by
    intro pair spec directory _ _ found
    cases found
  have mapped :
      ∀ batch, (∀ pair ∈ batch, admitted pair) →
        pipeline.directoryNames [] batch = pipeline.mapSpecs pipeline.ownDirectory batch :=
    fun batch allAdmitted => directoryNames_eq_mapSpecs shares knowsNothing allAdmitted
  intro front back allAdmitted
  have frontAdmitted : ∀ pair ∈ front, admitted pair :=
    fun pair isMember => allAdmitted pair (List.mem_append_left back isMember)
  have backAdmitted : ∀ pair ∈ back, admitted pair :=
    fun pair isMember => allAdmitted pair (List.mem_append_right front isMember)
  rw [mapped _ allAdmitted, mapped front frontAdmitted, mapped back backAdmitted]
  exact Splits.ofEach _ front back

theorem directoryNames_singleton
    (known : List (Text × Option Text))
    {pair : ItemPair}
    {text : Text}
    (spec : pair.spec = some text) :
    pipeline.directoryNames known [pair] = do
      return pipeline.emit (← pipeline.directoryOf known text pair.source) pair.source := by
  rw [directoryNames_of_spec spec]
  simp [directoryNames, bind, Except.bind, pure, Except.pure]

/-- Directories that split are shared: the second of two pairs does not look at the first. -/
theorem sharesDirectories_of_splitsOn
    (splits : SplitsOn admitted (pipeline.directoryNames [])) :
    pipeline.SharesDirectories admitted := by
  intro first second spec other directory firstAdmitted firstSpec secondAdmitted secondSpec same own
  have bothAdmitted : ∀ pair ∈ [first] ++ [second], admitted pair := by
    simp [firstAdmitted, secondAdmitted]
  have both := splits [first] [second] bothAdmitted
  rw [← map_directoryOf_nil] at own ⊢
  cases atFirst : pipeline.directoryOf [] spec first.source with
  | error failure =>
      rw [atFirst] at own
      cases own
  | ok found =>
      have atSecond :
          pipeline.directoryOf [(spec.unescape, found)] other second.source = .ok found := by
        rw [directoryOf, List.lookup_cons, same, beq_self_eq_true]
      have batch :
          pipeline.directoryNames [] [first, second] =
            .ok (pipeline.emit found first.source ++ pipeline.emit found second.source) := by
        rw [directoryNames_of_spec firstSpec, atFirst]
        change (pipeline.directoryNames _ [second] >>= fun later => _) = _
        rw [directoryNames_singleton _ secondSpec, atSecond]
        rfl
      rw [List.singleton_append, batch, directoryNames_singleton _ firstSpec,
        directoryNames_singleton _ secondSpec, atFirst] at both
      cases again : pipeline.directoryOf [] other second.source with
      | error failure =>
          rw [again] at both
          cases both
      | ok foundAgain =>
          rw [again] at both
          have given := List.append_cancel_left (Except.ok.inj both)
          rw [atFirst] at own
          rw [← own]
          exact congrArg Except.ok (filter_eq_of_emit_eq given).symm

end Memo

/--
A transform that runs per item splits on the pairs of a kind: always if it finds no
directories, and else exactly if the pairs of one spec share theirs.
-/
theorem splitsOn_apply_iff
    (perItem : transform.runsPerItem = true)
    (admitted : ItemPair → Prop) :
    SplitsOn admitted (pipeline.apply transform) ↔
      ∀ arguments,
        pipeline.step transform = .ok (.list .directoryName arguments) →
          pipeline.SharesDirectories admitted := by
  constructor
  · intro splits arguments resolved
    refine sharesDirectories_of_splitsOn fun front back allAdmitted => ?_
    have applied := splits front back allAdmitted
    unfold apply at applied
    rwa [resolved] at applied
  · intro shares front back allAdmitted
    unfold apply
    cases resolved : pipeline.step transform with
    | error failure =>
        rfl
    | ok step =>
        rcases step_cases perItem resolved with actsPerPair | ⟨-, arguments, rfl⟩
        · exact run_splits actsPerPair front back
        · exact splitsOn_directoryNames (shares arguments resolved) front back allAdmitted

/-- Items of one project share their directories. -/
theorem sharesDirectories_of_directory
    (directory : Option Text) :
    pipeline.SharesDirectories fun pair => pair.source.bind (·.directory) = directory := by
  intro first second spec other found inFirst _ inSecond _ same own
  have sameBase : pipeline.baseDirectory second.source = pipeline.baseDirectory first.source := by
    rw [baseDirectory, baseDirectory, inFirst, inSecond]
  have sameRoot : pipeline.rooted other second.source = pipeline.rooted spec first.source := by
    rw [rooted, rooted, same, sameBase]
  rw [ownDirectory, sameRoot]
  exact own

/-- The function that finds directories, in a vector of its own. -/
def findingDirectories : Transform :=
  { written := "DirectoryName()", offset := 5, kind := .function "DirectoryName" "" }

/-- In one project the directories of a batch are those of its parts. -/
theorem directories_split_in_one_project :
    let pipeline : Pipeline :=
      { context := .onEmptyMachine
        keepsPlaceholders := false
        expression := "@(A->DirectoryName())" }
    findingDirectories.runsPerItem = true ∧
      SplitsOn (fun pair => pair.source.bind (·.directory) = some "/p".toList)
        (pipeline.apply findingDirectories) := by
  intro pipeline
  have perItem : findingDirectories.runsPerItem = true := by
    decide
  exact ⟨perItem, (splitsOn_apply_iff perItem _).mpr fun _ _ => sharesDirectories_of_directory _⟩

/-- Of two items of one relative spec, the second gets the directory of the first. -/
theorem not_every_batch_splits :
    ¬ ∀ (pipeline : Pipeline) (transform : Transform),
        transform.runsPerItem = true → Splits (pipeline.apply transform) := by
  intro always
  let pipeline : Pipeline :=
    { context := .onEmptyMachine
      keepsPlaceholders := false
      expression := "@(A->DirectoryName())" }
  let item (directory : Text) : Item :=
    { itemType := "A", spec := "sub/x", directory }
  let pair (directory : Text) : ItemPair :=
    .of "sub/x" (some (item directory))
  have splits := always pipeline findingDirectories (by decide) [pair "/p"] [pair "/q"]
  have together :
      pipeline.apply findingDirectories [pair "/p", pair "/q"] =
        .ok [.of "/p/sub" (some (item "/p")), .of "/p/sub" (some (item "/q"))] := by
    rfl
  have atFirst :
      pipeline.apply findingDirectories [pair "/p"] = .ok [.of "/p/sub" (some (item "/p"))] := by
    rfl
  have atSecond :
      pipeline.apply findingDirectories [pair "/q"] = .ok [.of "/q/sub" (some (item "/q"))] := by
    rfl
  rw [List.singleton_append, together, atFirst, atSecond] at splits
  exact absurd (Except.ok.inj splits) (by decide)

end Pipeline

end RefExpand
