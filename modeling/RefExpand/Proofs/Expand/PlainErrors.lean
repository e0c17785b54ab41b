import RefExpand.Expand.Items
import RefExpand.Proofs.Call.Failures
import RefExpand.Proofs.Expand.MetadataLookups

namespace RefExpand

/-!
# Errors without a location

What looks metadata up, and every transform, fails with errors that carry no location.
The location is attached where a whole vector or a whole reference is expanded.
-/

namespace ExpandError

/-- The error carries no location. -/
def isPlain : ExpandError → Bool
  | .located .. => false
  | _ => true

theorem OfCall.isPlain
    {context : Text}
    {error : ExpandError}
    (ofCall : error.OfCall context) :
    error.isPlain = true := by
  cases ofCall <;> rfl

end ExpandError

/-- The result carries no location if it is an error. -/
abbrev FailsPlainly
    (result : Except ExpandError α) :
    Prop :=
  FailsOnly (·.isPlain = true) result

/-- The failure is a halt, or an error that carries no location. -/
abbrev Failure.IsPlain :
    Failure → Prop :=
  ErrorsAre (·.isPlain = true)

namespace SpecModifier

variable {fs : FileSystem}

theorem currentDirectory_failsPlainly :
    FailsPlainly (currentDirectory fs) :=
  .reworded (fun _ => by rfl) _

theorem fullPathOf_failsPlainly
    (input : Input) :
    FailsPlainly (fullPathOf input fs) := by
  unfold fullPathOf
  dsimp only
  split
  · exact .ok _
  · split
    · exact .ok _
    · exact currentDirectory_failsPlainly.bind fun _ => .ok _

theorem fileTime_failsPlainly
    (modifier : SpecModifier)
    (input : Input) :
    FailsPlainly (fileTime modifier input fs) := by
  unfold fileTime
  refine (fullPathOf_failsPlainly input).bind fun full => ?_
  dsimp only
  split
  · exact .error rfl
  · exact .ok _

theorem evaluate_failsPlainly
    (modifier : SpecModifier)
    (input : Input) :
    FailsPlainly (modifier.evaluate input fs) := by
  cases modifier with
  | fullPath =>
      exact fullPathOf_failsPlainly input
  | rootDir | directory =>
      exact (fullPathOf_failsPlainly input).map _
  | modifiedTime | createdTime | accessedTime =>
      exact fileTime_failsPlainly _ input
  | _ =>
      exact .ok _

end SpecModifier

theorem Item.metadataValue_failsPlainly
    (item : Item)
    (fs : FileSystem)
    (name : Text) :
    FailsPlainly (item.metadataValue fs name) := by
  unfold metadataValue
  split
  · exact .ok _
  · exact SpecModifier.evaluate_failsPlainly _ _
  · exact .ok _

namespace MetadataTable

/-- No lookup fails with an error that carries a location. -/
def LooksUpPlainly
    (table : MetadataTable) :
    Prop :=
  ∀ itemType name, FailsPlainly (table.value itemType name)

theorem ofStrings_looksUpPlainly
    (strings : StringMetadata) :
    strings.toTable.LooksUpPlainly := by
  intro itemType name
  cases itemType <;> exact .ok _

theorem ofItem_looksUpPlainly
    (item : Item)
    (fs : FileSystem) :
    (item.toTable fs).LooksUpPlainly := by
  intro itemType name
  cases itemType with
  | none =>
      exact item.metadataValue_failsPlainly fs name
  | some wanted =>
      dsimp only [Item.toTable]
      split
      · exact item.metadataValue_failsPlainly fs name
      · exact .ok _

end MetadataTable

/-- Replacing fails only as replacing one of the values does. -/
theorem FailsOnly.replaceWith
    {allowed : ε → Prop}
    {replace : α → Except ε Text}
    (each : ∀ value, FailsOnly allowed (replace value))
    (cut : Cut α) :
    FailsOnly allowed (cut.replaceWith replace) := by
  refine .bind (.mapM fun stretch _ => ?_) fun _ => .ok _
  exact (each _).bind fun _ => .ok _

theorem MetadataTable.LooksUpPlainly.fill
    {table : MetadataTable}
    (plain : table.LooksUpPlainly)
    (text : Text) :
    FailsPlainly (table.fill text) := by
  rw [MetadataTable.fill, ItemVector.replaceAround_eq]
  exact .replaceWith (fun _ => plain _ _) _

namespace ItemPair

variable {fs : FileSystem}

theorem toTable_looksUpPlainly
    (spec : Text)
    (source : Option Item)
    (fs : FileSystem) :
    (toTable spec source fs).LooksUpPlainly := by
  have ofPair (name : Text) : FailsPlainly (metadataOf spec source fs name) := by
    unfold metadataOf
    split
    · exact .ok _
    · exact SpecModifier.evaluate_failsPlainly _ _
    · exact .ok _
  intro itemType name
  dsimp only [toTable]
  split
  · split
    · exact ofPair name
    · exact .ok _
  · exact ofPair name

theorem sourceMetadata_failsPlainly
    (pair : ItemPair)
    (name : Text) :
    FailsPlainly (pair.sourceMetadata fs name) := by
  unfold sourceMetadata
  split
  · exact Item.metadataValue_failsPlainly _ fs name
  · exact .ok _

theorem hasMetadataValue_failsPlainly
    (pair : ItemPair)
    (name wanted : Text) :
    FailsPlainly (pair.hasMetadataValue fs name wanted) := by
  unfold hasMetadataValue
  split
  · exact (pair.sourceMetadata_failsPlainly name).bind fun _ => .ok _
  · exact .ok _

end ItemPair

namespace Pipeline

variable {pipeline : Pipeline}

theorem ofResult_failsOnly
    {result : Except ExpandError α}
    (plain : FailsPlainly result) :
    FailsOnly Failure.IsPlain (ofResult result) :=
  plain.mapError fun _ isPlain => isPlain

/-- Arguments that do not fit are the error of a transform. -/
theorem step_failsPlainly
    (transform : Transform) :
    FailsPlainly (pipeline.step transform) := by
  have arity (name : Text) (arguments : List Argument) (count : Nat) :
      FailsPlainly (pipeline.checkArity name arguments count) := by
    unfold checkArity
    split
    · exact .ok _
    · exact .error rfl
  unfold step
  split
  · exact .ok _
  · refine FailsOnly.bind (.reworded (fun _ => by rfl) _) fun arguments => ?_
    split
    · exact (arity _ _ _).bind fun _ => .ok _
    · split
      · exact (arity _ _ _).bind fun _ => .ok _
      · exact .ok _

section Runs

variable {allowed : Failure → Prop}

theorem mapSpecs_failsOnly
    {action : Text → Option Item → Except Failure (Option Text)}
    (each : ∀ spec source, FailsOnly allowed (action spec source))
    (batch : List ItemPair) :
    FailsOnly allowed (pipeline.mapSpecs action batch) := by
  refine FailsOnly.bind (.mapM fun pair _ => ?_) fun _ => .ok _
  split
  · exact .ok _
  · exact (each _ _).bind fun _ => .ok _

theorem keepIf_failsOnly
    {test : ItemPair → Except Failure Bool}
    (each : ∀ pair, FailsOnly allowed (test pair))
    (batch : List ItemPair) :
    FailsOnly allowed (keepIf test batch) :=
  FailsOnly.bind (.mapM fun pair _ => (each pair).bind fun _ => .ok _) fun _ => .ok _

end Runs

theorem rooted_failsPlainly
    (spec : Text)
    (source : Option Item) :
    FailsPlainly (pipeline.rooted spec source) := by
  have base : FailsPlainly (pipeline.baseDirectory source) := by
    unfold baseDirectory
    split
    · exact .ok _
    · exact SpecModifier.currentDirectory_failsPlainly
  unfold rooted
  dsimp only
  split
  · exact .ok _
  · exact base.bind fun _ => .ok _

theorem existsAt_failsPlainly
    (pair : ItemPair) :
    FailsPlainly (pipeline.existsAt pair) := by
  unfold existsAt
  split
  · exact .ok _
  · exact (rooted_failsPlainly _ _).bind fun _ => .ok _

theorem directoriesAbove_failsPlainly
    (pair : ItemPair) :
    FailsPlainly (pipeline.directoriesAbove pair) := by
  unfold directoriesAbove
  split
  · exact .ok _
  · exact (rooted_failsPlainly _ _).bind fun _ => .ok _

theorem anyHas_failsPlainly
    {fs : FileSystem}
    (name wanted : Text)
    (batch : List ItemPair) :
    FailsPlainly (anyHas fs name wanted batch) := by
  induction batch with
  | nil =>
      exact .ok _
  | cons pair rest inductionHypothesis =>
      refine (pair.hasMetadataValue_failsPlainly name wanted).bind fun has => ?_
      cases has with
      | true =>
          exact .ok _
      | false =>
          exact inductionHypothesis

theorem directoryNames_failsOnly
    (known : List (Text × Option Text))
    (batch : List ItemPair) :
    FailsOnly Failure.IsPlain (pipeline.directoryNames known batch) := by
  induction batch generalizing known with
  | nil =>
      exact .ok _
  | cons pair rest inductionHypothesis =>
      rw [directoryNames]
      split
      · exact (inductionHypothesis known).bind fun _ => .ok _
      · rename_i spec present
        have later (directory : Option Text) :
            FailsOnly Failure.IsPlain (do
              let produced ←
                pipeline.directoryNames ((spec.unescape, directory) :: known) rest
              return pipeline.emit directory pair.source ++ produced) :=
          (inductionHypothesis _).bind fun _ => .ok _
        dsimp only
        split
        · exact later _
        · exact (ofResult_failsOnly (rooted_failsPlainly _ _)).bind fun _ => later _

theorem runList_failsOnly
    (function : ListFunction)
    (arguments : List Text)
    (batch : List ItemPair) :
    FailsOnly Failure.IsPlain (pipeline.runList function arguments batch) := by
  cases function with
  | «exists» =>
      exact keepIf_failsOnly (fun pair => ofResult_failsOnly (existsAt_failsPlainly pair)) batch
  | directoriesAbove =>
      refine FailsOnly.bind (.mapM fun pair _ => ?_) fun _ => .ok _
      exact ofResult_failsOnly (directoriesAbove_failsPlainly pair)
  | directoryName =>
      exact directoryNames_failsOnly [] batch
  | metadata =>
      refine FailsOnly.bind (.mapM fun pair _ => ?_) fun _ => .ok _
      exact (ofResult_failsOnly (pair.sourceMetadata_failsPlainly _)).bind fun _ => .ok _
  | hasMetadata =>
      refine keepIf_failsOnly (fun pair => ofResult_failsOnly ?_) batch
      exact (pair.sourceMetadata_failsPlainly _).map _
  | withMetadataValue =>
      refine keepIf_failsOnly (fun pair => ofResult_failsOnly ?_) batch
      exact pair.hasMetadataValue_failsPlainly _ _
  | withoutMetadataValue =>
      refine keepIf_failsOnly (fun pair => ofResult_failsOnly ?_) batch
      exact (pair.hasMetadataValue_failsPlainly _ _).map _
  | anyHaveMetadataValue =>
      exact (ofResult_failsOnly (anyHas_failsPlainly _ _ batch)).bind fun _ => .ok _
  | _ =>
      exact .ok _

theorem callOnSpec_failsOnly
    (name : Text)
    (arguments : List Argument)
    (spec : Text) :
    FailsOnly Failure.IsPlain (pipeline.callOnSpec name arguments spec) := by
  refine FailsOnly.bind ?_ fun _ => .ok _
  exact Resolver.callInstance_failsOnly.mono fun failure ofCall => ofCall.mono fun _ => (·.isPlain)

/-- A step fails with errors that carry no location. -/
theorem run_failsOnly
    (step : TransformStep)
    (batch : List ItemPair) :
    FailsOnly Failure.IsPlain (pipeline.run step batch) := by
  unfold run
  cases step with
  | quoted body =>
      refine mapSpecs_failsOnly (fun spec source => .map (ofResult_failsOnly ?_) some) batch
      exact (ItemPair.toTable_looksUpPlainly spec source _).fill body
  | modifier modifier =>
      refine mapSpecs_failsOnly (fun spec source => .map (ofResult_failsOnly ?_) some) batch
      exact ItemPair.toTable_looksUpPlainly spec source _ none modifier.name
  | list function arguments =>
      exact runList_failsOnly function arguments batch
  | member name arguments =>
      exact mapSpecs_failsOnly (fun spec _ => callOnSpec_failsOnly name arguments spec) batch

theorem apply_failsOnly
    (transform : Transform)
    (batch : List ItemPair) :
    FailsOnly Failure.IsPlain (pipeline.apply transform batch) :=
  (ofResult_failsOnly (step_failsPlainly transform)).bind fun step => run_failsOnly step batch

theorem applyUntilFound_failsOnly
    (transform : Transform)
    (batch : List ItemPair) :
    FailsOnly Failure.IsPlain (pipeline.applyUntilFound transform batch) := by
  have each : FailsOnly Failure.IsPlain (pipeline.applyEach transform batch) := by
    induction batch with
    | nil =>
        exact .ok _
    | cons pair rest inductionHypothesis =>
        rw [applyEach]
        refine (apply_failsOnly transform [pair]).bind fun produced => ?_
        split
        · exact .ok _
        · exact inductionHypothesis.bind fun _ => .ok _
  unfold applyUntilFound
  split
  · exact each
  · exact (apply_failsOnly transform batch).bind fun _ => .ok _

end Pipeline

namespace ItemPhase

theorem startOf_failsPlainly
    (phase : ItemPhase)
    (item : Item) :
    FailsPlainly (phase.startOf item) := by
  have files (base pattern : Text) :
      FailsPlainly (do
        let files ←
          (phase.context.fileSystem.matchWildcards base pattern).mapError fun failure =>
            ExpandError.fileSystem pattern failure.message
        return files.map fun file => ItemPair.of file.escape (some item)) :=
    FailsOnly.bind (.reworded (fun _ => by rfl) _) fun _ => .ok _
  unfold startOf
  dsimp only
  split
  · split
    · exact files _ _
    · exact SpecModifier.currentDirectory_failsPlainly.bind fun base => files base _
  · exact .ok _

theorem runAll_failsOnly
    {pipeline : Pipeline}
    (transforms : List Transform)
    (batch : List ItemPair) :
    FailsOnly Failure.IsPlain (runAll pipeline transforms batch) := by
  induction transforms generalizing batch with
  | nil =>
      exact .ok _
  | cons transform rest inductionHypothesis =>
      rw [runAll, List.foldlM_cons]
      exact (Pipeline.apply_failsOnly transform batch).bind inductionHypothesis

/-- The transforms of a vector fail with errors that carry no location. -/
theorem runTransforms_failsOnly
    (phase : ItemPhase)
    (pipeline : Pipeline)
    (transforms : List Transform)
    (batch : List ItemPair) :
    FailsOnly Failure.IsPlain (phase.runTransforms pipeline transforms batch) := by
  unfold runTransforms
  split
  · split
    · refine (runAll_failsOnly _ batch).bind fun before => ?_
      exact (Pipeline.applyUntilFound_failsOnly _ before).bind fun _ => .ok _
    · exact .ok _
  · exact (runAll_failsOnly transforms batch).bind fun _ => .ok _

end ItemPhase

end RefExpand
