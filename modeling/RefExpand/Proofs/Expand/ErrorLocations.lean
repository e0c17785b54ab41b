import RefExpand.Expand.Expander
import RefExpand.Proofs.Expand.PlainErrors
import RefExpand.Proofs.Expand.PropertyFailures

namespace RefExpand

/-!
# Where errors get their locations

The property phase and the transforms attach the location of the element to each error, and
attach it once. Two kinds of errors are raised outside of these: a lookup of metadata that
fails in the metadata phase, and wildcards of items that cannot be expanded. Nothing
attaches a location to them, in whatever form the expression is expanded.
-/

namespace ExpandError

/-- The error carries this location, and no second one inside. -/
def LocatedOnceAt
    (location : Location)
    (error : ExpandError) :
    Prop :=
  ∃ cause : ExpandError, cause.isPlain = true ∧ error = .located location cause

/-- A plain error is located once when a location is attached to it. -/
theorem locatedOnceAt_withLocation
    {error : ExpandError}
    (plain : error.isPlain = true)
    (location : Location) :
    (error.withLocation location).LocatedOnceAt location := by
  cases error with
  | located known cause =>
      cases plain
  | _ =>
      exact ⟨_, rfl, rfl⟩

/-- An error without a location is not located. -/
theorem not_locatedOnceAt
    {error : ExpandError}
    (plain : error.isPlain = true)
    (location : Location) :
    ¬ error.LocatedOnceAt location := by
  rintro ⟨cause, -, rfl⟩
  cases plain

end ExpandError

/-- A failure without a location gets one, if it is an error. -/
theorem Failure.IsPlain.withLocation
    {failure : Failure}
    (plain : failure.IsPlain)
    (location : Location) :
    (failure.withLocation location).ErrorsAre (·.LocatedOnceAt location) := by
  cases failure with
  | error cause =>
      exact cause.locatedOnceAt_withLocation plain location
  | halt breach =>
      trivial

namespace PropertyPhase

variable {phase : PropertyPhase}

/-- An error that a reference raises is located once. -/
theorem Raises.errorsAre
    {inside : Text}
    {failure : Failure}
    (raises : phase.Raises inside failure) :
    failure.ErrorsAre (·.LocatedOnceAt phase.context.location) := by
  cases raises with
  | cutInside asks =>
      trivial
  | call asks raised passes =>
      refine Failure.IsPlain.withLocation ?_ _
      cases raised with
      | error ofCall =>
          exact ofCall.isPlain
      | halt halts =>
          trivial
  | uncallable asks passes =>
      exact ExpandError.locatedOnceAt_withLocation rfl _
  | malformed asks passes =>
      exact ExpandError.locatedOnceAt_withLocation rfl _

theorem value_errorsLocated
    (expression : Text) :
    (phase.value expression).RaisesOnly
      (Failure.ErrorsAre (·.LocatedOnceAt phase.context.location)) :=
  (phase.value_raisesOnly expression).mono fun _ ⟨_, _, raises⟩ => raises.errorsAre

theorem text_errorsLocated
    (expression : Text) :
    (phase.text expression).RaisesOnly
      (Failure.ErrorsAre (·.LocatedOnceAt phase.context.location)) :=
  (value_errorsLocated expression).bind fun _ => .pure _

end PropertyPhase

/-- Replacing raises only what replacing one of the values does. -/
theorem Expansion.RaisesOnly.replaceWith
    {allowed : Failure → Prop}
    {replace : α → Expansion Text}
    (each : ∀ value, (replace value).RaisesOnly allowed)
    (cut : Cut α) :
    (cut.replaceWith replace).RaisesOnly allowed := by
  refine .bind (.mapM fun stretch _ => ?_) fun _ => .pure _
  exact (each _).bind fun _ => .pure _

namespace MetadataTable

/-- Some lookup fails with this error. -/
def FailsWith
    (table : MetadataTable)
    (error : ExpandError) :
    Prop :=
  ∃ itemType name, table.value itemType name = .error error

end MetadataTable

/-- The metadata phase fails as its table does. -/
theorem MetadataPhase.text_raisesOnly
    (phase : MetadataPhase)
    (expression : Text) :
    (phase.text expression).RaisesOnly (Failure.ErrorsAre phase.table.FailsWith) := by
  rw [text, ItemVector.replaceAround_eq]
  refine .replaceWith (fun reference => ?_) _
  unfold replace
  split
  · have found :
        FailsOnly (Failure.ErrorsAre phase.table.FailsWith)
          ((phase.table.value reference.itemType reference.name).mapError .error) := by
      cases looked : phase.table.value reference.itemType reference.name with
      | error error =>
          exact .error ⟨_, _, looked⟩
      | ok value =>
          exact .ok value
    refine (Expansion.RaisesOnly.ofExcept found).bind fun value => ?_
    refine Expansion.RaisesOnly.bind ?_ fun _ => .pure _
    unfold noteSelfReference
    split
    · split
      · exact fun _ => .ok _
      · exact .pure _
    · exact .pure _
  · exact .pure _

namespace ItemPhase

/-- An item of the type cannot be started with, for this error. -/
def FailsToStart
    (phase : ItemPhase)
    (error : ExpandError) :
    Prop :=
  ∃ itemType, ∃ item ∈ phase.items itemType, phase.startOf item = .error error

/-- The error is located once, or an item cannot be started with for it. -/
def MayRaise
    (phase : ItemPhase)
    (error : ExpandError) :
    Prop :=
  error.LocatedOnceAt phase.context.location ∨ phase.FailsToStart error

variable {phase : ItemPhase}

theorem entries_failsOnly
    (vector : ItemVector)
    (keepsPlaceholders : Bool) :
    FailsOnly (Failure.ErrorsAre phase.MayRaise) (phase.entries vector keepsPlaceholders) := by
  unfold entries
  dsimp only
  split
  · exact .ok _
  · refine FailsOnly.bind ?_ fun batch => ?_
    · refine FailsOnly.bind (.mapM fun item isItem => ?_) fun _ => .ok _
      cases start : phase.startOf item with
      | error error =>
          exact .error (.inr ⟨_, item, isItem, start⟩)
      | ok pairs =>
          exact .ok pairs
    · refine (phase.runTransforms_failsOnly _ _ batch).mapError fun failure plain => ?_
      exact (plain.withLocation _).mono fun _ => .inl

theorem text_failsOnly
    (expression : Text) :
    FailsOnly (Failure.ErrorsAre phase.MayRaise) (phase.text expression) := by
  unfold text
  dsimp only
  induction (ItemVector.cut expression).found with
  | nil =>
      exact .ok _
  | cons stretch rest inductionHypothesis =>
      rw [replaceVectors]
      refine (entries_failsOnly stretch.2 true).bind fun found => ?_
      dsimp only
      split
      · exact .ok _
      · exact inductionHypothesis.bind fun _ => .ok _

/-- A vector that stands with other text is an error with a location. -/
theorem single_failsOnly
    (expression : Text)
    (keepsPlaceholders : Bool) :
    FailsOnly (Failure.ErrorsAre phase.MayRaise) (phase.single expression keepsPlaceholders) := by
  unfold single
  split
  · exact .ok _
  · split
    · exact .ok _
    · split
      · exact .error (.inl (ExpandError.locatedOnceAt_withLocation rfl _))
      · refine (entries_failsOnly _ keepsPlaceholders).bind fun found => ?_
        split
        · exact .ok _
        · exact .ok _

end ItemPhase

namespace Expander

/-- The errors that no location is attached to. -/
inductive RaisesEarly
    (expander : Expander) :
    ExpandError → Prop where
  | lookup {table : MetadataTable} {error : ExpandError}
      (isTable : expander.metadata = some table)
      (fails : table.FailsWith error) :
      RaisesEarly expander error
  | start {options : ExpandOptions} {error : ExpandError}
      (fails : (expander.itemPhase options).FailsToStart error) :
      RaisesEarly expander error

/-- The error is located once, or raised where no location is attached. -/
def MayRaise
    (expander : Expander)
    (error : ExpandError) :
    Prop :=
  error.LocatedOnceAt expander.context.location ∨ expander.RaisesEarly error

/-- Every form of expansion ends with such errors only. -/
structure ErrorsOnly
    (expander : Expander)
    (allowed : ExpandError → Prop) : Prop where
  text :
    ∀ options expression,
      (expander.text options expression).RaisesOnly (Failure.ErrorsAre allowed)
  plainText :
    ∀ options expression,
      (expander.plainText options expression).RaisesOnly (Failure.ErrorsAre allowed)
  value :
    ∀ options expression,
      (expander.value options expression).RaisesOnly (Failure.ErrorsAre allowed)
  texts :
    ∀ options expression,
      (expander.texts options expression).RaisesOnly (Failure.ErrorsAre allowed)
  items :
    ∀ {α : Type} options (maker : ItemMaker α) expression,
      (expander.itemsWith options maker expression).RaisesOnly (Failure.ErrorsAre allowed)
  pairs :
    ∀ options expression,
      (expander.pairs options expression).RaisesOnly (Failure.ErrorsAre allowed)
  singleVectorItems :
    ∀ {α : Type} options (maker : ItemMaker α) expression keepsPlaceholders,
      (expander.singleVectorItems options maker expression keepsPlaceholders).RaisesOnly
        (Failure.ErrorsAre allowed)
  vectorPairs :
    ∀ options vector keepsPlaceholders,
      (expander.vectorPairs options vector keepsPlaceholders).RaisesOnly
        (Failure.ErrorsAre allowed)

theorem ErrorsOnly.mono
    {expander : Expander}
    {allowed wider : ExpandError → Prop}
    (errors : expander.ErrorsOnly allowed)
    (widens : ∀ error, allowed error → wider error) :
    expander.ErrorsOnly wider := by
  have each (failure : Failure) (among : failure.ErrorsAre allowed) : failure.ErrorsAre wider :=
    among.mono widens
  exact
    { text := fun options expression => (errors.text options expression).mono each
      plainText := fun options expression => (errors.plainText options expression).mono each
      value := fun options expression => (errors.value options expression).mono each
      texts := fun options expression => (errors.texts options expression).mono each
      items := fun options maker expression => (errors.items options maker expression).mono each
      pairs := fun options expression => (errors.pairs options expression).mono each
      singleVectorItems := fun options maker expression keepsPlaceholders =>
        (errors.singleVectorItems options maker expression keepsPlaceholders).mono each
      vectorPairs := fun options vector keepsPlaceholders =>
        (errors.vectorPairs options vector keepsPlaceholders).mono each }

variable {expander : Expander}

section Phases

variable (options : ExpandOptions)

theorem itemPhase_mayRaise
    {failure : Failure}
    (among : failure.ErrorsAre (expander.itemPhase options).MayRaise) :
    failure.ErrorsAre expander.MayRaise :=
  among.mono fun _ => .imp_right .start

theorem expandMetadata_mayRaise
    (expression : Text) :
    (expander.expandMetadata options expression).RaisesOnly
      (Failure.ErrorsAre expander.MayRaise) := by
  unfold expandMetadata
  split
  · cases isTable : expander.metadata with
    | none =>
        exact .throw trivial
    | some table =>
        refine (MetadataPhase.text_raisesOnly _ expression).mono fun failure among => ?_
        exact among.mono fun error fails => .inr (.lookup isTable fails)
  · exact .pure _

theorem expandProperties_mayRaise
    (expression : Text) :
    (expander.expandProperties options expression).RaisesOnly
      (Failure.ErrorsAre expander.MayRaise) := by
  unfold expandProperties
  split
  · refine (PropertyPhase.text_errorsLocated expression).mono fun failure among => ?_
    exact among.mono fun _ => .inl
  · exact .pure _

theorem expandItems_mayRaise
    (expression : Text) :
    (expander.expandItems options expression).RaisesOnly
      (Failure.ErrorsAre expander.MayRaise) := by
  unfold expandItems
  split
  · refine .ofExcept ((ItemPhase.text_failsOnly expression).mono fun failure among => ?_)
    exact itemPhase_mayRaise options among
  · exact .pure _

theorem single_mayRaise
    (expression : Text)
    (keepsPlaceholders : Bool) :
    (Expansion.ofExcept
      ((expander.itemPhase options).single expression keepsPlaceholders)).RaisesOnly
        (Failure.ErrorsAre expander.MayRaise) :=
  .ofExcept <| (ItemPhase.single_failsOnly expression keepsPlaceholders).mono fun _ =>
    itemPhase_mayRaise options

theorem beforeItems_mayRaise
    (expression : Text) :
    (expander.beforeItems options expression).RaisesOnly
      (Failure.ErrorsAre expander.MayRaise) :=
  (expandMetadata_mayRaise options expression).bind (expandProperties_mayRaise options)

theorem text_mayRaise
    (expression : Text) :
    (expander.text options expression).RaisesOnly (Failure.ErrorsAre expander.MayRaise) :=
  (beforeItems_mayRaise options expression).bind (expandItems_mayRaise options)

theorem value_mayRaise
    (expression : Text) :
    (expander.value options expression).RaisesOnly (Failure.ErrorsAre expander.MayRaise) := by
  have ofText (text : Text) :
      (do
        let expanded ← expander.expandItems options text
        return Value.str expanded : Expansion Value).RaisesOnly
          (Failure.ErrorsAre expander.MayRaise) :=
    (expandItems_mayRaise options text).bind fun _ => .pure _
  unfold value
  refine (expandMetadata_mayRaise options expression).bind fun expanded => ?_
  split
  · have located := (expander.propertyPhase options).value_errorsLocated expanded
    refine (located.mono fun failure among => among.mono fun _ => .inl).bind fun value => ?_
    -- Only a text goes on to the item phase.
    cases value with
    | str text =>
        exact ofText text
    | _ =>
        exact .pure _
  · exact ofText expanded

theorem pieces_mayRaise
    (bare : Text → α)
    (ofVector : SingleVector → List α)
    (expression : Text) :
    (expander.pieces options bare ofVector expression).RaisesOnly
      (Failure.ErrorsAre expander.MayRaise) := by
  refine (beforeItems_mayRaise options expression).bind fun expanded => ?_
  refine Expansion.RaisesOnly.bind (.mapM fun piece _ => ?_) fun _ => .pure _
  refine (single_mayRaise options piece false).bind fun found => ?_
  cases found <;> exact .pure _

end Phases

theorem errorsOnly_mayRaise
    (expander : Expander) :
    expander.ErrorsOnly expander.MayRaise where
  text :=
    text_mayRaise
  plainText options expression :=
    (text_mayRaise options expression).bind fun _ => .pure _
  value :=
    value_mayRaise
  texts options expression :=
    (text_mayRaise options expression).bind fun _ => .pure _
  items options maker expression :=
    pieces_mayRaise options maker.bare maker.ofVector expression
  pairs options expression :=
    pieces_mayRaise options _ _ expression
  singleVectorItems options _ expression keepsPlaceholders :=
    (single_mayRaise options expression keepsPlaceholders).bind fun _ => .pure _
  vectorPairs options vector keepsPlaceholders :=
    Expansion.RaisesOnly.bind
      (.ofExcept <| (ItemPhase.entries_failsOnly vector keepsPlaceholders).mono fun _ =>
        itemPhase_mayRaise options)
      fun _ => .pure _

/-- What is raised early carries no location, if the table's errors carry none. -/
theorem RaisesEarly.isPlain
    (plain : ∀ table, expander.metadata = some table → table.LooksUpPlainly)
    {error : ExpandError}
    (early : expander.RaisesEarly error) :
    error.isPlain = true := by
  cases early with
  | lookup isTable fails =>
      obtain ⟨itemType, name, failure⟩ := fails
      exact plain _ isTable itemType name error failure
  | start fails =>
      obtain ⟨itemType, item, -, failure⟩ := fails
      exact ItemPhase.startOf_failsPlainly _ item error failure

/--
Every error of every form of expansion carries the location of the element, and carries it
once, unless it is raised early: where metadata is looked up in the metadata phase, or where
the wildcards of an item are expanded. If the lookups fail with errors that carry no
location themselves, as those of items and of plain keys do, these errors carry none.
-/
theorem errors_located_unless_early
    (expander : Expander) :
    expander.ErrorsOnly
        (fun error =>
          error.LocatedOnceAt expander.context.location ∨ expander.RaisesEarly error) ∧
      ((∀ table, expander.metadata = some table → table.LooksUpPlainly) →
        expander.ErrorsOnly fun error =>
          error.LocatedOnceAt expander.context.location ↔ ¬ expander.RaisesEarly error) := by
  refine ⟨expander.errorsOnly_mayRaise, fun plain => ?_⟩
  refine expander.errorsOnly_mayRaise.mono fun error mayRaise => ?_
  have unlocated (early : expander.RaisesEarly error) :
      ¬ error.LocatedOnceAt expander.context.location :=
    ExpandError.not_locatedOnceAt (early.isPlain plain) _
  constructor
  · exact fun located early => unlocated early located
  · exact mayRaise.resolve_right

/-- A vector with text around it fails with a location, under a table of an item. -/
theorem errors_located_unless_early_at_vector :
    let fileSystem := ({ failing := [.currentDirectory] } : ListedFiles).toFileSystem
    let location : Location := { file := some "/p/a.proj".toList }
    let expander : Expander :=
      { metadata := some (({ itemType := "A", spec := "x" } : Item).toTable fileSystem)
        context := { ExpandContext.onEmptyMachine with location, fileSystem } }
    let error : ExpandError := .located location (.vectorConcatenation "a@(A)")
    (∀ table, expander.metadata = some table → table.LooksUpPlainly) ∧
      ((expander.pairs .items "a@(A)").runFrom {}).1 = .error (.error error) ∧
      (error.LocatedOnceAt location ↔ ¬ expander.RaisesEarly error) := by
  intro fileSystem location expander error
  have plain : ∀ table, expander.metadata = some table → table.LooksUpPlainly := by
    rintro table ⟨⟩
    exact MetadataTable.ofItem_looksUpPlainly _ _
  have fails : ((expander.pairs .items "a@(A)").runFrom {}).1 = .error (.error error) := by
    decide +kernel
  have located := (errors_located_unless_early expander).2 plain
  exact ⟨plain, fails, (located.pairs _ _).error_allowed fails⟩

/-- Neither a lookup that fails nor wildcards that fail to expand are located. -/
theorem not_every_error_located :
    let location : Location := { file := some "/p/a.proj".toList }
    let context (failing : FallibleOperation) : ExpandContext :=
      { ExpandContext.onEmptyMachine with
        location
        fileSystem := ({ failing := [failing] } : ListedFiles).toFileSystem
        itemizesWildcards := true }
    let item : Item := { itemType := "A", spec := "*.cs" }
    let lookingUp : Expander :=
      { metadata := some (item.toTable (context .currentDirectory).fileSystem)
        context := context .currentDirectory }
    let itemizing : Expander :=
      { items := fun _ => [item]
        context := context .wildcards }
    ¬ lookingUp.ErrorsOnly (·.LocatedOnceAt location) ∧
      ¬ itemizing.ErrorsOnly (·.LocatedOnceAt location) := by
  intro location context item lookingUp itemizing
  constructor
  · intro located
    have fails :
        ((lookingUp.text .metadata "%(FullPath)").runFrom {}).1 =
          .error (.error (.fileSystem "." "cwd failed")) := by
      decide +kernel
    exact ExpandError.not_locatedOnceAt rfl _ ((located.text _ _).error_allowed fails)
  · intro located
    have fails :
        ((itemizing.text .items "@(A)").runFrom {}).1 =
          .error (.error (.fileSystem "*.cs" "wildcards failed")) := by
      decide +kernel
    exact ExpandError.not_locatedOnceAt rfl _ ((located.text _ _).error_allowed fails)

end Expander

end RefExpand
