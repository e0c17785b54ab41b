import Mathlib.Data.List.Forall2
import RefExpand.Proofs.Expand.DirectoryMemo
import RefExpand.Proofs.Expand.SingleItem

namespace RefExpand

/-!
# Transforms that keep the places

With placeholders a transform that maps specs gives one pair for each that it
gets, in the same order and with the same source, unless it is one that takes the
sources away. So the vector has one slot for each of its items.
-/

/-- The functions that make one pair of each. -/
def ListFunction.mapsPairs : ListFunction → Bool
  | .directoryName | .combine | .clearMetadata => true
  | _ => false

/-- The functions that take the sources away. -/
def ListFunction.detaches : ListFunction → Bool
  | .combine | .clearMetadata => true
  | _ => false

namespace Transform

/-- The transform is a quoted body, a modifier, a member of texts, or a function that maps. -/
def mapsPairs
    (transform : Transform) :
    Bool :=
  (transform.functionName?.bind ListFunction.ofName?).all ListFunction.mapsPairs

/-- The transform is a function that takes sources away. -/
def detaches
    (transform : Transform) :
    Bool :=
  (transform.functionName?.bind ListFunction.ofName?).any ListFunction.detaches

end Transform

/-- The pair has the source of the one before it, or has lost it to a step that takes it away. -/
def ItemPair.ComesFrom
    (detaches : Bool)
    (before after : ItemPair) :
    Prop :=
  after.source = before.source ∨ detaches = true ∧ after.source = none

/-- Where two rows match pair by pair, a place of the first is a place of the second. -/
theorem exists_getElem?_of_forall₂
    {matching : α → β → Prop}
    {left : List α}
    {right : List β}
    (matched : List.Forall₂ matching left right)
    {place : Nat}
    {x : α}
    (held : left[place]? = some x) :
    ∃ y, right[place]? = some y ∧ matching x y := by
  induction matched generalizing place with
  | nil =>
      cases held
  | cons atHead _ inductionHypothesis =>
      cases place with
      | zero =>
          cases held
          exact ⟨_, rfl, atHead⟩
      | succ place =>
          exact inductionHypothesis held

namespace Pipeline

open ItemPair (ComesFrom)

variable {pipeline : Pipeline} {transform : Transform} {batch pairs : List ItemPair}

/-- With placeholders a result is one pair. -/
theorem exists_emit_eq
    (keeps : pipeline.keepsPlaceholders = true)
    (spec : Option Text)
    (source : Option Item) :
    ∃ pair, pipeline.emit spec source = [pair] ∧ pair.source = source := by
  unfold emit
  cases spec.filter (!·.isEmpty) with
  | some shown =>
      exact ⟨_, rfl, rfl⟩
  | none =>
      rw [keeps]
      exact ⟨_, rfl, rfl⟩

theorem exists_of_mapSpec
    (keeps : pipeline.keepsPlaceholders = true)
    {action : Text → Option Item → Except Failure (Option Text)}
    {pair : ItemPair}
    (mapped : pipeline.mapSpec action pair = .ok pairs) :
    ∃ image, pairs = [image] ∧ image.source = pair.source := by
  unfold mapSpec at mapped
  split at mapped
  · cases mapped
    exact exists_emit_eq keeps none pair.source
  · obtain ⟨spec, -, emitted⟩ := exists_of_bind_eq_ok mapped
    cases emitted
    exact exists_emit_eq keeps spec pair.source

/-- Mapped specs stay at their places, with their sources. -/
theorem mapSpecs_places
    (keeps : pipeline.keepsPlaceholders = true)
    {action : Text → Option Item → Except Failure (Option Text)}
    (mapped : pipeline.mapSpecs action batch = .ok pairs)
    (detaches : Bool) :
    List.Forall₂ (ComesFrom detaches) batch pairs := by
  induction batch generalizing pairs with
  | nil =>
      cases mapped
      exact .nil
  | cons pair rest inductionHypothesis =>
      rw [mapSpecs_cons] at mapped
      obtain ⟨first, atFirst, mapped⟩ := exists_of_bind_eq_ok mapped
      obtain ⟨later, atRest, mapped⟩ := exists_of_bind_eq_ok mapped
      obtain ⟨image, rfl, sameSource⟩ := exists_of_mapSpec keeps atFirst
      cases mapped
      exact .cons (.inl sameSource) (inductionHypothesis atRest)

/-- So do directories, whatever is known of some. -/
theorem directoryNames_places
    (keeps : pipeline.keepsPlaceholders = true)
    {known : List (Text × Option Text)}
    (named : pipeline.directoryNames known batch = .ok pairs)
    (detaches : Bool) :
    List.Forall₂ (ComesFrom detaches) batch pairs := by
  induction batch generalizing known pairs with
  | nil =>
      cases named
      exact .nil
  | cons pair rest inductionHypothesis =>
      cases spec : pair.spec with
      | none =>
          rw [directoryNames, spec] at named
          obtain ⟨later, atRest, named⟩ := exists_of_bind_eq_ok named
          obtain ⟨image, emitted, sameSource⟩ := exists_emit_eq keeps none pair.source
          cases named
          rw [emitted]
          exact .cons (.inl sameSource) (inductionHypothesis atRest)
      | some text =>
          rw [directoryNames_of_spec spec] at named
          obtain ⟨directory, -, named⟩ := exists_of_bind_eq_ok named
          obtain ⟨later, atRest, named⟩ := exists_of_bind_eq_ok named
          obtain ⟨image, emitted, sameSource⟩ := exists_emit_eq keeps directory pair.source
          cases named
          rw [emitted]
          exact .cons (.inl sameSource) (inductionHypothesis atRest)

theorem combineWith_comesFrom
    (relative : Text)
    (pair : ItemPair) :
    ComesFrom true pair (combineWith relative pair) := by
  unfold combineWith
  cases pair.spec with
  | none =>
      exact .inl rfl
  | some spec =>
      exact .inr ⟨rfl, rfl⟩

/-- A step that maps pairs keeps their places. -/
theorem run_places
    (keeps : pipeline.keepsPlaceholders = true)
    {step : TransformStep}
    (maps : step.listFunction?.all ListFunction.mapsPairs = true)
    (ran : pipeline.run step batch = .ok pairs) :
    List.Forall₂ (ComesFrom (step.listFunction?.any ListFunction.detaches)) batch pairs := by
  cases step with
  | quoted body =>
      rw [run] at ran
      exact mapSpecs_places keeps ran _
  | modifier modifier =>
      rw [run] at ran
      exact mapSpecs_places keeps ran _
  | member name arguments =>
      rw [run] at ran
      exact mapSpecs_places keeps ran _
  | list function arguments =>
      cases function with
      | directoryName =>
          exact directoryNames_places keeps ran _
      | combine =>
          cases ran
          rw [List.forall₂_map_right_iff, List.forall₂_same]
          exact fun pair _ => combineWith_comesFrom _ pair
      | clearMetadata =>
          cases ran
          rw [List.forall₂_map_right_iff, List.forall₂_same]
          exact fun pair _ => .inr ⟨rfl, rfl⟩
      | _ =>
          cases maps

/-- A transform that maps pairs keeps their places. -/
theorem apply_places
    (keeps : pipeline.keepsPlaceholders = true)
    (maps : transform.mapsPairs = true)
    (applied : pipeline.apply transform batch = .ok pairs) :
    List.Forall₂ (ComesFrom transform.detaches) batch pairs := by
  obtain ⟨step, resolved, ran⟩ := exists_of_bind_eq_ok applied
  have isFunction := listFunction?_of_step (eq_ok_of_mapError resolved)
  rw [Transform.mapsPairs, isFunction] at maps
  rw [Transform.detaches, isFunction]
  exact run_places keeps maps ran

/-- In a run of transforms the pair at a place loses its source to one that takes it away. -/
inductive DetachedAt
    (pipeline : Pipeline)
    (place : Nat) :
    List Transform → List ItemPair → Prop where
  | here
      {transform : Transform} {rest : List Transform}
      {batch next : List ItemPair} {before after : ItemPair}
      (detaches : transform.detaches = true)
      (applied : pipeline.apply transform batch = .ok next)
      (held : batch[place]? = some before) (hadSource : before.source.isSome = true)
      (left : next[place]? = some after) (noSource : after.source = none) :
      DetachedAt pipeline place (transform :: rest) batch
  | later
      {transform : Transform} {rest : List Transform} {batch next : List ItemPair}
      (applied : pipeline.apply transform batch = .ok next)
      (detached : DetachedAt pipeline place rest next) :
      DetachedAt pipeline place (transform :: rest) batch

end Pipeline

namespace ItemPhase

variable {phase : ItemPhase}

/--
A run of transforms that map pairs keeps their places, and each pair keeps its
source until a transform of the run takes it away.
-/
theorem runAll_places
    {pipeline : Pipeline}
    (keeps : pipeline.keepsPlaceholders = true)
    {transforms : List Transform}
    (map : ∀ transform ∈ transforms, transform.mapsPairs = true)
    {batch pairs : List ItemPair}
    (ran : runAll pipeline transforms batch = .ok pairs) :
    pairs.length = batch.length ∧
      ∀ (place : Nat) before,
        batch[place]? = some before →
          ∃ after, pairs[place]? = some after ∧
            (after.source = before.source ∨
              after.source = none ∧ pipeline.DetachedAt place transforms batch) := by
  induction transforms generalizing batch with
  | nil =>
      cases ran
      exact ⟨rfl, fun place before held => ⟨before, held, .inl rfl⟩⟩
  | cons transform rest inductionHypothesis =>
      rw [runAll, List.foldlM_cons] at ran
      obtain ⟨next, applied, ran⟩ := exists_of_bind_eq_ok ran
      have atNext := Pipeline.apply_places keeps (map _ List.mem_cons_self) applied
      obtain ⟨sameLength, behind⟩ :=
        inductionHypothesis (fun other isMember => map other (List.mem_cons_of_mem _ isMember)) ran
      refine ⟨sameLength.trans atNext.length_eq.symm, fun place before held => ?_⟩
      obtain ⟨middle, heldNext, comesFrom⟩ := exists_getElem?_of_forall₂ atNext held
      obtain ⟨after, found, fromMiddle⟩ := behind place middle heldNext
      refine ⟨after, found, ?_⟩
      rcases comesFrom with sameSource | ⟨detaches, middleBare⟩
      · rw [← sameSource]
        rcases fromMiddle with sameAsMiddle | ⟨bare, detached⟩
        · exact .inl sameAsMiddle
        · exact .inr ⟨bare, .later applied detached⟩
      · have bare : after.source = none := by
          rcases fromMiddle with sameAsMiddle | ⟨bare, -⟩
          · exact sameAsMiddle.trans middleBare
          · exact bare
        cases source : before.source with
        | none =>
            exact .inl bare
        | some item =>
            exact .inr
              ⟨bare, .here detaches applied held (by rw [source]; rfl) heldNext middleBare⟩

/-- The pipeline that a vector is run through where placeholders are kept. -/
def placePipeline
    (phase : ItemPhase)
    (vector : ItemVector) :
    Pipeline :=
  { context := phase.context, keepsPlaceholders := true, expression := vector.written }

/-- The pairs that the items of a vector start with where no wildcards are expanded. -/
def itemPairs
    (phase : ItemPhase)
    (vector : ItemVector) :
    List ItemPair :=
  (phase.items vector.itemType).map fun item => .of item.spec (some item)

/-- There is one pair for each item, at its place and from it, or without a source that it lost. -/
structure InPlaces
    (phase : ItemPhase)
    (vector : ItemVector)
    (pairs : List ItemPair) :
    Prop where
  sameLength : pairs.length = (phase.items vector.itemType).length
  fromItem :
    ∀ (place : Nat) item,
      (phase.items vector.itemType)[place]? = some item →
        ∃ pair, pairs[place]? = some pair ∧
          (pair.source = some item ∨
            pair.source = none ∧
              (phase.placePipeline vector).DetachedAt place vector.transforms
                (phase.itemPairs vector))

/-- Entries come from the short cut over no items, or from a run over all of them. -/
theorem runAll_of_entries
    (goesOn : phase.breaks = false)
    (takesSpecs : phase.context.itemizesWildcards = false)
    {vector : ItemVector}
    {found : VectorEntries}
    (given : phase.entries vector true = .ok found) :
    found.stopped = false ∧
      (phase.items vector.itemType = [] ∧ found.pairs = [] ∨
        runAll (phase.placePipeline vector) vector.transforms (phase.itemPairs vector) =
          .ok found.pairs) := by
  unfold entries at given
  dsimp only at given
  split at given
  · rename_i shortCut
    cases given
    rw [Bool.and_eq_true, List.isEmpty_iff] at shortCut
    exact ⟨rfl, .inl ⟨shortCut.1, rfl⟩⟩
  · have started : phase.startBatch (phase.items vector.itemType) = .ok (phase.itemPairs vector) :=
      startBatch_of_specs fun item _ => by rw [takesSpecs, Bool.false_and]
    rw [started] at given
    have ran := eq_ok_of_mapError given
    rw [runTransforms, goesOn] at ran
    obtain ⟨pairs, ranAll, isFound⟩ := exists_of_bind_eq_ok ran
    cases isFound
    exact ⟨rfl, .inr ranAll⟩

theorem inPlaces_of_runAll
    {vector : ItemVector}
    (map : ∀ transform ∈ vector.transforms, transform.mapsPairs = true)
    {pairs : List ItemPair}
    (ran :
      runAll (phase.placePipeline vector) vector.transforms (phase.itemPairs vector) = .ok pairs) :
    phase.InPlaces vector pairs := by
  obtain ⟨sameLength, places⟩ := runAll_places rfl map ran
  refine ⟨sameLength.trans (List.length_map _), fun place item isItem => ?_⟩
  have held :
      (phase.itemPairs vector)[place]? = some (ItemPair.of item.spec (some item)) := by
    rw [itemPairs, List.getElem?_map, isItem]
    rfl
  exact places place _ held

/--
A vector whose transforms map pairs has one entry for each of its items, at the
place of the item and from it, unless a transform took the source away there. So
the text of the vector joins one slot for each item.
-/
theorem entries_keep_places
    (goesOn : phase.breaks = false)
    (takesSpecs : phase.context.itemizesWildcards = false)
    {vector : ItemVector}
    (map : ∀ transform ∈ vector.transforms, transform.mapsPairs = true)
    {found : VectorEntries}
    (given : phase.entries vector true = .ok found) :
    let slots := found.pairs.map ItemPair.text
    let joined := Text.join vector.joint slots
    found.stopped = false ∧
      phase.InPlaces vector found.pairs ∧
      slots.length = (phase.items vector.itemType).length ∧
      ∀ expression,
        ItemVector.read? expression = some (vector, []) →
          phase.text expression =
            .ok (if phase.options.contains .truncate then phase.context.truncate joined
              else joined) := by
  intro slots joined
  obtain ⟨unstopped, origin⟩ := runAll_of_entries goesOn takesSpecs given
  have inPlaces : phase.InPlaces vector found.pairs := by
    rcases origin with ⟨noItems, noPairs⟩ | ran
    · refine ⟨?_, fun place item isItem => ?_⟩
      · rw [noItems, noPairs]
        rfl
      · rw [noItems] at isItem
        cases isItem
    · exact inPlaces_of_runAll map ran
  refine
    ⟨unstopped, inPlaces, (List.length_map _).trans inPlaces.sameLength, fun expression read => ?_⟩
  rw [text_of_whole read, given]
  rfl

/-- The middle file has a culture and loses its source; the others keep placeholders. -/
theorem entries_keep_places_of_cultures :
    let first : Item := { itemType := "F", spec := "a" }
    let second : Item := { itemType := "F", spec := "b", metadata := [("Culture", "fr")] }
    let third : Item := { itemType := "F", spec := "c" }
    let phase : ItemPhase :=
      { items := fun _ => [first, second, third]
        options := .items
        context := .onEmptyMachine }
    let expression : Text := "@(F->'%(Culture)'->Combine('x'))"
    let vector : ItemVector :=
      { written := expression
        itemType := "F"
        transforms := [
          { written := "'%(Culture)'", offset := 5, kind := .quoted "%(Culture)" },
          { written := "Combine('x')", offset := 19, kind := .function "Combine" "'x'" }]
        separator := none }
    phase.entries vector true =
        .ok
          { pairs := [.placeholder (some first), .of "fr/x" none, .placeholder (some third)]
            stopped := false } ∧
      (phase.placePipeline vector).DetachedAt 1 vector.transforms (phase.itemPairs vector) ∧
      phase.text expression = .ok ";fr/x;" := by
  intro first second third phase expression vector
  have given :
      phase.entries vector true =
        .ok
          { pairs := [.placeholder (some first), .of "fr/x" none, .placeholder (some third)]
            stopped := false } := by
    decide +kernel
  have map : ∀ transform ∈ vector.transforms, transform.mapsPairs = true := by
    decide +kernel
  have goesOn : phase.breaks = false := by
    decide
  have read : ItemVector.read? expression = some (vector, []) := by
    decide +kernel
  have keepsLength : phase.options.contains .truncate = false := by
    decide
  obtain ⟨-, inPlaces, -, text⟩ := entries_keep_places goesOn rfl map given
  refine ⟨given, ?_, ?_⟩
  · obtain ⟨pair, isSecond, keptOrLost⟩ := inPlaces.fromItem 1 second rfl
    cases isSecond
    rcases keptOrLost with kept | ⟨-, detached⟩
    · cases kept
    · exact detached
  · rw [text expression read, keepsLength]
    rfl

end ItemPhase

end RefExpand
