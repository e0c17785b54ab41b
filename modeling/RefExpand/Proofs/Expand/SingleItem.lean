import Mathlib.Control.Monad.Basic
import RefExpand.Expand.Expander
import RefExpand.Proofs.Expand.ItemStretches
import RefExpand.Proofs.Expand.MetadataLookups

namespace RefExpand

/-!
# One item, batched or transformed

An expression over the metadata of one item can be expanded in a batch over that
item, or as the body of a quoted transform of a list that holds nothing else. The
two read the same metadata, so they give the same text; an error of the transform
carries the location besides.
-/

namespace MetadataTable

theorem fill_eq
    (table : MetadataTable)
    (text : Text) :
    table.fill text =
      (ItemVector.cutAround text).replaceWith fun reference =>
        table.value reference.itemType reference.name :=
  ItemVector.replaceAround_eq text

/-- A text without references needs no filling: its classification is enough to tell. -/
theorem fill_of_absent
    {text : Text}
    (absent : MetadataReference.coverage text = .absent)
    (table : MetadataTable) :
    table.fill text = .ok text := by
  have nowhere : MetadataReference.allIn text = [] := by
    unfold MetadataReference.coverage at absent
    split at absent
    · rename_i last noReference
      rw [MetadataReference.allIn, noReference]
      rfl
    all_goals cases absent
  exact ItemVector.replaceAround_eq_pure nowhere

end MetadataTable

/-- Before any transform, an item and its pair have the same metadata. -/
theorem ItemPair.value_toTable
    (item : Item)
    (fs : FileSystem) :
    (toTable item.spec (some item) fs).value = (item.toTable fs).value := by
  have same : metadataOf item.spec (some item) fs = item.metadataValue fs := by
    funext name
    unfold metadataOf Item.metadataValue
    rcases SpecModifier.ofName? name with - | modifier
    · rfl
    · cases modifier <;> rfl
  funext itemType name
  cases itemType with
  | none =>
      exact congrFun same name
  | some wanted =>
      simp only [toTable, Item.toTable, same]

namespace MetadataPhase

variable {phase : MetadataPhase}

/-- Replacing all metadata, untruncated and unlogged, fills the text from the table. -/
theorem text_eq_fill
    (expands : phase.options.contains .metadata = true)
    (keepsLength : phase.options.contains .truncate = false)
    (unlogged : phase.options.contains .logSelfReference = false)
    (expression : Text) :
    phase.text expression =
      Expansion.ofExcept (Pipeline.ofResult (phase.table.fill expression)) := by
  have replaced :
      phase.replace = fun reference =>
        Expansion.ofExcept
          (Pipeline.ofResult (phase.table.value reference.itemType reference.name)) := by
    funext reference
    exact
      replace_eq_ofExcept (contains_gateOf expands _) keepsLength
        (noteSelfReference_eq_pure unlogged _)
  have liftBind :
      ∀ {β γ : Type} (result : Except ExpandError β) (next : β → Except ExpandError γ),
        Expansion.ofExcept (Pipeline.ofResult (result >>= next)) =
          Expansion.ofExcept (Pipeline.ofResult result) >>= fun value =>
            Expansion.ofExcept (Pipeline.ofResult (next value)) := by
    intro β γ result next
    cases result <;> rfl
  rw [text, ItemVector.replaceAround_eq, replaced, MetadataTable.fill_eq]
  exact
    Cut.replaceWith_lift (fun result => Expansion.ofExcept (Pipeline.ofResult result))
      (fun _ => rfl) liftBind _ _

end MetadataPhase

namespace Pipeline

/-- With placeholders a text is emitted as one pair, whose text it is. -/
theorem text_emit
    {pipeline : Pipeline}
    (keeps : pipeline.keepsPlaceholders = true)
    (text : Text)
    (source : Option Item) :
    (pipeline.emit (some text) source).map ItemPair.text = [text] := by
  cases text with
  | nil =>
      simp [emit, Option.filter, keeps, ItemPair.placeholder, ItemPair.text]
  | cons c rest =>
      simp [emit, Option.filter, ItemPair.of, ItemPair.text]

/-- A quoted transform of one item fills its body from the metadata of the item. -/
theorem apply_quoted
    (pipeline : Pipeline)
    {transform : Transform}
    {body : Text}
    (quoted : transform.kind = .quoted body)
    (item : Item) :
    pipeline.apply transform [.of item.spec (some item)] =
      (ofResult ((item.toTable pipeline.context.fileSystem).fill body)).map fun text =>
        pipeline.emit (some text) (some item) := by
  have step : pipeline.step transform = .ok (.quoted body) := by
    rw [Pipeline.step, quoted]
  have filled :
      (ItemPair.toTable item.spec (some item) pipeline.context.fileSystem).fill body =
        (item.toTable pipeline.context.fileSystem).fill body := by
    rw [MetadataTable.fill_eq, MetadataTable.fill_eq, ItemPair.value_toTable]
  rw [apply, step]
  change pipeline.run (.quoted body) [.of item.spec (some item)] = _
  simp only [run, mapSpecs, List.mapM_cons, List.mapM_nil, ItemPair.of, filled]
  cases (item.toTable pipeline.context.fileSystem).fill body with
  | error error =>
      rfl
  | ok text =>
      exact congrArg Except.ok (List.append_nil _)

end Pipeline

namespace ItemPhase

variable {phase : ItemPhase}

/-- An expression that is one vector becomes the text of this vector. -/
theorem text_of_whole
    {expression : Text}
    {vector : ItemVector}
    (read : ItemVector.read? expression = some (vector, [])) :
    phase.text expression =
      (phase.entries vector true).map fun found => phase.vectorText vector found.pairs := by
  have cutWhole : ItemVector.cut expression = { found := [([], vector)], last := [] } :=
    Reader.cut_of_whole read
  rw [text, cutWhole]
  dsimp only
  rw [replaceVectors, replaceVectors]
  cases phase.entries vector true with
  | error failure =>
      rfl
  | ok found =>
      cases stopped : found.stopped <;>
        simp [bind, Except.bind, Except.map, pure, Except.pure, stopped]

/-- A text that is emitted alone is the text of the vector. -/
theorem vectorText_emit
    (keepsLength : phase.options.contains .truncate = false)
    {pipeline : Pipeline}
    (keeps : pipeline.keepsPlaceholders = true)
    (text : Text)
    (source : Option Item)
    (vector : ItemVector) :
    phase.vectorText vector (pipeline.emit (some text) source) = text := by
  rw [vectorText, keepsLength, ItemVector.join, Pipeline.text_emit keeps]
  simp [Text.join]

/-- A vector of one item with one quoted transform has the filled body as its only entry. -/
theorem entries_quoted
    (goesOn : phase.breaks = false)
    (takesSpecs : phase.context.itemizesWildcards = false)
    {vector : ItemVector}
    {transform : Transform}
    {body : Text}
    {item : Item}
    (listed : phase.items vector.itemType = [item])
    (transforms : vector.transforms = [transform])
    (quoted : transform.kind = .quoted body) :
    let pipeline : Pipeline :=
      { context := phase.context, keepsPlaceholders := true, expression := vector.written }
    phase.entries vector true =
      ((Pipeline.ofResult ((item.toTable phase.context.fileSystem).fill body)).map
        fun text : Text =>
          ({ pairs := pipeline.emit (some text) (some item)
             stopped := false } : VectorEntries)).mapError
        (·.withLocation phase.context.location) := by
  intro pipeline
  have taken :
      ∀ other ∈ [item],
        (phase.context.itemizesWildcards && other.spec.hasWildcards) = false := by
    intro other _
    rw [takesSpecs, Bool.false_and]
  have applied := pipeline.apply_quoted quoted item
  unfold entries
  rw [listed]
  dsimp only
  rw [startBatch_of_specs taken, transforms]
  change (phase.runTransforms pipeline [transform] [.of item.spec (some item)]).mapError _ = _
  rw [runTransforms, goesOn, if_neg Bool.false_ne_true]
  simp only [runAll, List.foldlM_cons, List.foldlM_nil, applied]
  cases (item.toTable phase.context.fileSystem).fill body <;> rfl

end ItemPhase

namespace Expander

theorem text_metadata
    {expander : Expander}
    {table : MetadataTable}
    (given : expander.metadata = some table)
    (expression : Text) :
    expander.text .metadata expression =
      ({ table, options := .metadata, context := expander.context } : MetadataPhase).text
        expression := by
  have expanded :
      expander.expandMetadata .metadata expression =
        ({ table, options := .metadata, context := expander.context } : MetadataPhase).text
          expression := by
    rw [expandMetadata, given]
    rfl
  have noProperties : ∀ text, expander.expandProperties .metadata text = pure text :=
    fun _ => rfl
  have noItems : ∀ text, expander.expandItems .metadata text = pure text :=
    fun _ => rfl
  rw [text, beforeItems, expanded]
  simp only [noProperties, noItems, bind_pure]

/--
The metadata of one item is read by a batch over the item in the same way as by a
quoted transform of the list of the item alone. The texts are the same, and so are
the errors, but for the location that the transform attaches. Neither leaves a trace.
A body without references is given as it is.
-/
theorem text_of_quoted_transform
    {batch list : Expander}
    {item : Item}
    (batched : batch.metadata = some (item.toTable list.context.fileSystem))
    {itemType : Text}
    (named : itemType.isName = true)
    (listed : list.items itemType = [item])
    (takesSpecs : list.context.itemizesWildcards = false)
    {body : Text}
    (noQuote : '\'' ∉ body)
    (before : Trace) :
    let expression := "@(".toList ++ itemType ++ "->'".toList ++ body ++ "')".toList
    let batchRun := (batch.text .metadata body).runFrom before
    (list.text .items expression).runFrom before =
        (batchRun.1.mapError (·.withLocation list.context.location), before) ∧
      batchRun.2 = before ∧
      (MetadataReference.coverage body = .absent → batchRun.1 = .ok body) := by
  intro expression batchRun
  let table := item.toTable list.context.fileSystem
  have inBatch :
      batch.text .metadata body = Expansion.ofExcept (Pipeline.ofResult (table.fill body)) := by
    have expands : ExpandOptions.metadata.contains .metadata = true := by decide
    have keepsLength : ExpandOptions.metadata.contains .truncate = false := by decide
    have unlogged : ExpandOptions.metadata.contains .logSelfReference = false := by decide
    rw [text_metadata batched]
    exact MetadataPhase.text_eq_fill expands keepsLength unlogged body
  let form := VectorForm.ofQuoted itemType body named noQuote
  have read : ItemVector.read? expression = some (form.vector, []) := by
    have whole := ItemVector.read?_text form []
    rwa [List.append_nil, VectorForm.text_ofQuoted] at whole
  have inList :
      (list.text .items expression).runFrom before =
        ((list.itemPhase .items).text expression, before) :=
    rfl
  have goesOn : (list.itemPhase .items).breaks = false := by
    change ExpandOptions.items.contains .breakOnNotEmpty = false
    decide
  have entries : (list.itemPhase .items).entries form.vector true = _ :=
    ItemPhase.entries_quoted goesOn takesSpecs listed rfl rfl
  have batchRan : batchRun = (Pipeline.ofResult (table.fill body), before) := by
    dsimp only [batchRun]
    rw [inBatch, Expansion.runFrom_ofExcept]
  rw [batchRan]
  refine ⟨?_, rfl, fun absent => congrArg Pipeline.ofResult (table.fill_of_absent absent)⟩
  rw [inList, ItemPhase.text_of_whole read, entries]
  change
    (((Pipeline.ofResult (table.fill body)).map _).mapError _ |>.map _, before) =
      ((Pipeline.ofResult (table.fill body)).mapError _, before)
  cases table.fill body with
  | error error =>
      rfl
  | ok text =>
      have keepsLength : ExpandOptions.items.contains .truncate = false := by
        decide
      exact
        Prod.ext (congrArg Except.ok (ItemPhase.vectorText_emit keepsLength rfl text _ _)) rfl

/-- Metadata that is computed, carried, of another type, and no reference at all. -/
theorem text_of_quoted_transform_of_one_file :
    let item : Item :=
      { itemType := "Compile", spec := "src/a b.cs", metadata := [("Culture", "fr")] }
    let batch : Expander :=
      { metadata := some (item.toTable ExpandContext.onEmptyMachine.fileSystem)
        context := .onEmptyMachine }
    let list : Expander :=
      { items := fun itemType => if Text.sameName itemType "Compile" then [item] else []
        context := .onEmptyMachine }
    let body := "%(Filename)-%( compile.Culture )-%(Other.Culture)-%(nope".toList
    let expected := "a b-fr--%(nope".toList
    let expression := "@(".toList ++ "compile".toList ++ "->'".toList ++ body ++ "')".toList
    (batch.text .metadata body).runFrom {} = (.ok expected, {}) ∧
      (list.text .items expression).runFrom {} = (.ok expected, {}) := by
  intro item batch list body expected expression
  have batched : batch.metadata = some (item.toTable list.context.fileSystem) :=
    rfl
  have named : Text.isName "compile" = true := by
    decide
  have listed : list.items "compile" = [item] :=
    rfl
  have noQuote : '\'' ∉ body := by
    decide
  have ran : ((batch.text .metadata body).runFrom {}).1 = .ok expected := by
    decide +kernel
  obtain ⟨inList, silent, -⟩ := text_of_quoted_transform batched named listed rfl noQuote {}
  have inBatch : (batch.text .metadata body).runFrom {} = (.ok expected, {}) :=
    Prod.ext ran silent
  rw [inBatch] at inList
  exact ⟨inBatch, inList⟩

end Expander

end RefExpand
