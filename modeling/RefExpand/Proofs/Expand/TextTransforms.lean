import RefExpand.Proofs.Expand.TextChains

namespace RefExpand

/-!
# Chains of members of texts as transforms

A transform that calls a member of texts makes of a spec what the call gives. So the
transforms of a vector of one item end with the text that the same chain gives on a
property with the spec of the item as its value.
-/

namespace Pipeline

variable {pipeline : Pipeline}

/-- A transform that is a call on a text takes one spec to what the call gives. -/
theorem apply_call
    {transform : Transform}
    {call : TextCall}
    (isCall : transform.kind = .function call.name call.arguments)
    {receiver result : Text}
    (gives : call.Gives pipeline.context.resolver receiver (.str result))
    (some : result ≠ [])
    (source : Option Item) :
    pipeline.apply transform [.of receiver source] = .ok [.of result source] := by
  obtain ⟨arguments, parsed, called⟩ := gives
  have step : pipeline.step transform = .ok (.member call.name arguments) := by
    rw [Pipeline.step, isCall]
    dsimp only
    rw [parsed, call.notModifier, call.notListFunction]
    rfl
  have onSpec : pipeline.callOnSpec call.name arguments receiver = .ok result := by
    rw [callOnSpec, called]
    rfl
  have emitted : pipeline.emit result source = [.of result source] := by
    have present : (!result.isEmpty) = true := by
      simp [some]
    rw [emit, Option.filter_some, if_pos present]
  rw [apply, step]
  change pipeline.run (.member call.name arguments) [.of receiver source] = _
  simp only [run, mapSpecs, List.mapM_cons, List.mapM_nil, ItemPair.of, onSpec]
  change Except.ok (pipeline.emit result source ++ []) = _
  rw [emitted]
  rfl

theorem runsPerItem_of_call
    {transform : Transform}
    {call : TextCall}
    (isCall : transform.kind = .function call.name call.arguments) :
    transform.runsPerItem = true := by
  rw [Transform.runsPerItem, isCall]
  dsimp only
  rw [call.notListFunction]
  rfl

end Pipeline

/-- The calls split where the chain is cut. -/
theorem TextCall.GiveAll.exists_of_concat
    {resolver : Resolver}
    {receiver result : Text}
    {front : List TextCall}
    {last : TextCall}
    (giveAll : GiveAll resolver receiver (front ++ [last]) result) :
    ∃ middle,
      GiveAll resolver receiver front middle ∧
        last.Gives resolver middle (.str result) ∧ result ≠ [] := by
  induction front generalizing receiver with
  | nil =>
      cases giveAll with
      | call gives some later =>
          cases later
          exact ⟨receiver, .done receiver, gives, some⟩
  | cons call front inductionHypothesis =>
      cases giveAll with
      | call gives some later =>
          obtain ⟨middle, frontGives, lastGives, lastSome⟩ := inductionHypothesis later
          exact ⟨middle, .call gives some frontGives, lastGives, lastSome⟩

namespace ItemPhase

variable {phase : ItemPhase} {pipeline : Pipeline}

/-- The transforms are the calls, in this order. -/
def AreCalls
    (transforms : List Transform)
    (calls : List TextCall) :
    Prop :=
  transforms.map (·.kind) = calls.map fun call => .function call.name call.arguments

/-- Transforms that are calls take one spec to what the last call gives. -/
theorem runAll_calls
    {transforms : List Transform}
    {calls : List TextCall}
    (areCalls : AreCalls transforms calls)
    {receiver result : Text}
    (giveAll : TextCall.GiveAll pipeline.context.resolver receiver calls result)
    (source : Option Item) :
    runAll pipeline transforms [.of receiver source] = .ok [.of result source] := by
  induction giveAll generalizing transforms with
  | done text =>
      rw [AreCalls, List.map_nil, List.map_eq_nil_iff] at areCalls
      rw [areCalls]
      rfl
  | call gives some _ inductionHypothesis =>
      rw [AreCalls, List.map_cons, List.map_eq_cons_iff] at areCalls
      obtain ⟨transform, later, rfl, isCall, areLater⟩ := areCalls
      rw [runAll, List.foldlM_cons, Pipeline.apply_call isCall gives some]
      exact inductionHypothesis areLater

/-- Stopping at the first entry that is not empty changes nothing, for there is but one. -/
theorem runTransforms_calls
    {transforms : List Transform}
    {calls : List TextCall}
    (areCalls : AreCalls transforms calls)
    (some : calls ≠ [])
    {receiver result : Text}
    (giveAll : TextCall.GiveAll pipeline.context.resolver receiver calls result)
    (source : Option Item) :
    phase.runTransforms pipeline transforms [.of receiver source] =
      .ok { pairs := [.of result source], stopped := phase.breaks } := by
  unfold runTransforms
  cases breaks : phase.breaks with
  | false =>
      rw [if_neg Bool.false_ne_true, runAll_calls areCalls giveAll]
      rfl
  | true =>
      rw [if_pos rfl]
      obtain ⟨front, last, shape⟩ := (List.eq_nil_or_concat calls).resolve_left some
      rw [List.concat_eq_append] at shape
      subst shape
      rw [AreCalls, List.map_append, List.map_eq_append_iff] at areCalls
      obtain ⟨before, behind, rfl, areFront, areLast⟩ := areCalls
      rw [List.map_cons, List.map_nil, List.map_eq_singleton_iff] at areLast
      obtain ⟨transform, rfl, isCall⟩ := areLast
      obtain ⟨middle, frontGives, lastGives, resultSome⟩ := giveAll.exists_of_concat
      have stops :
          pipeline.applyUntilFound transform [.of middle source] =
            .ok ([.of result source], true) := by
        have found : [ItemPair.of result source].any (!·.isEmpty) = true := by
          simp [ItemPair.of, ItemPair.isEmpty, ItemPair.text, resultSome]
        rw [Pipeline.applyUntilFound, Pipeline.runsPerItem_of_call isCall, if_pos rfl,
          Pipeline.applyEach, Pipeline.apply_call isCall lastGives resultSome source]
        change (if _ then _ else _) = _
        rw [if_pos found]
        rfl
      rw [List.getLast?_concat, List.dropLast_concat]
      dsimp only
      rw [runAll_calls areFront frontGives]
      change (pipeline.applyUntilFound transform [.of middle source] >>= _) = _
      rw [stops]
      rfl

/-- A vector of one item with calls as its transforms has what the last call gives as its text. -/
theorem text_calls
    {itemType : Text}
    (named : itemType.isName = true)
    {item : Item}
    (listed : phase.items itemType = [item])
    (takesSpecs : phase.context.itemizesWildcards = false)
    (keepsLength : phase.options.contains .truncate = false)
    {calls : List TextCall}
    (some : calls ≠ [])
    {result : Text}
    (giveAll : TextCall.GiveAll phase.context.resolver item.spec calls result) :
    phase.text (TextCall.vector itemType calls) = .ok result := by
  let form := TextCall.vectorForm named calls
  have read : ItemVector.read? (TextCall.vector itemType calls) = Option.some (form.vector, []) := by
    have whole := ItemVector.read?_text form []
    rwa [List.append_nil, TextCall.text_vectorForm] at whole
  have areCalls : AreCalls form.vector.transforms calls :=
    TextCall.kinds_capturedAll _ calls
  have taken :
      ∀ other ∈ [item],
        (phase.context.itemizesWildcards && other.spec.hasWildcards) = false := by
    intro other _
    rw [takesSpecs, Bool.false_and]
  have entries :
      phase.entries form.vector true =
        .ok { pairs := [.of result item], stopped := phase.breaks } := by
    have typeOf : form.vector.itemType = itemType :=
      rfl
    unfold ItemPhase.entries
    rw [typeOf, listed]
    dsimp only
    rw [startBatch_of_specs taken]
    change (phase.runTransforms _ form.vector.transforms [.of item.spec item]).mapError _ = _
    rw [runTransforms_calls areCalls some giveAll]
    rfl
  rw [text_of_whole read, entries]
  simp [Except.map, vectorText, keepsLength, ItemVector.join, ItemPair.of, ItemPair.text, Text.join]

end ItemPhase

/-- What a chain of calls gives is in escaped form, so no vector is opened in it. -/
theorem TextCall.GiveAll.not_mem
    {resolver : Resolver}
    {receiver result : Text}
    {calls : List TextCall}
    (giveAll : GiveAll resolver receiver calls result)
    (some : calls ≠ [])
    (surroundings : Surroundings) :
    '@' ∉ result := by
  obtain ⟨front, last, shape⟩ := (List.eq_nil_or_concat calls).resolve_left some
  rw [List.concat_eq_append] at shape
  subst shape
  obtain ⟨middle, -, ⟨arguments, -, called⟩, -⟩ := giveAll.exists_of_concat
  obtain ⟨plain, rfl⟩ := Resolver.exists_escape_of_callInstance (called surroundings [])
  exact Text.not_mem_escape (by decide) (by decide) plain

namespace Expander

variable {expander : Expander} {options : ExpandOptions}

/-- The phases in front of the items, where no metadata is asked for. -/
theorem text_of_propertyText
    (expandsProperties : options.contains .properties = true)
    (noMetadata : options.intersects .metadata = false)
    {expression expanded : Text}
    {before after : Trace}
    (ran :
      ((expander.propertyPhase options).text expression).runFrom before = (.ok expanded, after)) :
    (expander.text options expression).runFrom before =
      (expander.expandItems options expanded).runFrom after := by
  have asWritten : expander.expandMetadata options expression = pure expression := by
    rw [expandMetadata, noMetadata, if_neg Bool.false_ne_true]
  rw [Expander.text, beforeItems, asWritten, pure_bind, expandProperties, if_pos expandsProperties,
    Expansion.runFrom_bind, ran]

/-- A chain on a property has what the last call gives as its text. -/
theorem text_of_reference
    (expandsProperties : options.contains .properties = true)
    (expandsItems : options.contains .items = true)
    (noMetadata : options.intersects .metadata = false)
    {property spec result : Text}
    (named : property.isName = true)
    (valued : expander.properties.value? property = some spec)
    {calls : List TextCall}
    (someCalls : calls ≠ [])
    (uncut :
      Text.cutsCharacter Template.registryWord.length
        (property ++ TextCall.textBehind calls) = false)
    (giveAll : TextCall.GiveAll expander.context.resolver spec calls result)
    (before : Trace) :
    ((expander.text options (TextCall.reference property calls)).runFrom before).1 =
      .ok result := by
  cases calls with
  | nil =>
      exact absurd rfl someCalls
  | cons call later =>
      obtain ⟨after, ran⟩ :=
        TextCall.GiveAll.value (expander.propertyPhase options) named valued uncut giveAll before
      have expanded :
          ((expander.propertyPhase options).text
            (TextCall.reference property (call :: later))).runFrom before =
              (.ok result, after) := by
        rw [PropertyPhase.text, Expansion.runFrom_bind, ran]
        rfl
      have noVector := giveAll.not_mem someCalls expander.context.surroundings
      rw [text_of_propertyText expandsProperties noMetadata expanded, expandItems,
        if_pos expandsItems, ItemPhase.text_of_not_mem noVector]
      rfl

/-- A vector of one item has what the last call gives on its spec as its text. -/
theorem text_of_vector
    (takesSpecs : expander.context.itemizesWildcards = false)
    (expandsProperties : options.contains .properties = true)
    (expandsItems : options.contains .items = true)
    (noMetadata : options.intersects .metadata = false)
    (keepsLength : options.contains .truncate = false)
    {itemType result : Text}
    (named : itemType.isName = true)
    {item : Item}
    (listed : expander.items itemType = [item])
    {calls : List TextCall}
    (someCalls : calls ≠ [])
    (giveAll : TextCall.GiveAll expander.context.resolver item.spec calls result)
    (before : Trace) :
    ((expander.text options (TextCall.vector itemType calls)).runFrom before).1 =
      .ok result := by
  have unchanged :
      ((expander.propertyPhase options).text (TextCall.vector itemType calls)).runFrom before =
        (.ok (TextCall.vector itemType calls), before) := by
    rw [PropertyPhase.text, PropertyPhase.value, Template.read,
      TextCall.unopened_vector named, if_neg Bool.false_ne_true]
    rfl
  have expanded :
      (expander.itemPhase options).text (TextCall.vector itemType calls) = .ok result :=
    ItemPhase.text_calls named listed takesSpecs keepsLength someCalls giveAll
  rw [text_of_propertyText expandsProperties noMetadata unchanged, expandItems,
    if_pos expandsItems, expanded]
  rfl

/--
Members of texts do the same as transforms of an item as they do on a property with the
spec of the item as its value, if every beginning of the chain on the property has a
text for its value, and none of these is empty.
-/
theorem transforms_run_as_chain
    (standard : expander.context.resolver.catalog = .standard)
    (takesSpecs : expander.context.itemizesWildcards = false)
    (expandsProperties : options.contains .properties = true)
    (expandsItems : options.contains .items = true)
    (noMetadata : options.intersects .metadata = false)
    (keepsLength : options.contains .truncate = false)
    {property itemType : Text}
    (propertyNamed : property.isName = true)
    (itemTypeNamed : itemType.isName = true)
    {item : Item}
    (valued : expander.properties.value? property = some item.spec)
    (listed : expander.items itemType = [item])
    {calls : List TextCall}
    (someCalls : calls ≠ [])
    (before : Trace)
    (givesTexts :
      ∀ front, front ≠ [] → front <+: calls →
        ∃ result, result ≠ [] ∧
          (((expander.propertyPhase .properties).value
            (TextCall.reference property front)).runFrom before).1 = .ok (.str result)) :
    ∃ result,
      ((expander.text options (TextCall.reference property calls)).runFrom before).1 =
          .ok result ∧
        ((expander.text options (TextCall.vector itemType calls)).runFrom before).1 =
          .ok result := by
  have keepsErrors : ExpandOptions.properties.contains .leaveOnError = false := by
    decide
  obtain ⟨uncut, result, giveAll⟩ :=
    TextCall.exists_giveAll_of_values standard keepsErrors
      propertyNamed valued someCalls givesTexts
  have onProperty :=
    text_of_reference expandsProperties expandsItems noMetadata propertyNamed valued someCalls
      uncut giveAll before
  have onItem :=
    text_of_vector takesSpecs expandsProperties expandsItems noMetadata keepsLength itemTypeNamed
      listed someCalls giveAll before
  exact ⟨result, onProperty, onItem⟩

/-- A semicolon that is escaped in the spec, and a parenthesis that is put in. -/
theorem transforms_run_as_chain_of_insert :
    let item : Item := { itemType := "T", spec := "a%3bb" }
    let expander : Expander :=
      { properties := .ofList [("P", "a%3bb")]
        items := fun itemType => if Text.sameName itemType "T" then [item] else []
        context := .onEmptyMachine }
    let chain : Text := "$(P.Insert(1,'x(y').PadLeft(8))"
    let vector : Text := "@(T->Insert(1,'x(y')->PadLeft(8))"
    let value := ((expander.propertyPhase .properties).value chain).runFrom {}
    value.1 = .ok (.str "  ax%28y%3Bb".toList) ∧
      ∃ result,
        ((expander.text .propertiesAndItems chain).runFrom {}).1 = .ok result ∧
          ((expander.text .propertiesAndItems vector).runFrom {}).1 = .ok result := by
  intro item expander chain vector value
  let insert : TextCall :=
    { name := "Insert"
      arguments := "1,'x(y'"
      isMember := by decide
      nested := .of_closes (by decide)
      noReference := by decide }
  let pad : TextCall :=
    { name := "PadLeft"
      arguments := "8"
      isMember := by decide
      nested := .of_closes (by decide)
      noReference := by decide }
  have standard : expander.context.resolver.catalog = .standard :=
    rfl
  have propertyNamed : Text.isName "P" = true := by
    decide
  have valued : expander.properties.value? "P" = some item.spec :=
    rfl
  have inserts :
      insert.Gives expander.context.resolver "a%3bb" (.str "ax%28y%3Bb".toList) :=
    ⟨[.text "1", .text "x(y"], rfl, fun _ _ => rfl⟩
  have pads :
      pad.Gives expander.context.resolver "ax%28y%3Bb" (.str "  ax%28y%3Bb".toList) :=
    ⟨[.text "8"], rfl, fun _ _ => rfl⟩
  have firstGives :
      ∃ after,
        ((expander.propertyPhase .properties).value (TextCall.reference "P" [insert])).runFrom {} =
          (.ok (.str "ax%28y%3Bb".toList), after) :=
    TextCall.GiveAll.value (expander.propertyPhase .properties) propertyNamed valued
      (by decide) (.call inserts (by decide) (.done _)) {}
  have bothGive :
      ∃ after,
        ((expander.propertyPhase .properties).value
          (TextCall.reference "P" [insert, pad])).runFrom {} =
            (.ok (.str "  ax%28y%3Bb".toList), after) :=
    TextCall.GiveAll.value (expander.propertyPhase .properties) propertyNamed valued
      (by decide) (.call inserts (by decide) (.call pads (by decide) (.done _))) {}
  obtain ⟨afterFirst, firstGives⟩ := firstGives
  obtain ⟨afterBoth, bothGive⟩ := bothGive
  have givesTexts :
      ∀ front, front ≠ [] → front <+: [insert, pad] →
        ∃ result, result ≠ [] ∧
          (((expander.propertyPhase .properties).value
            (TextCall.reference "P" front)).runFrom {}).1 = .ok (.str result) := by
    intro front some inCalls
    have isFront : ∃ later, front = insert :: later ∧ (later = [] ∨ later = [pad]) := by
      simpa [List.prefix_cons_iff, some] using inCalls
    obtain ⟨later, rfl, rfl | rfl⟩ := isFront
    · exact ⟨"ax%28y%3Bb".toList, by decide, by rw [firstGives]⟩
    · exact ⟨"  ax%28y%3Bb".toList, by decide, by rw [bothGive]⟩
  have agree :
      ∃ result,
        ((expander.text .propertiesAndItems
          (TextCall.reference "P" [insert, pad])).runFrom {}).1 = .ok result ∧
        ((expander.text .propertiesAndItems
          (TextCall.vector "T" [insert, pad])).runFrom {}).1 = .ok result :=
    transforms_run_as_chain standard rfl (by decide) (by decide) (by decide) (by decide)
      propertyNamed (by decide) valued rfl (List.cons_ne_nil insert [pad]) {} givesTexts
  exact ⟨congrArg Prod.fst bothGive, agree⟩

end Expander

end RefExpand
