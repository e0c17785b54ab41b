import RefExpand.Expand.Expander
import RefExpand.Proofs.Expand.ItemStretches
import RefExpand.Proofs.Expand.MetadataStretches
import RefExpand.Proofs.Expand.PropertyStretches

namespace RefExpand

/-!
# Escaped data is inert

Data that was escaped passes through all phases of an expansion as it is,
although every phase scans what the phases before it put in. A list of
references to such data therefore expands to the list of the data.
-/

/-- A text that a list keeps as it is once it is escaped. -/
structure Text.IsInert
    (raw : Text) : Prop where
  some :
    raw ≠ []
  trimmed :
    raw.trim = raw
  noBackslash :
    '\\' ∉ raw

/-- Whether a text is inert can be decided. -/
instance (raw : Text) : Decidable raw.IsInert :=
  decidable_of_iff (raw ≠ [] ∧ raw.trim = raw ∧ '\\' ∉ raw)
    ⟨fun ⟨present, trimmed, noBackslash⟩ => ⟨present, trimmed, noBackslash⟩,
      fun inert => ⟨inert.some, inert.trimmed, inert.noBackslash⟩⟩

/-- A reference to data, without blanks and transforms. -/
inductive DataReference where
  | property (name : Text)
  | metadata (itemType : Option Text) (name : Text)
  | items (itemType : Text)

namespace DataReference

/-- The reference as it is written in an expression. -/
def written : DataReference → Text
  | .property name => '$' :: '(' :: (name ++ [')'])
  | .metadata itemType name => (MetadataReference.bare itemType name).written
  | .items itemType => (ItemVector.bare itemType).written

/-- What the reference names is a name. -/
def WellNamed : DataReference → Prop
  | .property name => name.isName = true
  | .metadata itemType name =>
      (∀ typeName ∈ itemType, typeName.isName = true) ∧ name.isName = true
  | .items itemType => itemType.isName = true

/-- What the reference stands for are these texts in escaped form. -/
def StandsFor
    (expander : Expander)
    (table : MetadataTable) :
    DataReference → List Text → Prop
  | .property name, raws =>
      ∃ raw,
        raws = [raw] ∧ ((expander.propertyPhase .all).valueOf name).1 = raw.escape
  | .metadata itemType name, raws =>
      ∃ raw,
        raws = [raw] ∧ table.value itemType name = .ok raw.escape
  | .items itemType, raws =>
      (expander.items itemType).map (·.spec) = raws.map Text.escape

end DataReference

/-- A reference with the raw texts that it stands for, all of them inert. -/
structure InertReference
    (expander : Expander)
    (table : MetadataTable) where
  reference : DataReference
  raws : List Text
  wellNamed :
    reference.WellNamed
  standsFor :
    reference.StandsFor expander table raws
  inert :
    ∀ raw ∈ raws, raw.IsInert

/-- Stretches that are rewritten one by one are rewritten as a joined list. -/
theorem Text.join_rewrites
    (rewrites : Text → Text → Prop)
    (nil : rewrites [] [])
    (semicolon :
      ∀ text result, rewrites text result → rewrites (';' :: text) (';' :: result))
    {left right : α → Text}
    {stretches : List α}
    (each :
      ∀ stretch ∈ stretches, ∀ text result,
        rewrites text result → rewrites (left stretch ++ text) (right stretch ++ result)) :
    rewrites (join [';'] (stretches.map left)) (join [';'] (stretches.map right)) := by
  induction stretches with
  | nil =>
      exact nil
  | cons stretch rest inductionHypothesis =>
      have here := each stretch List.mem_cons_self
      have later :=
        inductionHypothesis fun other isMember =>
          each other (List.mem_cons_of_mem _ isMember)
      cases rest with
      | nil =>
          simpa [join] using here [] [] nil
      | cons next rest =>
          simp only [List.map_cons, join_cons_cons, List.append_assoc,
            List.singleton_append] at later ⊢
          exact here _ _ (semicolon _ _ later)

namespace InertReference

variable {expander : Expander} {table : MetadataTable}

/-- The escaped data of a reference as a list. -/
def data
    (inert : InertReference expander table) :
    Text :=
  Text.join [';'] (inert.raws.map Text.escape)

/-- What the metadata phase makes of a reference. -/
def afterMetadata
    (inert : InertReference expander table) :
    Text :=
  match inert.reference with
  | .metadata _ _ => inert.data
  | .property _ | .items _ => inert.reference.written

/-- What the property phase makes of that. -/
def afterProperties
    (inert : InertReference expander table) :
    Text :=
  match inert.reference with
  | .property _ | .metadata _ _ => inert.data
  | .items _ => inert.reference.written

theorem not_mem_data
    (inert : InertReference expander table)
    {c : Char}
    (reserved : Text.isReserved c = true)
    (noPercent : c ≠ '%')
    (noSemicolon : c ≠ ';') :
    c ∉ inert.data := by
  intro isMember
  rcases Text.mem_of_mem_join isMember with isSemicolon | ⟨piece, isPiece, inPiece⟩
  · exact noSemicolon (List.mem_singleton.mp isSemicolon)
  · obtain ⟨raw, -, rfl⟩ := List.mem_map.mp isPiece
    exact Text.not_mem_escape reserved noPercent raw inPiece

theorem backslash_not_mem_data
    (inert : InertReference expander table) :
    '\\' ∉ inert.data := by
  intro isMember
  rcases Text.mem_of_mem_join isMember with isSemicolon | ⟨piece, isPiece, inPiece⟩
  · exact absurd isSemicolon (by decide)
  · obtain ⟨raw, isRaw, rfl⟩ := List.mem_map.mp isPiece
    exact Text.backslash_not_mem_escape (inert.inert raw isRaw).noBackslash inPiece

theorem backslash_not_mem_afterProperties
    (inert : InertReference expander table) :
    '\\' ∉ inert.afterProperties := by
  have inData := inert.backslash_not_mem_data
  obtain ⟨reference, raws, wellNamed, standsFor, inert⟩ := inert
  cases reference with
  | property name =>
      exact inData
  | metadata itemType name =>
      exact inData
  | items itemType =>
      have inName : '\\' ∉ itemType :=
        Text.not_mem_of_isName wellNamed (by decide)
      simp [afterProperties, DataReference.written, ItemVector.bare, inName]

theorem splitList_data
    (inert : InertReference expander table) :
    inert.data.splitList = inert.raws.map Text.escape := by
  have lone : ∀ raw ∈ inert.raws, raw.escape.splitList = [raw.escape] := by
    intro raw isRaw
    have rawInert := inert.inert raw isRaw
    exact
      Text.splitList_singleton
        (Text.not_mem_escape (by decide) (by decide) raw)
        (Text.not_mem_escape (by decide) (by decide) raw)
        (Text.trim_escape rawInert.trimmed) (Text.escape_ne_nil rawInert.some)
  have noVector : ∀ list ∈ inert.raws.map Text.escape, '@' ∉ list := by
    intro list isList
    obtain ⟨raw, -, rfl⟩ := List.mem_map.mp isList
    exact Text.not_mem_escape (by decide) (by decide) raw
  rw [data, Text.splitList_join noVector, List.flatMap_map, List.map_eq_flatMap,
    List.flatMap_def, List.flatMap_def, List.map_congr_left lone]

end InertReference

/-- The metadata phase when everything is expanded. -/
def Expander.allMetadata
    (expander : Expander)
    (table : MetadataTable) :
    MetadataPhase :=
  { table, options := .all, context := expander.context }

namespace InertReference

variable {expander : Expander} {table : MetadataTable}

/-- Everything expanded, a metadata reference becomes its value and leaves no message. -/
theorem replace_of_value
    {itemType : Option Text}
    {name value : Text}
    (known : table.value itemType name = .ok value) :
    (expander.allMetadata table).replace (.bare itemType name) = pure value := by
  have asked : ExpandOptions.all.contains (MetadataPhase.gateOf name) = true := by
    unfold MetadataPhase.gateOf
    split <;> rfl
  have keepsLength : ExpandOptions.all.contains .truncate = false :=
    rfl
  have unlogged : ExpandOptions.all.contains .logSelfReference = false :=
    rfl
  have silent :
      (expander.allMetadata table).noteSelfReference (.bare itemType name) = pure () :=
    MetadataPhase.noteSelfReference_eq_pure unlogged _
  rw [MetadataPhase.replace_eq_ofExcept asked keepsLength silent]
  exact congrArg (fun answer => Expansion.ofExcept (answer.mapError .error)) known

/-- The metadata phase puts the data of metadata in, and leaves all else. -/
theorem metadata_rewrites
    (references : List (InertReference expander table)) :
    (expander.allMetadata table).text
        (Text.join [';'] (references.map (·.reference.written))) =
      pure (Text.join [';'] (references.map afterMetadata)) := by
  have append :
      ∀ {front : Text}, '%' ∉ front → '@' ∉ front → ∀ text result,
        (expander.allMetadata table).text text = pure result →
          (expander.allMetadata table).text (front ++ text) = pure (front ++ result) := by
    intro front noReference noVector text result rewritten
    unfold MetadataPhase.text at rewritten ⊢
    rw [ItemVector.replaceAround_append noReference noVector, rewritten, map_pure]
  refine
    Text.join_rewrites (fun text result => (expander.allMetadata table).text text = pure result)
      ItemVector.replaceAround_nil ?_ ?_
  · exact append (show '%' ∉ [';'] by decide) (by decide)
  -- Only a metadata reference is rewritten here; the other two are stretches for this phase.
  · rintro ⟨reference, raws, wellNamed, standsFor, inert⟩ - text result rewritten
    cases reference with
    | property name =>
        have noPercent : '%' ∉ name :=
          Text.not_mem_of_isName wellNamed (by decide)
        have noAt : '@' ∉ name :=
          Text.not_mem_of_isName wellNamed (by decide)
        have noReference : '%' ∉ (DataReference.property name).written := by
          simp [DataReference.written, noPercent]
        have noVector : '@' ∉ (DataReference.property name).written := by
          simp [DataReference.written, noAt]
        exact append noReference noVector text result rewritten
    | metadata itemType name =>
        obtain ⟨raw, rfl, known⟩ := standsFor
        obtain ⟨typeNamed, named⟩ := wellNamed
        unfold MetadataPhase.text at rewritten ⊢
        rw [DataReference.written, ItemVector.replaceAround_reference typeNamed named,
          replace_of_value known, pure_bind, rewritten, map_pure]
        simp [afterMetadata, data, Text.join]
    | items itemType =>
        unfold MetadataPhase.text at rewritten ⊢
        rw [DataReference.written, ItemVector.replaceAround_vector wellNamed, rewritten,
          map_pure]
        rfl

/-- The property phase puts the data of properties in, and leaves all else. -/
theorem properties_rewrite
    (references : List (InertReference expander table)) :
    Expansion.Ends (fun _ => True)
      ((expander.propertyPhase .all).joined
        (Text.join [';'] (references.map afterMetadata)))
      (· = .ok (Text.join [';'] (references.map afterProperties))) := by
  let rewrites (text result : Text) : Prop :=
    Expansion.Ends (fun _ => True)
      ((expander.propertyPhase .all).joined text) (· = .ok result)
  have append :
      ∀ {front : Text}, '$' ∉ front → ∀ text result,
        rewrites text result → rewrites (front ++ text) (front ++ result) := by
    intro front noReference text result rewritten
    dsimp only [rewrites]
    rw [PropertyPhase.joined_append noReference]
    exact rewritten.map _
  refine Text.join_rewrites rewrites ?_ ?_ ?_
  · dsimp only [rewrites]
    rw [PropertyPhase.joined_nil]
    exact .pure []
  · exact append (show '$' ∉ [';'] by decide)
  -- Where metadata stood there is escaped data by now, and no dollar sign in it.
  · intro inert _ text result rewritten
    have whole := append (inert.not_mem_data (by decide) (by decide) (by decide)) text result
      rewritten
    obtain ⟨reference, raws, wellNamed, standsFor, inert⟩ := inert
    cases reference with
    | property name =>
        obtain ⟨raw, rfl, known⟩ := standsFor
        have shape :
            (DataReference.property name).written ++ text =
              '$' :: '(' :: (name ++ ')' :: text) := by
          simp [DataReference.written]
        have found :
            Expansion.Ends (fun _ => True) ((expander.propertyPhase .all).lookup name)
              (· = .ok (.str raw.escape)) := by
          intro before _
          rw [← known]
          exact ⟨rfl, trivial⟩
        have dataShape :
            Text.join [';'] ([raw].map Text.escape) = (Value.str raw.escape).escaped := by
          simp [Text.join, Value.escaped]
        dsimp only [rewrites, afterMetadata, afterProperties, data]
        rw [shape, PropertyPhase.joined_property wellNamed, dataShape]
        exact found.bind (rewritten.map _)
    | metadata itemType name =>
        exact whole
    | items itemType =>
        have noDollar : '$' ∉ itemType :=
          Text.not_mem_of_isName wellNamed (by decide)
        have noReference : '$' ∉ (DataReference.items itemType).written := by
          simp [DataReference.written, ItemVector.bare, noDollar]
        exact append noReference text result rewritten

/-- The item phase puts the data of items in, and leaves all else. -/
theorem items_rewrite
    (references : List (InertReference expander table)) :
    (expander.itemPhase .all).text
        (Text.join [';'] (references.map afterProperties)) =
      .ok (Text.join [';'] (references.map data)) := by
  let rewrites (text result : Text) : Prop :=
    (expander.itemPhase .all).text text = .ok result
  have append :
      ∀ {front : Text}, '@' ∉ front → ∀ text result,
        rewrites text result → rewrites (front ++ text) (front ++ result) := by
    intro front noVector text result rewritten
    dsimp only [rewrites] at rewritten ⊢
    rw [ItemPhase.text_append noVector, rewritten]
    rfl
  refine Text.join_rewrites rewrites ItemPhase.text_nil ?_ ?_
  · exact append (show '@' ∉ [';'] by decide)
  -- Only a vector is left to rewrite, and the specs of its items are taken as they are.
  · intro inert _ text result rewritten
    have whole := append (inert.not_mem_data (by decide) (by decide) (by decide)) text result
      rewritten
    obtain ⟨reference, raws, wellNamed, standsFor, inert⟩ := inert
    cases reference with
    | property name =>
        exact whole
    | metadata itemType name =>
        exact whole
    | items itemType =>
        have noWildcards :
            ∀ item ∈ expander.items itemType, item.spec.hasWildcards = false := by
          intro item isItem
          have isSpec : item.spec ∈ raws.map Text.escape := by
            rw [← standsFor]
            exact List.mem_map_of_mem isItem
          obtain ⟨raw, -, isEscape⟩ := List.mem_map.mp isSpec
          rw [← isEscape]
          exact Text.hasWildcards_escape raw
        have goesOn : (expander.itemPhase .all).breaks = false := by
          change ExpandOptions.all.contains .breakOnNotEmpty = false
          rfl
        have keepsLength : ExpandOptions.all.contains .truncate = false :=
          rfl
        dsimp only [rewrites, afterProperties] at rewritten ⊢
        rw [DataReference.written,
          ItemPhase.text_bare goesOn keepsLength wellNamed noWildcards, rewritten, data,
          ← standsFor]
        rfl

theorem expandMetadata_ends
    (present : expander.metadata = some table)
    (references : List (InertReference expander table)) :
    Expansion.Ends (fun _ => True)
      (expander.expandMetadata .all (Text.join [';'] (references.map (·.reference.written))))
      (· = .ok (Text.join [';'] (references.map afterMetadata))) := by
  have asked : ExpandOptions.all.intersects .metadata = true :=
    rfl
  rw [Expander.expandMetadata, asked, if_pos rfl, present]
  change Expansion.Ends _ ((expander.allMetadata table).text _) _
  rw [metadata_rewrites]
  exact .pure _

theorem expandProperties_ends
    (references : List (InertReference expander table)) :
    Expansion.Ends (fun _ => True)
      (expander.expandProperties .all (Text.join [';'] (references.map afterMetadata)))
      (· = .ok (Text.join [';'] (references.map afterProperties))) := by
  have noBackslash : '\\' ∉ Text.join [';'] (references.map afterProperties) := by
    intro isMember
    rcases Text.mem_of_mem_join isMember with isSemicolon | ⟨piece, isPiece, inPiece⟩
    · exact absurd isSemicolon (by decide)
    · obtain ⟨reference, -, rfl⟩ := List.mem_map.mp isPiece
      exact reference.backslash_not_mem_afterProperties inPiece
  intro start _
  obtain ⟨ends, -⟩ := properties_rewrite references start trivial
  have run := PropertyPhase.runFrom_text (Prod.ext ends rfl) noBackslash
  have asked : ExpandOptions.all.contains .properties = true :=
    rfl
  rw [Expander.expandProperties, asked, if_pos rfl, run]
  exact ⟨rfl, trivial⟩

theorem expandItems_ends
    (references : List (InertReference expander table)) :
    Expansion.Ends (fun _ => True)
      (expander.expandItems .all (Text.join [';'] (references.map afterProperties)))
      (· = .ok (Text.join [';'] (references.map data))) := by
  have asked : ExpandOptions.all.contains .items = true :=
    rfl
  rw [Expander.expandItems, asked, if_pos rfl, items_rewrite]
  exact .ofExcept rfl

/-- The list of all data is cut into the escaped texts, those of a reference next to each other. -/
theorem splitList_join_data
    (references : List (InertReference expander table)) :
    Text.splitList (Text.join [';'] (references.map data)) =
      (references.flatMap (·.raws)).map Text.escape := by
  have noVector : ∀ list ∈ references.map data, '@' ∉ list := by
    intro list isList
    obtain ⟨reference, -, rfl⟩ := List.mem_map.mp isList
    exact reference.not_mem_data (by decide) (by decide) (by decide)
  rw [Text.splitList_join noVector, List.flatMap_map, List.map_flatMap]
  simp only [splitList_data]

end InertReference

/--
Escaped data is inert: a list of references whose properties, metadata and items
hold escaped texts expands, everything expanded, to the list of these escaped
texts in the order of the references, and reading them back gives the raw texts.
-/
theorem Expander.texts_of_inert_references
    (expander : Expander)
    {table : MetadataTable}
    (present : expander.metadata = some table)
    (references : List (InertReference expander table))
    (before : Trace) :
    let written := Text.join [';'] (references.map (·.reference.written))
    let raws := references.flatMap (·.raws)
    ((expander.texts .all written).runFrom before).1 = .ok (raws.map Text.escape) ∧
      (raws.map Text.escape).map Text.unescape = raws := by
  intro written raws
  have texts :
      Expansion.Ends (fun _ => True) (expander.texts .all written)
        (· = .ok (raws.map Text.escape)) := by
    have metadata := InertReference.expandMetadata_ends present references
    have properties := InertReference.expandProperties_ends references
    have items := InertReference.expandItems_ends references
    rw [← InertReference.splitList_join_data]
    exact ((metadata.bind properties).bind items).bind (.pure _)
  refine ⟨(texts before trivial).1, ?_⟩
  rw [List.map_map]
  exact List.map_id'' Text.unescape_escape raws

/-- Separators, references and percent signs in data are data, in a property, metadata and items. -/
theorem Expander.texts_of_inert_references_on_empty_machine :
    let table : MetadataTable :=
      { value := fun _ _ => .ok (Text.escape "100%;".toList), itemType := none }
    let expander : Expander :=
      { properties := { entries := [("P".toList, Text.escape "a;$(P)".toList)] }
        items := fun itemType =>
          [{ itemType, spec := Text.escape "@(T)".toList }, { itemType, spec := "b".toList }]
        metadata := some table
        context := .onEmptyMachine }
    ((expander.texts .all "$(P);%(M);@(T)".toList).runFrom {}).1 =
        .ok
          ["a%3B%24%28P%29".toList, "100%25%3B".toList, "%40%28T%29".toList, "b".toList] ∧
      ["a%3B%24%28P%29".toList, "100%25%3B".toList, "%40%28T%29".toList, "b".toList].map
          Text.unescape =
        ["a;$(P)".toList, "100%;".toList, "@(T)".toList, "b".toList] := by
  intro table expander
  exact
    @texts_of_inert_references expander table rfl
      [{ reference := .property "P".toList
         raws := ["a;$(P)".toList]
         wellNamed := rfl
         standsFor := ⟨_, rfl, by decide⟩
         inert := by decide },
        { reference := .metadata none "M".toList
          raws := ["100%;".toList]
          wellNamed := ⟨by simp, rfl⟩
          standsFor := ⟨_, rfl, rfl⟩
          inert := by decide },
        { reference := .items "T".toList
          raws := ["@(T)".toList, "b".toList]
          wellNamed := rfl
          standsFor := rfl
          inert := by decide }] {}

end RefExpand
