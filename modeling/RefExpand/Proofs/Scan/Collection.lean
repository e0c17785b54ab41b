import RefExpand.Proofs.Scan.Mentions

namespace RefExpand

/-!
# What a collection reports

Every reference that is mentioned is reported under a spelling of its own, and
nothing else is. Of the references in a separator those within a vector that
stands there are not mentioned.
-/

namespace MetadataReference

/-- The reference is to metadata of this name, as names compare. -/
def Names (reference : MetadataReference) (itemType : Option Text) (name : Text) : Prop :=
  reference.itemType.map Text.lowerAscii = itemType.map Text.lowerAscii ∧
    Text.sameName reference.name name = true

theorem names_self
    (reference : MetadataReference) :
    reference.Names reference.itemType reference.name :=
  ⟨rfl, Text.sameName_iff.mpr rfl⟩

theorem dot_not_mem_lowerAscii
    {name : Text}
    (dashed : Text.IsDashedName name) :
    '.' ∉ name.lowerAscii := by
  intro isMember
  obtain ⟨c, inName, lower⟩ := List.mem_map.mp isMember
  have isDot : c = '.' :=
    Text.eq_of_toLower_eq (by decide) (lower.trans (by decide))
  exact absurd (dashed.continues c inName) (by rw [isDot]; decide)

/-- The dot of a key stands where the first name ends. -/
theorem parts_of_append_dot
    {left left' right right' : Text}
    (noDot : '.' ∉ left)
    (noDot' : '.' ∉ left')
    (same : left ++ '.' :: right = left' ++ '.' :: right') :
    left = left' ∧ right = right' := by
  rcases List.append_eq_append_iff.mp same with ⟨middle, longer, rest⟩ | ⟨middle, longer, rest⟩
  all_goals
    cases middle with
    | nil =>
        simp_all
    | cons c middle =>
        rw [List.cons_append, List.cons.injEq] at rest
        obtain ⟨rfl, -⟩ := rest
        simp_all

/-- Keys that are the same up to case are keys of the same names. -/
theorem names_of_sameName_key
    {text rest text' rest' : Text}
    {reference reference' : MetadataReference}
    (read : read? text = some (reference, rest))
    (read' : read? text' = some (reference', rest'))
    (same : Text.sameName reference.key reference'.key = true) :
    reference.Names reference'.itemType reference'.name := by
  obtain ⟨typeDashed, nameDashed⟩ := dashed_of_read? read
  obtain ⟨typeDashed', nameDashed'⟩ := dashed_of_read? read'
  have noDot := dot_not_mem_lowerAscii nameDashed
  have noDot' := dot_not_mem_lowerAscii nameDashed'
  have dotLower : Char.toLower '.' = '.' := by
    decide
  rcases reference with ⟨written, itemType, name⟩
  rcases reference' with ⟨written', itemType', name'⟩
  rw [Text.sameName_iff] at same
  cases itemType with
  | none =>
      cases itemType' with
      | none =>
          exact ⟨rfl, Text.sameName_iff.mpr same⟩
      | some typeName' =>
          simp only [key, Text.lowerAscii, List.map_append, List.map_cons, dotLower] at same noDot
          rw [same] at noDot
          simp at noDot
  | some typeName =>
      have noDotType := dot_not_mem_lowerAscii (typeDashed typeName rfl)
      cases itemType' with
      | none =>
          simp only [key, Text.lowerAscii, List.map_append, List.map_cons, dotLower] at same noDot'
          rw [← same] at noDot'
          simp at noDot'
      | some typeName' =>
          have noDotType' := dot_not_mem_lowerAscii (typeDashed' typeName' rfl)
          simp only [key, Text.lowerAscii, List.map_append, List.map_cons, dotLower] at same
          obtain ⟨sameType, sameName⟩ := parts_of_append_dot noDotType noDotType' same
          exact ⟨congrArg some sameType, Text.sameName_iff.mpr sameName⟩

/-- What is among the references of a text was read. -/
theorem exists_read_of_mem_allIn
    {text : Text}
    {reference : MetadataReference}
    (isMember : reference ∈ allIn text) :
    ∃ whole rest, read? whole = some (reference, rest) := by
  obtain ⟨stretch, isFound, rfl⟩ := List.mem_map.mp isMember
  obtain ⟨earlier, later, found⟩ := List.append_of_mem isFound
  obtain ⟨rest, -, read⟩ := Reader.read_of_found reader_takes found
  exact ⟨_, rest, read⟩

/-- A text without references has none in a part of it either. -/
theorem allIn_eq_nil_of_isInfix
    {part text : Text}
    (inside : part <:+: text)
    (nowhere : allIn text = []) :
    allIn part = [] := by
  rw [List.eq_nil_iff_forall_not_mem]
  intro reference isMember
  obtain ⟨stretch, isFound, rfl⟩ := List.mem_map.mp isMember
  obtain ⟨earlier, later, found⟩ := List.append_of_mem isFound
  obtain ⟨rest, shape, read⟩ := Reader.read_of_found reader_takes found
  obtain ⟨front, back, whole⟩ := inside
  have atEnd : stretch.2.written ++ (rest ++ back) <:+ text := by
    refine ⟨front ++ (Cut.spread (·.written) earlier ++ stretch.1), ?_⟩
    rw [← whole, shape]
    simp
  have readWhole :
      reader.read? (stretch.2.written ++ (rest ++ back)) = some (stretch.2, rest ++ back) :=
    read?_written read (rest ++ back)
  exact Reader.found_ne_nil atEnd readWhole (List.map_eq_nil_iff.mp nowhere)

/-- The references of a text that stand outside its vectors. -/
def outsideVectors (text : Text) : List MetadataReference :=
  (ItemVector.cut text).gather allIn fun _ => []

/-- The references of a text outside its vectors, and those outside vectors in separators. -/
def mentioned (text : Text) : List MetadataReference :=
  (ItemVector.cut text).gather allIn fun vector =>
    match vector.separator with
    | none => []
    | some separator => outsideVectors separator.text

theorem exists_read_of_mem_outsideVectors
    {text : Text}
    {reference : MetadataReference}
    (isMember : reference ∈ outsideVectors text) :
    ∃ whole rest, read? whole = some (reference, rest) := by
  rcases Cut.mem_gather.mp isMember with ⟨stretch, -, inGap⟩ | inLast | ⟨vector, -, nowhere⟩
  · exact exists_read_of_mem_allIn inGap
  · exact exists_read_of_mem_allIn inLast
  · cases nowhere

theorem exists_read_of_mem_mentioned
    {text : Text}
    {reference : MetadataReference}
    (isMember : reference ∈ mentioned text) :
    ∃ whole rest, read? whole = some (reference, rest) := by
  rcases Cut.mem_gather.mp isMember with ⟨stretch, -, inGap⟩ | inLast | ⟨vector, -, inSeparator⟩
  · exact exists_read_of_mem_allIn inGap
  · exact exists_read_of_mem_allIn inLast
  · split at inSeparator
    · cases inSeparator
    · exact exists_read_of_mem_outsideVectors inSeparator

/-- The references of a text within vectors that stand in separators. -/
def nestedInSeparators (text : Text) : List MetadataReference :=
  (ItemVector.cut text).values.flatMap fun vector =>
    match vector.separator with
    | none => []
    | some separator =>
        (ItemVector.cut separator.text).values.flatMap fun nested => allIn nested.written

end MetadataReference

namespace ItemVector

theorem exists_read_of_mem_values
    {text : Text}
    {vector : ItemVector}
    (isMember : vector ∈ (cut text).values) :
    ∃ whole rest, whole <:+ text ∧ read? whole = some (vector, rest) := by
  obtain ⟨stretch, isFound, rfl⟩ := List.mem_map.mp isMember
  obtain ⟨earlier, later, found⟩ := List.append_of_mem isFound
  obtain ⟨rest, shape, read⟩ := Reader.read_of_found reader_takes found
  refine ⟨_, rest, ⟨Cut.spread (·.written) earlier ++ stretch.1, ?_⟩, read⟩
  rw [List.append_assoc]
  exact shape.symm

end ItemVector

namespace Mentions

/-- A text without quotes mentions its references outside vectors. -/
theorem of_unquoted
    {text : Text}
    (noQuote : '\'' ∉ text) :
    mentions .metadataOnly text = (MetadataReference.outsideVectors text).map .metadata := by
  rw [eq_gather, MetadataReference.outsideVectors, Cut.map_gather]
  refine Cut.gather_congr fun vector isMember => ?_
  obtain ⟨whole, rest, isSuffix, read⟩ := ItemVector.exists_read_of_mem_values isMember
  have noSeparator := ItemVector.separator_eq_none read fun inWhole =>
    noQuote (isSuffix.subset inWhole)
  simp [inside, noSeparator, NameSelection.metadataOnly]

theorem metadataOnly
    (text : Text) :
    mentions .metadataOnly text = (MetadataReference.mentioned text).map .metadata := by
  rw [eq_gather, MetadataReference.mentioned, Cut.map_gather]
  refine Cut.gather_congr fun vector isMember => ?_
  obtain ⟨whole, rest, -, read⟩ := ItemVector.exists_read_of_mem_values isMember
  have unquoted := ItemVector.quote_not_mem_separator read
  rcases vector with ⟨written, itemType, transforms, separator⟩
  cases separator with
  | none =>
      rfl
  | some separator =>
      have inSeparator := of_unquoted (unquoted separator rfl)
      simp only [inside, NameSelection.metadataOnly] at inSeparator ⊢
      simp [inSeparator]

end Mentions

namespace ReferencedNames

/-- Adding a mention adds no other reference. -/
theorem mem_metadata_add
    {names : ReferencedNames}
    {mention : Mention}
    {reference : MetadataReference}
    (isMember : reference ∈ (names.add mention).metadata) :
    reference ∈ names.metadata ∨ mention = .metadata reference := by
  cases mention with
  | itemType itemType =>
      simp only [add] at isMember
      split at isMember
      · exact .inl isMember
      · exact .inl isMember
  | metadata found =>
      simp only [add] at isMember
      split at isMember
      · exact .inl isMember
      · rcases List.mem_append.mp isMember with already | isFound
        · exact .inl already
        · exact .inr (congrArg Mention.metadata (List.mem_singleton.mp isFound).symm)

theorem containsMetadata_add
    {names : ReferencedNames}
    {key : Text}
    (contained : names.containsMetadata key = true)
    (mention : Mention) :
    (names.add mention).containsMetadata key = true := by
  unfold containsMetadata at contained ⊢
  cases mention with
  | itemType itemType =>
      simp only [add]
      split
      · exact contained
      · exact contained
  | metadata found =>
      simp only [add]
      split
      · exact contained
      · rw [List.any_append, contained, Bool.true_or]

theorem containsMetadata_add_self
    (names : ReferencedNames)
    (reference : MetadataReference) :
    (names.add (.metadata reference)).containsMetadata reference.key = true := by
  simp only [add]
  split
  · rename_i already
    exact already
  · simp [containsMetadata, Text.sameName]

/-- Nothing is collected that was not mentioned. -/
theorem mem_of_mem_foldl
    {mentioned : List Mention}
    {names : ReferencedNames}
    {reference : MetadataReference}
    (isMember : reference ∈ (mentioned.foldl add names).metadata) :
    reference ∈ names.metadata ∨ .metadata reference ∈ mentioned := by
  induction mentioned generalizing names with
  | nil =>
      exact .inl isMember
  | cons mention later inductionHypothesis =>
      rcases inductionHypothesis isMember with already | inLater
      · rcases mem_metadata_add already with before | isMention
        · exact .inl before
        · exact .inr (isMention ▸ List.mem_cons_self)
      · exact .inr (List.mem_cons_of_mem _ inLater)

/-- What was mentioned, or collected before, is collected under some spelling. -/
theorem containsMetadata_foldl
    {mentioned : List Mention}
    {names : ReferencedNames}
    {reference : MetadataReference}
    (wanted :
      names.containsMetadata reference.key = true ∨ .metadata reference ∈ mentioned) :
    (mentioned.foldl add names).containsMetadata reference.key = true := by
  induction mentioned generalizing names with
  | nil =>
      rcases wanted with already | nowhere
      · exact already
      · cases nowhere
  | cons mention later inductionHypothesis =>
      refine inductionHypothesis ?_
      rcases wanted with already | isMember
      · exact .inl (containsMetadata_add already mention)
      · rcases List.mem_cons.mp isMember with rfl | inLater
        · exact .inl (containsMetadata_add_self names reference)
        · exact .inr inLater

/-- The references to metadata that batching learns of from an expression. -/
def reported (expression : Text) : List MetadataReference :=
  (collect .metadataOnly [expression]).metadata

theorem mentioned_of_mem_reported
    {expression : Text}
    {reference : MetadataReference}
    (isReported : reference ∈ reported expression) :
    reference ∈ MetadataReference.mentioned expression := by
  rw [reported, collect, List.flatMap_singleton, Mentions.metadataOnly] at isReported
  rcases mem_of_mem_foldl isReported with nowhere | isMention
  · cases nowhere
  · simpa using isMention

/-- A mentioned reference is reported, if not in the same spelling. -/
theorem exists_reported_of_mem_mentioned
    {expression : Text}
    {reference : MetadataReference}
    (isMentioned : reference ∈ MetadataReference.mentioned expression) :
    ∃ found ∈ reported expression, found.Names reference.itemType reference.name := by
  have isMention : Mention.metadata reference ∈ mentions .metadataOnly expression := by
    rw [Mentions.metadataOnly]
    exact List.mem_map_of_mem isMentioned
  have contained :
      ((mentions .metadataOnly expression).foldl add {}).containsMetadata reference.key = true :=
    containsMetadata_foldl (.inr isMention)
  obtain ⟨found, isFound, same⟩ := List.any_eq_true.mp contained
  have isReported : found ∈ reported expression := by
    rw [reported, collect, List.flatMap_singleton]
    exact isFound
  obtain ⟨_, _, read⟩ := MetadataReference.exists_read_of_mem_mentioned isMentioned
  obtain ⟨_, _, readFound⟩ :=
    MetadataReference.exists_read_of_mem_mentioned (mentioned_of_mem_reported isReported)
  refine ⟨found, isReported, MetadataReference.names_of_sameName_key readFound read ?_⟩
  rw [Text.sameName_iff] at same ⊢
  exact same.symm

end ReferencedNames

end RefExpand
