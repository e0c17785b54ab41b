import RefExpand.Proofs.Scan.Captures
import RefExpand.Proofs.Scan.Collection

namespace RefExpand

/-!
# The item types that are referred to

A vector in a transform or in a separator gives no item type of its own, and no
vector begins inside a metadata reference. So what a collection mentions are the
types of the vectors that are captured in the whole text, whatever else is asked
for. Each of them is collected once, as it was spelled first.
-/

/-- The item type that is mentioned. -/
def Mention.itemType? : Mention → Option Text
  | .itemType name => some name
  | .metadata _ => none

namespace Cut

/-- The places of the values aside, placing them changes nothing. -/
theorem map_snd_placed
    (written : α → Text)
    (cut : Cut α)
    (start : Nat) :
    (cut.placed written start).map (·.2) = cut.values := by
  obtain ⟨found, last⟩ := cut
  change (place written start found).map (·.2) = found.map (·.2)
  induction found generalizing start with
  | nil =>
      rfl
  | cons stretch found inductionHypothesis =>
      simp only [place, List.map_cons, inductionHypothesis]

/-- Where the gaps give nothing that is kept, the values give all of it. -/
theorem filterMap_gather
    {outside : Text → List β}
    {inside : α → List β}
    {keep : β → Option γ}
    (nothing : ∀ gap, (outside gap).filterMap keep = [])
    (cut : Cut α) :
    (gather outside inside cut).filterMap keep =
      cut.values.flatMap fun value => (inside value).filterMap keep := by
  simp only [gather, values, List.filterMap_append, List.filterMap_flatMap, nothing,
    List.nil_append, List.append_nil, List.flatMap_map]

end Cut

/-- In a whole expression the vectors are captured at which it is cut. -/
theorem ItemVector.map_snd_captures
    (expression : Text) :
    (captures expression 0 expression.utf8Size).map (·.2) = (cut expression).values := by
  have whole :
      Place.between expression 0 (min expression.utf8Size expression.utf8Size) =
        .holding expression [] := by
    rw [Place.between, Text.dropBytes, Nat.min_self, Nat.sub_zero, Place.holding,
      List.append_nil]
  rw [captures, whole, placeReader_follows.captures_holding]
  exact Cut.map_snd_placed _ _ 0

/-- Metadata is no item type. -/
theorem Mention.itemTypes_metadata
    (references : List MetadataReference) :
    (references.map Mention.metadata).filterMap itemType? = [] := by
  rw [List.filterMap_map, List.filterMap_eq_nil_iff]
  intro reference _
  rfl

namespace Mentions

variable {selection : NameSelection}

theorem itemTypes_outside
    (gap : Text) :
    (outside selection gap).filterMap Mention.itemType? = [] := by
  unfold outside
  split
  · exact Mention.itemTypes_metadata _
  · rfl

/-- Asked for metadata only, nothing but metadata is mentioned. -/
theorem itemTypes_metadataOnly
    (text : Text) :
    (mentions .metadataOnly text).filterMap Mention.itemType? = [] := by
  rw [metadataOnly]
  exact Mention.itemTypes_metadata _

/-- Whatever stands in its transforms and its separator, a vector mentions its own type. -/
theorem itemTypes_inside
    (selects : selection.itemTypes = true)
    (vector : ItemVector) :
    (inside selection vector).filterMap Mention.itemType? = [vector.itemType] := by
  obtain ⟨written, itemType, transforms, separator⟩ := vector
  have inTransforms :
      (if selection.inTransforms then
          transforms.flatMap fun transform => mentions .metadataOnly transform.inner
        else []).filterMap Mention.itemType? = [] := by
    split
    · rw [List.filterMap_flatMap, List.flatMap_eq_nil_iff]
      intro transform _
      exact itemTypes_metadataOnly transform.inner
    · rfl
  have inSeparator :
      ∀ separator : Separator,
        (if selection.metadata then mentions .metadataOnly separator.text
          else []).filterMap Mention.itemType? = [] := by
    intro separator
    split
    · exact itemTypes_metadataOnly separator.text
    · rfl
  simp only [inside, List.filterMap_append, inTransforms, selects]
  cases separator with
  | none =>
      rfl
  | some separator =>
      simp only [inSeparator separator]
      rfl

/-- The item types that a text mentions are those of the vectors it is cut at. -/
theorem itemTypes_eq
    (selects : selection.itemTypes = true)
    (text : Text) :
    (mentions selection text).filterMap Mention.itemType? =
      (ItemVector.cut text).values.map (·.itemType) := by
  rw [eq_gather, Cut.filterMap_gather itemTypes_outside]
  simp only [itemTypes_inside selects, List.map_eq_flatMap]

end Mentions

namespace ReferencedNames

/-- An item type that is new stands behind those collected before it. -/
theorem itemTypes_foldl_add
    (mentioned : List Mention)
    (names : ReferencedNames) :
    (mentioned.foldl add names).itemTypes =
      names.itemTypes ++
        ((mentioned.filterMap Mention.itemType?).filter
          fun name => !names.containsItemType name).eraseDupsBy Text.sameName := by
  induction mentioned generalizing names with
  | nil =>
      simp
  | cons mention later inductionHypothesis =>
      rw [List.foldl_cons, inductionHypothesis]
      cases mention with
      | metadata reference =>
          have kept : (names.add (.metadata reference)).itemTypes = names.itemTypes := by
            rw [add]
            split <;> rfl
          simp only [containsItemType, kept]
          rfl
      | itemType name =>
          cases already : names.containsItemType name with
          | true =>
              simp [add, already, Mention.itemType?]
          | false =>
              -- From here on the new name is met as well as those collected before it.
              have met :
                  ∀ other,
                    (names.add (.itemType name)).containsItemType other =
                      (names.containsItemType other || Text.sameName other name) := by
                intro other
                rw [add, already]
                simp [containsItemType]
              have appended : (names.add (.itemType name)).itemTypes = names.itemTypes ++ [name] := by
                rw [add, already]
                rfl
              have mentioned : Mention.itemType? (.itemType name) = some name :=
                rfl
              rw [appended, List.filterMap_cons_some mentioned, List.filter_cons, already,
                Bool.not_false, if_pos rfl, List.eraseDupsBy_cons, List.filter_filter,
                List.append_assoc]
              simp [met, Bool.and_comm]

/--
Whatever is collected beside them, the item types are those of the vectors that are
captured in each whole expression, one expression after the other. Of the names that
differ in ASCII case only, the first is kept.
-/
theorem itemTypes_are_captured
    {selection : NameSelection}
    (selects : selection.itemTypes = true)
    (expressions : List Text) :
    (collect selection expressions).itemTypes =
      (expressions.flatMap fun expression =>
        (ItemVector.captures expression 0 expression.utf8Size).map
          fun capture => capture.2.itemType).eraseDupsBy Text.sameName := by
  have captured :
      ∀ expression : Text,
        (ItemVector.captures expression 0 expression.utf8Size).map
            (fun capture => capture.2.itemType) =
          (mentions selection expression).filterMap Mention.itemType? := by
    intro expression
    rw [Mentions.itemTypes_eq selects, ← ItemVector.map_snd_captures, List.map_map]
    rfl
  simp only [captured, ← List.filterMap_flatMap]
  rw [collect, itemTypes_foldl_add]
  -- At first no name has been met.
  exact congrArg (List.eraseDupsBy _) (List.filter_eq_self.mpr fun _ _ => rfl)

/-- The vectors in the argument and in the separator give nothing, the one in the stray text does. -/
theorem itemTypes_are_captured_of_nested_vectors :
    let selection : NameSelection := { itemTypes := true, metadata := true, inTransforms := true }
    let expressions : List Text := ["@(A->F('@(B)'), '@(C)')%(a.@(X))", "@(D)@(x)@( a )"]
    selection.itemTypes = true ∧
      (collect selection expressions).itemTypes =
        (expressions.flatMap fun expression =>
          (ItemVector.captures expression 0 expression.utf8Size).map
            fun capture => capture.2.itemType).eraseDupsBy Text.sameName ∧
      (collect selection expressions).itemTypes = ["A".toList, "X".toList, "D".toList] := by
  intro selection expressions
  exact ⟨rfl, itemTypes_are_captured rfl expressions, by decide +kernel⟩

end ReferencedNames

end RefExpand
