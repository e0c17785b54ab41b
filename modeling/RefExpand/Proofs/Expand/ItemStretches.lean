import RefExpand.Expand.Items
import RefExpand.Proofs.Scan.VectorForm
import RefExpand.Proofs.Text.Escaping

namespace RefExpand

/-!
# The item phase, stretch by stretch

Stretches without vectors stay as they are, and a bare vector becomes the specs
of its items with semicolons between them, unless wildcards are to be expanded.
-/

namespace ItemPhase

variable {phase : ItemPhase}

theorem text_nil :
    phase.text [] = .ok [] := by
  simp [text, ItemVector.cut, replaceVectors]

/-- A stretch without at signs stays as it is. -/
theorem text_append
    {front : Text}
    (noVector : '@' ∉ front)
    (rest : Text) :
    phase.text (front ++ rest) = (phase.text rest).map (front ++ ·) := by
  have cutWhole :
      ItemVector.cut (front ++ rest) = (ItemVector.cut rest).prepend front := by
    refine Reader.cut_append (fun c isMember later => ?_) rest
    refine ItemVector.read?_eq_none ?_ later
    rintro rfl
    exact noVector isMember
  unfold text
  rw [cutWhole]
  -- The stretch goes to what stands before the first vector, or to what is left without one.
  rcases ItemVector.cut rest with ⟨found, last⟩
  cases found with
  | nil =>
      rfl
  | cons head more =>
      obtain ⟨before, vector⟩ := head
      simp only [Cut.prepend, replaceVectors]
      cases phase.entries vector true with
      | error failure =>
          rfl
      | ok found =>
          cases stopped : found.stopped with
          | true =>
              simp [bind, Except.bind, Except.map, pure, Except.pure, stopped]
          | false =>
              cases phase.replaceVectors last more <;>
                simp [bind, Except.bind, Except.map, pure, Except.pure, stopped]

/-- A bare vector becomes its entries, and the phase goes on behind it. -/
theorem text_vector
    {itemType : Text}
    (named : itemType.isName = true)
    {pairs : List ItemPair}
    (entries :
      phase.entries (ItemVector.bare itemType) true = .ok { pairs, stopped := false })
    (rest : Text) :
    phase.text ((ItemVector.bare itemType).written ++ rest) =
      (phase.text rest).map (phase.vectorText (ItemVector.bare itemType) pairs ++ ·) := by
  have cutWhole :
      ItemVector.cut ((ItemVector.bare itemType).written ++ rest) =
        { ItemVector.cut rest with
          found := ([], ItemVector.bare itemType) :: (ItemVector.cut rest).found } :=
    Reader.cut_of_read (ItemVector.read?_bare_append named rest)
  unfold text
  rw [cutWhole]
  dsimp only
  rw [replaceVectors, entries]
  cases phase.replaceVectors (ItemVector.cut rest).last (ItemVector.cut rest).found <;> rfl

/-- An item without wildcards to expand starts with its spec. -/
theorem startOf_of_spec
    {item : Item}
    (taken : (phase.context.itemizesWildcards && item.spec.hasWildcards) = false) :
    phase.startOf item = .ok [.of item.spec (some item)] := by
  simp [startOf, taken, pure, Except.pure]

theorem startBatch_of_specs
    {items : List Item}
    (taken :
      ∀ item ∈ items, (phase.context.itemizesWildcards && item.spec.hasWildcards) = false) :
    phase.startBatch items = .ok (items.map fun item => .of item.spec (some item)) := by
  have started :
      (items.mapM fun item => Pipeline.ofResult (phase.startOf item)) =
        .ok (items.map fun item => [.of item.spec (some item)]) := by
    induction items with
    | nil =>
        rfl
    | cons item rest inductionHypothesis =>
        rw [List.mapM_cons, startOf_of_spec (taken item List.mem_cons_self),
          inductionHypothesis fun other isMember =>
            taken other (List.mem_cons_of_mem _ isMember)]
        rfl
  have flat :
      (items.map fun item => [ItemPair.of item.spec (some item)]).flatten =
        items.map fun item => ItemPair.of item.spec (some item) := by
    rw [← List.flatMap_def, ← List.map_eq_flatMap]
  rw [startBatch, started, ← flat]
  rfl

theorem entries_bare
    (goesOn : phase.breaks = false)
    {itemType : Text}
    (noWildcards : ∀ item ∈ phase.items itemType, item.spec.hasWildcards = false)
    (keepsPlaceholders : Bool) :
    phase.entries (ItemVector.bare itemType) keepsPlaceholders =
      .ok
        { pairs := (phase.items itemType).map fun item => .of item.spec (some item)
          stopped := false } := by
  have typeOf : (ItemVector.bare itemType).itemType = itemType :=
    rfl
  have transformsOf : (ItemVector.bare itemType).transforms = [] :=
    rfl
  have taken :
      ∀ item ∈ phase.items itemType,
        (phase.context.itemizesWildcards && item.spec.hasWildcards) = false := by
    intro item isListed
    rw [noWildcards item isListed, Bool.and_false]
  unfold entries
  rw [typeOf, transformsOf]
  dsimp only
  rw [startBatch_of_specs taken]
  cases noItems : (phase.items itemType).isEmpty with
  | true =>
      rw [List.isEmpty_iff] at noItems
      rw [noItems]
      rfl
  | false =>
      simp only [Bool.false_and, runTransforms, goesOn]
      rfl

/-- A bare vector becomes the joined specs of its items. -/
theorem text_bare
    (goesOn : phase.breaks = false)
    (keepsLength : phase.options.contains .truncate = false)
    {itemType : Text}
    (named : itemType.isName = true)
    (noWildcards : ∀ item ∈ phase.items itemType, item.spec.hasWildcards = false)
    (rest : Text) :
    phase.text ((ItemVector.bare itemType).written ++ rest) =
      (phase.text rest).map
        (Text.join [';'] ((phase.items itemType).map (·.spec)) ++ ·) := by
  rw [text_vector named (entries_bare goesOn noWildcards true), vectorText, keepsLength]
  simp [ItemVector.join, ItemVector.joint, ItemVector.bare, ItemPair.of, ItemPair.text,
    Function.comp_def]

end ItemPhase

end RefExpand
