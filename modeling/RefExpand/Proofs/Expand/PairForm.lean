import RefExpand.Expand.Expander
import RefExpand.Proofs.Expand.Run

namespace RefExpand

/-!
# Items are made of pairs

An expression stands for items and for pairs alike: the items are what a maker
makes of the pairs, one by one and in their order. A maker that keeps the spec
and nothing else gives the specs of the pairs, because no pair is empty.
-/

theorem Text.ne_nil_of_mem_splitList
    {text piece : Text}
    (isPiece : piece ∈ text.splitList) :
    piece ≠ [] := by
  simpa using (List.mem_filter.mp isPiece).2

namespace ItemPair

/-- The pair itself, unless it is empty. -/
def some? : ItemPair → Option ItemPair :=
  Option.guard (!·.isEmpty)

theorem isEmpty_of
    (spec : Text)
    (source : Option Item) :
    (of spec source).isEmpty = spec.isEmpty :=
  rfl

theorem some?_of
    {spec : Text}
    (ink : spec ≠ [])
    (source : Option Item) :
    (of spec source).some? = some (of spec source) := by
  simp [some?, Option.guard, isEmpty_of, ink]

end ItemPair

namespace ItemMaker

/-- A maker makes nothing of an empty pair. -/
theorem filterMap_make?_filter
    (maker : ItemMaker α)
    (pairs : List ItemPair) :
    (pairs.filter (!·.isEmpty)).filterMap maker.make? = pairs.filterMap maker.make? := by
  have ofPair :
      (fun pair => if (!pair.isEmpty) = true then maker.make? pair else none) = maker.make? := by
    funext pair
    cases empty : pair.isEmpty <;> simp [make?, empty]
  rw [List.filterMap_filter, ofPair]

theorem make?_bare
    (maker : ItemMaker α)
    {spec : Text}
    (ink : spec ≠ []) :
    maker.make? (.of spec none) = some (maker.bare spec) := by
  rw [make?, ItemPair.isEmpty_of, List.isEmpty_eq_false_iff.mpr ink]
  rfl

/-- The results of a vector are made of the pairs that it gives. -/
theorem ofVector_eq
    (maker : ItemMaker α)
    (found : SingleVector) :
    maker.ofVector found = (ItemPhase.pairsOf found).filterMap maker.make? := by
  unfold ofVector ItemPhase.pairsOf
  cases found.joined with
  | none =>
      exact (maker.filterMap_make?_filter found.pairs).symm
  | some joined =>
      by_cases blank : joined = []
      · simp [blank]
      · simp [blank, maker.make?_bare blank]

/-- Whether it is reused, derived or bare, of a pair the spec is kept. -/
theorem make?_specs :
    specs.make? = fun pair => pair.some?.map ItemPair.text := by
  funext pair
  cases empty : pair.isEmpty with
  | true =>
      simp [make?, ItemPair.some?, Option.guard, empty]
  | false =>
      cases hasSource : pair.source with
      | none =>
          simp [make?, ItemPair.some?, Option.guard, empty, hasSource, specs]
      | some source =>
          by_cases unchanged : source.spec = pair.text <;>
            simp [make?, ItemPair.some?, Option.guard, empty, hasSource, unchanged, specs]

end ItemMaker

theorem ItemPhase.pairsOf_filter
    (found : SingleVector) :
    (pairsOf found).filter (!·.isEmpty) = pairsOf found := by
  unfold pairsOf
  cases found.joined with
  | none =>
      simp
  | some joined =>
      cases blank : joined.isEmpty <;> simp [blank, ItemPair.isEmpty_of]

namespace Expander

variable {expander : Expander} {options : ExpandOptions}
variable {bare : Text → α} {ofVector : SingleVector → List α}
variable {bare' : Text → β} {ofVector' : SingleVector → List β} {make? : α → Option β}

theorem piece_filterMap
    (atVector : ∀ found, ofVector' found = (ofVector found).filterMap make?)
    {piece : Text}
    (atBare : make? (bare piece) = some (bare' piece)) :
    expander.piece options bare' ofVector' piece =
      List.filterMap make? <$> expander.piece options bare ofVector piece := by
  unfold Expander.piece
  rw [map_bind]
  congr 1
  funext single
  cases single with
  | none =>
      simp [atBare]
  | some found =>
      simp [atVector]

/-- Forms that agree on vectors and on the other pieces agree on all expressions. -/
theorem pieces_filterMap
    (atVector : ∀ found, ofVector' found = (ofVector found).filterMap make?)
    (atBare : ∀ piece, piece ≠ [] → make? (bare piece) = some (bare' piece))
    (expression : Text) :
    expander.pieces options bare' ofVector' expression =
      List.filterMap make? <$> expander.pieces options bare ofVector expression := by
  have onPieces (expanded : Text) :
      expanded.splitList.mapM (expander.piece options bare' ofVector') =
        List.map (List.filterMap make?) <$>
          expanded.splitList.mapM (expander.piece options bare ofVector) :=
    Expansion.mapM_eq_map fun piece isPiece =>
      piece_filterMap atVector (atBare piece (Text.ne_nil_of_mem_splitList isPiece))
  simp [pieces, onPieces, List.filterMap_flatten]

/-- The items of an expression are made of its pairs. -/
theorem itemsWith_eq_filterMap
    (maker : ItemMaker α)
    (expression : Text) :
    expander.itemsWith options maker expression =
      List.filterMap maker.make? <$> expander.pairs options expression :=
  pieces_filterMap maker.ofVector_eq (fun _ => maker.make?_bare) expression

/-- No pair of an expression is empty. -/
theorem pairs_filterMap_some?
    (expression : Text) :
    expander.pairs options expression =
      List.filterMap ItemPair.some? <$> expander.pairs options expression := by
  have atVector (found : SingleVector) :
      ItemPhase.pairsOf found = (ItemPhase.pairsOf found).filterMap ItemPair.some? := by
    rw [ItemPair.some?, List.filterMap_eq_filter, ItemPhase.pairsOf_filter]
  exact pieces_filterMap atVector (fun _ ink => ItemPair.some?_of ink none) expression

/--
Where only specs are kept the items of an expression are the specs of its pairs.
One form fails exactly if the other does, in the same way, and both leave the same trace.
-/
theorem specs_are_specs_of_pairs
    (expander : Expander)
    (options : ExpandOptions)
    (expression : Text)
    (before : Trace) :
    (expander.itemsWith options .specs expression).runFrom before =
      (((expander.pairs options expression).runFrom before).1.map (List.map ItemPair.text),
        ((expander.pairs options expression).runFrom before).2) := by
  have specs :
      List.filterMap ItemMaker.specs.make? =
        List.map ItemPair.text ∘ List.filterMap ItemPair.some? := by
    funext pairs
    rw [ItemMaker.make?_specs, Function.comp_apply, List.map_filterMap]
  rw [← Expansion.runFrom_map, itemsWith_eq_filterMap, specs, comp_map, ← pairs_filterMap_some?]

end Expander

end RefExpand
