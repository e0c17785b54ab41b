import Mathlib.Control.Monad.Basic
import Mathlib.Data.List.Forall2
import RefExpand.Expand.Expander
import RefExpand.Proofs.Expand.PerPair
import RefExpand.Proofs.Expand.Run
import RefExpand.Proofs.Scan.VectorGrammar

namespace RefExpand

/-!
# Pieces that are vectors

A piece of a list that is one vector gives the entries of the vector, with one
exception. With the flag to break, expanding stops at the first entry that is not
empty, and a vector that stopped is not told apart from a piece without a vector:
it stands for itself, and none of its entries is given.
-/

namespace Pipeline

variable {pipeline : Pipeline} {transform : Transform} {batch pairs : List ItemPair}
variable {stopped : Bool}

/-- Something is found exactly if one of the pairs is not empty. -/
theorem applyEach_found
    (applied : pipeline.applyEach transform batch = .ok (pairs, stopped)) :
    stopped = pairs.any (!·.isEmpty) := by
  induction batch generalizing pairs stopped with
  | nil =>
      cases applied
      rfl
  | cons pair rest inductionHypothesis =>
      obtain ⟨produced, -, applied⟩ := exists_of_bind_eq_ok applied
      split at applied
      · rename_i some
        cases applied
        exact some.symm
      · rename_i none
        obtain ⟨⟨later, stoppedLater⟩, appliedLater, isWhole⟩ := exists_of_bind_eq_ok applied
        cases isWhole
        rw [Bool.not_eq_true] at none
        rw [List.any_append, none, Bool.false_or]
        exact inductionHypothesis appliedLater

theorem applyUntilFound_found
    (applied : pipeline.applyUntilFound transform batch = .ok (pairs, stopped)) :
    stopped = pairs.any (!·.isEmpty) := by
  unfold applyUntilFound at applied
  split at applied
  · exact applyEach_found applied
  · obtain ⟨produced, -, isWhole⟩ := exists_of_bind_eq_ok applied
    cases isWhole
    rfl

end Pipeline

namespace ItemVector

/-- The vector with its entries, joined if it has a separator. -/
def alone (vector : ItemVector) (pairs : List ItemPair) : SingleVector :=
  { pairs
    joined := if vector.separator.isSome then some (vector.join pairs) else none }

/-- A text that is one vector begins and ends with a sign that is not blank. -/
theorem trim_of_whole
    {text : Text}
    {vector : ItemVector}
    (read : read? text = some (vector, [])) :
    vector.written = text ∧ text.trim = text := by
  have whole : text = vector.written ++ [] := reader_takes read
  rw [List.append_nil] at whole
  obtain ⟨inside, written⟩ := exists_written read
  refine ⟨whole.symm, ?_⟩
  rw [whole, written, ← List.cons_append]
  exact Text.trim_cons_append_singleton (by decide) (by decide) _

end ItemVector

namespace ItemPhase

variable {phase : ItemPhase}

theorem runTransforms_stopped
    {pipeline : Pipeline}
    {transforms : List Transform}
    {batch : List ItemPair}
    {found : VectorEntries}
    (ran : phase.runTransforms pipeline transforms batch = .ok found) :
    found.stopped = (phase.breaks && found.pairs.any (!·.isEmpty)) := by
  unfold runTransforms at ran
  split at ran
  · rename_i breaks
    rw [breaks, Bool.true_and]
    split at ran
    · obtain ⟨middle, -, ran⟩ := exists_of_bind_eq_ok ran
      obtain ⟨⟨pairs, stopped⟩, applied, isFound⟩ := exists_of_bind_eq_ok ran
      cases isFound
      exact Pipeline.applyUntilFound_found applied
    · cases ran
      rfl
  · rename_i goesOn
    rw [Bool.not_eq_true] at goesOn
    rw [goesOn, Bool.false_and]
    obtain ⟨pairs, -, isFound⟩ := exists_of_bind_eq_ok ran
    cases isFound
    rfl

/-- Expanding a vector stops exactly if it is asked to and an entry is not empty. -/
theorem entries_stopped
    {vector : ItemVector}
    {keepsPlaceholders : Bool}
    {found : VectorEntries}
    (given : phase.entries vector keepsPlaceholders = .ok found) :
    found.stopped = (phase.breaks && found.pairs.any (!·.isEmpty)) := by
  unfold entries at given
  dsimp only at given
  split at given
  · cases given
    rw [List.any_nil, Bool.and_false]
  · obtain ⟨batch, -, ran⟩ := exists_of_bind_eq_ok given
    exact runTransforms_stopped (eq_ok_of_mapError ran)

/-- A text that is one vector is expanded to its entries, unless expanding stops. -/
theorem single_of_whole
    (expandsItems : phase.options.contains .items = true)
    {piece : Text}
    {vector : ItemVector}
    (read : ItemVector.read? piece = some (vector, []))
    (keepsPlaceholders : Bool) :
    phase.single piece keepsPlaceholders =
      (phase.entries vector keepsPlaceholders).map fun found =>
        if found.stopped then none else some (vector.alone found.pairs) := by
  have cutWhole : ItemVector.cut piece = { found := [([], vector)], last := [] } :=
    Reader.cut_of_whole read
  obtain ⟨written, trimmed⟩ := ItemVector.trim_of_whole read
  have values : (ItemVector.cut piece).values = [vector] := by
    rw [cutWhole]
    rfl
  have exclusive :
      (!([] : List ItemVector).isEmpty || decide (vector.written ≠ piece.trim)) = false := by
    simp [written, trimmed]
  rw [single, values, expandsItems]
  dsimp only
  rw [exclusive]
  cases phase.entries vector keepsPlaceholders with
  | error failure =>
      rfl
  | ok found =>
      cases stopped : found.stopped <;>
        simp [bind, Except.bind, Except.map, pure, Except.pure, stopped, ItemVector.alone]

/--
What a piece gives, if it is one vector: the results of its entries, or the piece
itself if expanding stops at one of them.
-/
def GivesEntries
    (phase : ItemPhase)
    (bare : Text → α)
    (ofVector : SingleVector → List α)
    (piece : Text)
    (share : List α) :
    Prop :=
  ∀ vector,
    ItemVector.read? piece = some (vector, []) →
      ∃ found,
        phase.entries vector false = .ok found ∧
          share =
            if phase.breaks && found.pairs.any (!·.isEmpty) then [bare piece]
            else ofVector (vector.alone found.pairs)

end ItemPhase

/-- What was made of each element of a list, from some trace each. -/
theorem Expansion.forall₂_of_mapM
    {make : β → Expansion α}
    {items : List β}
    {results : List α}
    {before after : Trace}
    (ran : (items.mapM make).runFrom before = (.ok results, after)) :
    List.Forall₂
      (fun item result => ∃ start finish, (make item).runFrom start = (.ok result, finish))
      items results := by
  induction items generalizing results before with
  | nil =>
      cases ran
      exact .nil
  | cons item rest inductionHypothesis =>
      rw [List.mapM_cons] at ran
      obtain ⟨result, middle, made, ran⟩ := exists_of_runFrom_bind ran
      obtain ⟨later, _, madeLater, ran⟩ := exists_of_runFrom_bind ran
      cases ran
      exact .cons ⟨before, middle, made⟩ (inductionHypothesis madeLater)

namespace Expander

variable {options : ExpandOptions} {bare : Text → α} {ofVector : SingleVector → List α}

/-- A piece of a list that is a vector gives its entries, or itself if expanding stops. -/
theorem givesEntries_of_piece
    (expander : Expander)
    (expandsItems : options.contains .items = true)
    {piece : Text}
    {share : List α}
    {before after : Trace}
    (ran : (expander.piece options bare ofVector piece).runFrom before = (.ok share, after)) :
    (expander.itemPhase options).GivesEntries bare ofVector piece share := by
  intro vector read
  obtain ⟨single, middle, isSingle, ran⟩ := Expansion.exists_of_runFrom_bind ran
  have given : (expander.itemPhase options).single piece false = .ok single :=
    (Prod.mk.inj isSingle).1
  rw [ItemPhase.single_of_whole expandsItems read] at given
  cases found : (expander.itemPhase options).entries vector false with
  | error failure =>
      rw [found] at given
      cases given
  | ok entries =>
      rw [found] at given
      have stopped := ItemPhase.entries_stopped found
      refine ⟨entries, rfl, ?_⟩
      rw [← stopped]
      cases given
      dsimp only at ran
      cases isStopped : entries.stopped with
      | true =>
          rw [isStopped] at ran
          cases ran
          rfl
      | false =>
          rw [isStopped] at ran
          cases ran
          rfl

/--
The results of an expression are shared out among the pieces of the list that comes
to the item phase: each piece that is one vector has the share of its entries.
-/
def SharesEntries
    (expander : Expander)
    (options : ExpandOptions)
    (bare : Text → α)
    (ofVector : SingleVector → List α)
    (expression : Text)
    (before : Trace)
    (results : List α) :
    Prop :=
  ∃ expanded middle shares,
    (expander.beforeItems options expression).runFrom before = (.ok expanded, middle) ∧
      results = shares.flatten ∧
        List.Forall₂ ((expander.itemPhase options).GivesEntries bare ofVector)
          expanded.splitList shares

theorem sharesEntries_of_pieces
    (expander : Expander)
    (expandsItems : options.contains .items = true)
    {expression : Text}
    {before after : Trace}
    {results : List α}
    (ran :
      (expander.pieces options bare ofVector expression).runFrom before =
        (.ok results, after)) :
    expander.SharesEntries options bare ofVector expression before results := by
  obtain ⟨expanded, middle, expandedRun, ran⟩ := Expansion.exists_of_runFrom_bind ran
  obtain ⟨shares, _, made, ran⟩ := Expansion.exists_of_runFrom_bind ran
  cases ran
  refine ⟨expanded, middle, shares, expandedRun, rfl, ?_⟩
  refine (Expansion.forall₂_of_mapM made).imp fun piece share madeShare => ?_
  obtain ⟨start, finish, ranPiece⟩ := madeShare
  exact givesEntries_of_piece expander expandsItems ranPiece

/--
Where items are expanded, each piece of the list that is one vector gives items, or
pairs, from the entries of the vector. Only if expanding stops at an entry that is
not empty does the piece give itself.
-/
theorem vector_pieces_give_entries
    (expander : Expander)
    {options : ExpandOptions}
    (expandsItems : options.contains .items = true)
    (expression : Text)
    (before : Trace) :
    (∀ (maker : ItemMaker α) results after,
      (expander.itemsWith options maker expression).runFrom before = (.ok results, after) →
        expander.SharesEntries options maker.bare maker.ofVector expression before results) ∧
    (∀ results after,
      (expander.pairs options expression).runFrom before = (.ok results, after) →
        expander.SharesEntries options (fun piece => .of piece none) ItemPhase.pairsOf
          expression before results) :=
  ⟨fun _ _ _ ran => sharesEntries_of_pieces expander expandsItems ran,
    fun _ _ ran => sharesEntries_of_pieces expander expandsItems ran⟩

/-- The first vector stops at its item and gives itself; the last has an empty entry only. -/
theorem vector_pieces_give_entries_where_one_stops :
    let first : Item := { itemType := "A", spec := "x" }
    let second : Item := { itemType := "B", spec := "y" }
    let expander : Expander :=
      { items := fun itemType => if itemType = "A".toList then [first] else [second]
        context := .onEmptyMachine }
    let options : ExpandOptions := .union .items .breakOnNotEmpty
    let expression := "@(A);z;@(B->'')".toList
    let results : List Text := ["@(A)", "z"]
    let run := (expander.itemsWith options .specs expression).runFrom {}
    options.contains .items = true ∧
      run.1 = .ok results ∧
      expander.SharesEntries options ItemMaker.specs.bare ItemMaker.specs.ofVector expression {}
        results := by
  intro first second expander options expression results run
  have expandsItems : options.contains .items = true := by
    decide
  have given : run.1 = .ok results := by
    decide +kernel
  have ran : run = (.ok results, run.2) :=
    Prod.ext given rfl
  exact
    ⟨expandsItems, given,
      (vector_pieces_give_entries expander expandsItems expression {}).1 ItemMaker.specs results
        run.2 ran⟩

/-- Not every vector gives its entries: asked to stop, the vector of one item gives its text. -/
theorem not_every_vector_gives_entries :
    ¬ ∀ (expander : Expander) (options : ExpandOptions) (expression expanded : Text)
        (before middle after : Trace) (results : List Text),
      options.contains .items = true →
        (expander.beforeItems options expression).runFrom before = (.ok expanded, middle) →
          (expander.itemsWith options .specs expression).runFrom before =
              (.ok results, after) →
            ∃ shares,
              results = shares.flatten ∧
                List.Forall₂
                  (fun piece share =>
                    ∀ vector,
                      ItemVector.read? piece = some (vector, []) →
                        ∃ found,
                          (expander.itemPhase options).entries vector false = .ok found ∧
                            share = ItemMaker.specs.ofVector (vector.alone found.pairs))
                  expanded.splitList shares := by
  intro claimed
  let item : Item := { itemType := "A", spec := "x" }
  let expander : Expander := { items := fun _ => [item], context := .onEmptyMachine }
  let options : ExpandOptions := .union .items .breakOnNotEmpty
  let expression := "@(A)".toList
  let run := (expander.itemsWith options .specs expression).runFrom {}
  have given : run.1 = .ok [expression] := by
    decide +kernel
  have ran : run = (.ok [expression], run.2) :=
    Prod.ext given rfl
  have untouched : expander.beforeItems options expression = pure expression := by
    have noMetadata : options.intersects .metadata = false := by
      decide
    have noProperties : options.contains .properties = false := by
      decide
    simp [beforeItems, expandMetadata, expandProperties, noMetadata, noProperties]
  have unchanged : (expander.beforeItems options expression).runFrom {} = (.ok expression, {}) := by
    rw [untouched]
    rfl
  obtain ⟨shares, whole, each⟩ :=
    claimed expander options expression expression {} {} run.2 [expression] (by decide)
      unchanged ran
  have onePiece : Text.splitList expression = [expression] := by
    decide
  have read : ItemVector.read? expression = some (ItemVector.bare "A", []) := by
    decide +kernel
  have entries :
      (expander.itemPhase options).entries (ItemVector.bare "A") false =
        .ok { pairs := [.of "x" (some item)], stopped := true } := by
    decide +kernel
  rw [onePiece] at each
  obtain ⟨share, later, ofVector, laterEach, rfl⟩ := List.forall₂_cons_left_iff.mp each
  cases laterEach
  obtain ⟨found, isFound, isShare⟩ := ofVector _ read
  rw [entries] at isFound
  cases isFound
  rw [List.flatten_singleton, isShare] at whole
  exact absurd whole (by decide)

end Expander

end RefExpand
