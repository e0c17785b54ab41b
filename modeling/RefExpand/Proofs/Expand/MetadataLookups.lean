import RefExpand.Proofs.Expand.MetadataStretches
import RefExpand.Proofs.Expand.Run
import RefExpand.Proofs.Scan.Collection

namespace RefExpand

/-!
# What the metadata phase looks up

The phase replaces at the values of one cut, made of the cuts of the gaps and of
the separators. It looks up what stands there, and batching is told of all of it
but the references within a vector that stands in a separator: the phase reads
the separator as plain text, and collecting reads vectors in it.
-/

section Replacing

variable {m : Type → Type} [Monad m] [LawfulMonad m]

theorem Cut.replaceWith_append
    {replace : α → m Text}
    (left right : Cut α) :
    replaceWith replace (left.append right) = do
      let first ← replaceWith replace left
      let second ← replaceWith replace right
      return first ++ second := by
  have goesOn :
      replaceWith replace (left.append right) = do
        let pieces ← left.found.mapM fun stretch => do
          return stretch.1 ++ (← replace stretch.2)
        let rest ← replaceWith replace (right.prepend left.last)
        return pieces.flatten ++ rest := by
    simp [replaceWith, append, List.mapM_append]
  rw [goesOn, replaceWith_prepend]
  simp [replaceWith]

/-- Where the values are replaced in the same way, so is the whole text. -/
theorem Cut.replaceWith_congr
    {replace replace' : α → m Text}
    {cut : Cut α}
    (same : ∀ value ∈ cut.values, replace value = replace' value) :
    replaceWith replace cut = replaceWith replace' cut := by
  obtain ⟨found, last⟩ := cut
  unfold replaceWith
  congr 1
  dsimp only
  induction found with
  | nil =>
      rfl
  | cons stretch found inductionHypothesis =>
      have here := same stretch.2 List.mem_cons_self
      have later :=
        inductionHypothesis fun value isMember => same value (List.mem_cons_of_mem _ isMember)
      rw [List.mapM_cons, List.mapM_cons, here, later]

/-- Where one monad is lifted into another, replacing there is replacing here, lifted. -/
theorem Cut.replaceWith_lift
    {n : Type → Type}
    [Monad n]
    [LawfulMonad n]
    (lift : {β : Type} → m β → n β)
    (liftPure : ∀ {β : Type} (value : β), lift (pure value) = pure value)
    (liftBind :
      ∀ {β γ : Type} (action : m β) (next : β → m γ),
        lift (action >>= next) = lift action >>= fun value => lift (next value))
    (replace : α → m Text)
    (cut : Cut α) :
    replaceWith (fun value => lift (replace value)) cut = lift (replaceWith replace cut) := by
  obtain ⟨found, last⟩ := cut
  have pieces :
      (found.mapM fun stretch => do return stretch.1 ++ (← lift (replace stretch.2))) =
        lift (found.mapM fun stretch => do return stretch.1 ++ (← replace stretch.2)) := by
    induction found with
    | nil =>
        rw [List.mapM_nil, List.mapM_nil, liftPure]
    | cons stretch found inductionHypothesis =>
        rw [List.mapM_cons, List.mapM_cons, inductionHypothesis]
        simp only [liftBind, liftPure]
  unfold replaceWith
  dsimp only
  rw [pieces, liftBind]
  simp only [liftPure]

variable {replace : MetadataReference → m Text}

namespace ItemVector

/-- A vector as it is written, cut at the references in its separator. -/
def separatorCut (vector : ItemVector) : Cut MetadataReference :=
  match vector.separator with
  | none => { found := [], last := vector.written }
  | some separator =>
      ((MetadataReference.cut separator.text).prepend
          (vector.written.take separator.offset)).append
        { found := []
          last := vector.written.drop (separator.offset + separator.text.length) }

theorem replaceInSeparator_eq
    (vector : ItemVector) :
    replaceInSeparator replace vector = (separatorCut vector).replaceWith replace := by
  rcases vector with ⟨written, itemType, transforms, separator⟩
  cases separator with
  | none =>
      simp [replaceInSeparator, separatorCut, Cut.replaceWith]
  | some separator =>
      simp only [replaceInSeparator, separatorCut]
      rw [Cut.replaceWith_append, Cut.replaceWith_prepend]
      simp [Cut.replaceWith, withSeparatorText, MetadataReference.replaceIn]

/-- A text cut at the references outside its vectors and in their separators. -/
def cutAround (text : Text) : Cut MetadataReference :=
  (cut text).found.foldr
    (fun stretch later =>
      (MetadataReference.cut stretch.1).append ((separatorCut stretch.2).append later))
    (MetadataReference.cut (cut text).last)

theorem replaceAround_eq
    (text : Text) :
    replaceAround replace text = (cutAround text).replaceWith replace := by
  unfold replaceAround cutAround
  rcases cut text with ⟨found, last⟩
  dsimp only
  induction found with
  | nil =>
      simp [MetadataReference.replaceIn_eq]
  | cons stretch found inductionHypothesis =>
      rw [List.foldr_cons, Cut.replaceWith_append, Cut.replaceWith_append,
        ← inductionHypothesis, ← replaceInSeparator_eq, ← MetadataReference.replaceIn_eq]
      simp [List.mapM_cons, -bind_pure_comp]

theorem values_cutAround
    (text : Text) :
    (cutAround text).values =
      (cut text).gather MetadataReference.allIn fun vector =>
        match vector.separator with
        | none => []
        | some separator => MetadataReference.allIn separator.text := by
  have inVector :
      ∀ vector : ItemVector,
        (separatorCut vector).values =
          match vector.separator with
          | none => []
          | some separator => MetadataReference.allIn separator.text := by
    rintro ⟨written, itemType, transforms, separator⟩
    cases separator with
    | none =>
        rfl
    | some separator =>
        simp only [separatorCut, Cut.values_append, Cut.values_prepend]
        exact List.append_nil _
  unfold cutAround
  rcases cut text with ⟨found, last⟩
  dsimp only
  induction found with
  | nil =>
      rfl
  | cons stretch found inductionHypothesis =>
      rw [List.foldr_cons, Cut.values_append, Cut.values_append, inductionHypothesis, inVector]
      simp [Cut.gather, MetadataReference.allIn]

/-- A cut at the references, put together as they are written. -/
def whole (cut : Cut MetadataReference) : Text :=
  Cut.spread (·.written) cut.found ++ cut.last

theorem whole_prepend
    (front : Text)
    (cut : Cut MetadataReference) :
    whole (cut.prepend front) = front ++ whole cut := by
  rcases cut with ⟨found, last⟩
  cases found <;> simp [whole, Cut.prepend]

theorem whole_append
    (left right : Cut MetadataReference) :
    whole (left.append right) = whole left ++ whole right := by
  have shape :
      whole (left.append right) =
        Cut.spread (·.written) left.found ++ whole (right.prepend left.last) := by
    simp [whole, Cut.append, Cut.spread]
  rw [shape, whole_prepend]
  simp [whole]

theorem whole_cut
    (text : Text) :
    whole (MetadataReference.cut text) = text :=
  Reader.spread_cut MetadataReference.reader_takes text

theorem whole_separatorCut
    {text rest : Text}
    {vector : ItemVector}
    (read : read? text = some (vector, rest)) :
    whole (separatorCut vector) = vector.written := by
  cases given : vector.separator with
  | none =>
      rw [separatorCut, given]
      rfl
  | some separator =>
      obtain ⟨front, back, shape, offset⟩ := separator_standsAt read given
      have lastPart : vector.written.drop (separator.offset + separator.text.length) = back := by
        rw [shape, ← offset, ← List.length_append, ← List.append_assoc, List.drop_left]
      have firstPart : vector.written.take separator.offset = front := by
        rw [shape, ← offset, List.take_left]
      rw [separatorCut, given]
      dsimp only
      rw [whole_append, whole_prepend, whole_cut, firstPart, lastPart, shape]
      simp [whole]

/-- The cut of a text at what is replaced in it loses nothing. -/
theorem whole_cutAround
    (text : Text) :
    whole (cutAround text) = text := by
  have spread : Cut.spread (·.written) (cut text).found ++ (cut text).last = text :=
    Reader.spread_cut reader_takes text
  have readAll :
      ∀ vector ∈ (cut text).values, ∃ text rest, read? text = some (vector, rest) := by
    intro vector isMember
    obtain ⟨text, rest, -, read⟩ := exists_read_of_mem_values isMember
    exact ⟨text, rest, read⟩
  unfold cutAround
  generalize cut text = parts at spread readAll ⊢
  obtain ⟨found, last⟩ := parts
  subst spread
  dsimp only
  induction found with
  | nil =>
      exact whole_cut last
  | cons stretch found inductionHypothesis =>
      obtain ⟨_, _, read⟩ := readAll stretch.2 List.mem_cons_self
      have later :=
        inductionHypothesis fun vector isMember =>
          readAll vector (List.mem_cons_of_mem _ isMember)
      rw [List.foldr_cons, whole_append, whole_append, whole_cut, whole_separatorCut read, later]
      simp

/-- In a text without references none is looked up. -/
theorem values_cutAround_eq_nil
    {text : Text}
    (nowhere : MetadataReference.allIn text = []) :
    (cutAround text).values = [] := by
  rw [allIn_eq_gather, List.eq_nil_iff_forall_not_mem] at nowhere
  rw [values_cutAround, List.eq_nil_iff_forall_not_mem]
  intro reference isMember
  rcases Cut.mem_gather.mp isMember with inGap | inLast | ⟨vector, isFound, inSeparator⟩
  · exact nowhere reference (Cut.mem_gather.mpr (.inl inGap))
  · exact nowhere reference (Cut.mem_gather.mpr (.inr (.inl inLast)))
  · obtain ⟨_, _, -, read⟩ := exists_read_of_mem_values isFound
    have noneInVector : MetadataReference.allIn vector.written = [] := by
      rw [List.eq_nil_iff_forall_not_mem]
      intro other inVector
      exact nowhere other (Cut.mem_gather.mpr (.inr (.inr ⟨vector, isFound, inVector⟩)))
    split at inSeparator
    · cases inSeparator
    · rename_i separator given
      obtain ⟨front, back, shape, -⟩ := separator_standsAt read given
      have inside : separator.text <:+: vector.written :=
        ⟨front, back, by rw [shape, List.append_assoc]⟩
      rw [MetadataReference.allIn_eq_nil_of_isInfix inside noneInVector] at inSeparator
      cases inSeparator

/-- A text without references stays as it is. -/
theorem replaceAround_eq_pure
    {text : Text}
    (nowhere : MetadataReference.allIn text = []) :
    replaceAround replace text = pure text := by
  have wholeText := whole_cutAround text
  have noValues := values_cutAround_eq_nil nowhere
  rw [replaceAround_eq]
  generalize cutAround text = parts at wholeText noValues ⊢
  obtain ⟨found, last⟩ := parts
  obtain rfl : found = [] :=
    List.map_eq_nil_iff.mp noValues
  obtain rfl : last = text := by
    simpa [whole] using wholeText
  simp [Cut.replaceWith]

end ItemVector

end Replacing

/-- Replacing agrees if it agrees at every value. -/
theorem Expansion.Agree.replaceWith
    {related : Trace → Trace → Prop}
    {left right : α → Expansion Text}
    {cut : Cut α}
    (each : ∀ value ∈ cut.values, Agree related (left value) (right value)) :
    Agree related (cut.replaceWith left) (cut.replaceWith right) := by
  refine .bind (.mapM_of_mem fun stretch isFound => ?_) fun _ => .pure _
  exact (each _ (List.mem_map_of_mem isFound)).bind fun _ => .pure _

/-- Replacing references with texts that agree gives texts that agree. -/
theorem ItemVector.replaceAround_agree
    {related : Trace → Trace → Prop}
    {left right : MetadataReference → Expansion Text}
    {text : Text}
    (each :
      ∀ reference ∈ (cutAround text).values,
        Expansion.Agree related (left reference) (right reference)) :
    Expansion.Agree related (replaceAround left text) (replaceAround right text) := by
  rw [replaceAround_eq, replaceAround_eq]
  exact .replaceWith each

namespace MetadataReference

/-- The references of a text are those outside its vectors and those within them. -/
theorem mem_allIn_iff
    {text : Text}
    {reference : MetadataReference} :
    reference ∈ allIn text ↔
      reference ∈ outsideVectors text ∨
        ∃ vector ∈ (ItemVector.cut text).values, reference ∈ allIn vector.written := by
  rw [ItemVector.allIn_eq_gather, outsideVectors, Cut.mem_gather, Cut.mem_gather]
  simp [or_assoc]

/-- Replaced is what is mentioned, and what stands within a vector in a separator. -/
theorem mem_values_cutAround_iff
    {text : Text}
    {reference : MetadataReference} :
    reference ∈ (ItemVector.cutAround text).values ↔
      reference ∈ mentioned text ∨ reference ∈ nestedInSeparators text := by
  rw [ItemVector.values_cutAround, mentioned, nestedInSeparators, Cut.mem_gather,
    Cut.mem_gather, List.mem_flatMap, or_assoc, or_assoc]
  refine or_congr_right (or_congr_right ?_)
  rw [← exists_or]
  refine exists_congr fun vector => ?_
  rw [← and_or_left]
  refine and_congr_right fun _ => ?_
  rcases vector with ⟨written, itemType, transforms, separator⟩
  cases separator with
  | none =>
      simp
  | some separator =>
      rw [mem_allIn_iff, List.mem_flatMap]

end MetadataReference

end RefExpand
