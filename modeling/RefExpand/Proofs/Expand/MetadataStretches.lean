import RefExpand.Expand.Metadata
import RefExpand.Proofs.Scan.MetadataReading
import RefExpand.Proofs.Scan.VectorForm

namespace RefExpand

/-!
# The metadata phase, stretch by stretch

Replacing references in a text is replacing them in its stretches, one after the
other: plain stretches and bare vectors stay, and a bare reference becomes what
its replacement gives. This holds in any lawful monad, so it holds of the phase
and of the transforms alike.
-/

/-- The text of a cut with every value replaced. -/
def Cut.replaceWith [Monad m] (replace : α → m Text) (cut : Cut α) : m Text := do
  let pieces ← cut.found.mapM fun (before, value) => do
    return before ++ (← replace value)
  return pieces.flatten ++ cut.last

theorem MetadataReference.replaceIn_eq
    [Monad m]
    (replace : MetadataReference → m Text)
    (text : Text) :
    replaceIn replace text = (cut text).replaceWith replace :=
  rfl

variable {m : Type → Type} [Monad m] [LawfulMonad m]
variable {replace : MetadataReference → m Text}

theorem Cut.replaceWith_prepend
    {replace : α → m Text}
    (front : Text)
    (cut : Cut α) :
    replaceWith replace (cut.prepend front) = (front ++ ·) <$> replaceWith replace cut := by
  obtain ⟨found, last⟩ := cut
  cases found with
  | nil =>
      simp [replaceWith, prepend]
  | cons head more =>
      simp [replaceWith, prepend, List.mapM_cons]

namespace MetadataReference

theorem replaceIn_prepend
    {front text : Text}
    (cutWhole : cut (front ++ text) = (cut text).prepend front) :
    replaceIn replace (front ++ text) = (front ++ ·) <$> replaceIn replace text := by
  rw [replaceIn_eq, cutWhole, Cut.replaceWith_prepend]
  rfl

theorem replaceIn_append
    {front : Text}
    (plain : '%' ∉ front)
    (text : Text) :
    replaceIn replace (front ++ text) = (front ++ ·) <$> replaceIn replace text := by
  refine replaceIn_prepend (Reader.cut_append (fun c isMember rest => ?_) text)
  refine read?_eq_none ?_ rest
  rintro rfl
  exact plain isMember

/-- A reference that is recognised becomes its replacement. -/
theorem replaceIn_reference
    {reference : MetadataReference}
    {text : Text}
    (read : read? (reference.written ++ text) = some (reference, text)) :
    replaceIn replace (reference.written ++ text) =
      replace reference >>= fun value => (value ++ ·) <$> replaceIn replace text := by
  unfold replaceIn
  have cutWhole :
      cut (reference.written ++ text) =
        { cut text with found := ([], reference) :: (cut text).found } :=
    Reader.cut_of_read read
  rw [cutWhole]
  simp [List.mapM_cons]

end MetadataReference

namespace ItemVector

/--
What is replaced at the front of a text that holds no vector there is what is
replaced in the stretch before the first vector.
-/
theorem replaceAround_prepend
    {front text : Text}
    {first : m Text}
    (noVector : '@' ∉ front)
    (inside :
      ∀ rest,
        MetadataReference.replaceIn replace (front ++ rest) =
          first >>= fun value =>
            (value ++ ·) <$> MetadataReference.replaceIn replace rest) :
    replaceAround replace (front ++ text) =
      first >>= fun value => (value ++ ·) <$> replaceAround replace text := by
  have cutWhole : cut (front ++ text) = (cut text).prepend front := by
    refine Reader.cut_append (fun c isMember rest => ?_) text
    refine read?_eq_none ?_ rest
    rintro rfl
    exact noVector isMember
  unfold replaceAround
  rw [cutWhole]
  rcases cut text with ⟨found, last⟩
  cases found with
  | nil =>
      simp [Cut.prepend, inside]
  | cons head more =>
      simp [Cut.prepend, List.mapM_cons, inside, map_eq_pure_bind, -bind_pure_comp]

theorem replaceAround_append
    {front : Text}
    (noReference : '%' ∉ front)
    (noVector : '@' ∉ front)
    (text : Text) :
    replaceAround replace (front ++ text) =
      (front ++ ·) <$> replaceAround replace text := by
  have inside :
      ∀ rest,
        MetadataReference.replaceIn replace (front ++ rest) =
          pure front >>= fun value =>
            (value ++ ·) <$> MetadataReference.replaceIn replace rest := by
    intro rest
    rw [pure_bind, MetadataReference.replaceIn_append noReference]
  rw [replaceAround_prepend noVector inside, pure_bind]

/-- A bare reference becomes its replacement. -/
theorem replaceAround_reference
    {itemType : Option Text}
    {name : Text}
    (typeNamed : ∀ typeName ∈ itemType, typeName.isName = true)
    (named : name.isName = true)
    (text : Text) :
    replaceAround replace ((MetadataReference.bare itemType name).written ++ text) =
      replace (.bare itemType name) >>= fun value =>
        (value ++ ·) <$> replaceAround replace text := by
  have noVector : '@' ∉ (MetadataReference.bare itemType name).written := by
    have inName : '@' ∉ name :=
      Text.not_mem_of_isName named (by decide)
    have inType : ∀ typeName ∈ itemType, '@' ∉ typeName := fun typeName isType =>
      Text.not_mem_of_isName (typeNamed typeName isType) (by decide)
    cases itemType with
    | none =>
        simp [MetadataReference.bare, inName]
    | some typeName =>
        simp [MetadataReference.bare, inName, inType typeName rfl]
  exact replaceAround_prepend noVector fun rest =>
    MetadataReference.replaceIn_reference
      (MetadataReference.read?_bare_append typeNamed named rest)

/-- A bare vector stays as it is: it has no separator to replace in. -/
theorem replaceAround_vector
    {itemType : Text}
    (named : itemType.isName = true)
    (text : Text) :
    replaceAround replace ((bare itemType).written ++ text) =
      ((bare itemType).written ++ ·) <$> replaceAround replace text := by
  have cutWhole :
      cut ((bare itemType).written ++ text) =
        { cut text with found := ([], bare itemType) :: (cut text).found } :=
    Reader.cut_of_read (read?_bare_append named text)
  have nothingBefore :
      MetadataReference.replaceIn replace [] = pure [] := by
    simp [MetadataReference.replaceIn, MetadataReference.cut]
  have noSeparator :
      replaceInSeparator replace (bare itemType) = pure (bare itemType).written :=
    rfl
  unfold replaceAround
  rw [cutWhole]
  simp [List.mapM_cons, nothingBefore, noSeparator, map_eq_pure_bind, -bind_pure_comp]

theorem replaceAround_nil :
    replaceAround replace [] = pure [] := by
  simp [replaceAround, cut, MetadataReference.replaceIn, MetadataReference.cut]

end ItemVector

theorem ExpandOptions.contains_of_contains
    {options middle inner : ExpandOptions}
    (outerContains : options.contains middle = true)
    (middleContains : middle.contains inner = true) :
    options.contains inner = true := by
  simp only [contains, beq_iff_eq] at outerContains middleContains ⊢
  rw [← middleContains, ← BitVec.and_assoc, outerContains]

namespace MetadataPhase

variable {phase : MetadataPhase}

theorem contains_gateOf
    (expands : phase.options.contains .metadata = true)
    (name : Text) :
    phase.options.contains (gateOf name) = true := by
  refine ExpandOptions.contains_of_contains expands ?_
  unfold gateOf
  split <;> decide

/-- Without the option to log, no reference leaves a message. -/
theorem noteSelfReference_eq_pure
    (unlogged : phase.options.contains .logSelfReference = false)
    (reference : MetadataReference) :
    phase.noteSelfReference reference = pure () := by
  unfold noteSelfReference
  rw [unlogged]
  split
  · rw [Bool.false_and]
    rfl
  · rfl

/-- A reference that is to be replaced becomes what the table answers. -/
theorem replace_eq_ofExcept
    {reference : MetadataReference}
    (asked : phase.options.contains (gateOf reference.name) = true)
    (keepsLength : phase.options.contains .truncate = false)
    (silent : phase.noteSelfReference reference = pure ()) :
    phase.replace reference =
      Expansion.ofExcept
        ((phase.table.value reference.itemType reference.name).mapError .error) := by
  unfold replace
  rw [if_pos asked, silent, keepsLength]
  cases phase.table.value reference.itemType reference.name <;> rfl

end MetadataPhase

end RefExpand
