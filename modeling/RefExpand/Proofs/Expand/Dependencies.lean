import RefExpand.Proofs.Expand.Failures
import RefExpand.Proofs.Expand.MetadataLookups

namespace RefExpand

/-!
# Metadata dependencies

Batching relies on the reported references: an expansion that looks up anything
else need not be the same for two tables that agree on what was reported. What
may be looked up without being reported are the references within vectors in
separators, so all depends on whether these are reported for another reason.
-/

namespace Expansion

theorem Fails.replaceWith
    {replace : α → Expansion Text}
    {cut : Cut α}
    {value : α}
    (isMember : value ∈ cut.values)
    (fails : Fails (replace value)) :
    Fails (cut.replaceWith replace) := by
  obtain ⟨stretch, isFound, rfl⟩ := List.mem_map.mp isMember
  exact (Fails.mapM_of_mem isFound (fails.bind _)).bind _

end Expansion

namespace MetadataPhase

variable {phase : MetadataPhase}

theorem text_eq
    (expression : Text) :
    phase.text expression =
      (ItemVector.cutAround expression).replaceWith phase.replace :=
  ItemVector.replaceAround_eq expression

/--
Expanding the metadata of the expression looks up this name: it fails with every
table that fails there.
-/
def LooksUp (expression : Text) (itemType : Option Text) (name : Text) : Prop :=
  ∀ phase : MetadataPhase,
    phase.options.contains .metadata = true →
      (∃ error, phase.table.value itemType name = .error error) →
        (phase.text expression).Fails

/-- The phase of a table that knows nothing, and fails at one name. -/
def failingAt (itemType : Option Text) (name : Text) : MetadataPhase where
  table :=
    { value := fun wantedType wantedName =>
        if wantedType = itemType ∧ wantedName = name then .error default else .ok []
      itemType := none }
  options := .metadata
  context := .onEmptyMachine

theorem contains_failingAt
    (itemType : Option Text)
    (name : Text) :
    (failingAt itemType name).options.contains .metadata = true := by
  change ExpandOptions.metadata.contains .metadata = true
  decide

theorem looksUp_of_mem
    {expression : Text}
    {reference : MetadataReference}
    (isMember : reference ∈ (ItemVector.cutAround expression).values) :
    LooksUp expression reference.itemType reference.name := by
  rintro phase expands ⟨error, missing⟩
  rw [text_eq]
  refine Expansion.Fails.replaceWith isMember ?_
  rw [replace, if_pos (contains_gateOf expands _), missing]
  exact (Expansion.Fails.ofExcept _).bind _

/-- Away from its name the table that fails there gives nothing, and the phase goes on. -/
theorem replace_failingAt
    {itemType : Option Text}
    {name : Text}
    {reference : MetadataReference}
    (other : ¬ (reference.itemType = itemType ∧ reference.name = name)) :
    (failingAt itemType name).replace reference = pure [] := by
  have expands : (failingAt itemType name).options.contains (gateOf reference.name) = true :=
    contains_gateOf (contains_failingAt itemType name) _
  have value :
      (failingAt itemType name).table.value reference.itemType reference.name = .ok [] :=
    if_neg other
  have whole : (failingAt itemType name).options.contains .truncate = false := by
    change ExpandOptions.metadata.contains .truncate = false
    decide
  rw [replace, if_pos expands, value, whole]
  rfl

/-- What is looked up is replaced. -/
theorem exists_of_looksUp
    {expression name : Text}
    {itemType : Option Text}
    (looksUp : LooksUp expression itemType name) :
    ∃ reference ∈ (ItemVector.cutAround expression).values,
      reference.itemType = itemType ∧ reference.name = name := by
  refine Decidable.byContradiction fun nowhere => ?_
  have others :
      ∀ reference ∈ (ItemVector.cutAround expression).values,
        (failingAt itemType name).replace reference = pure [] := fun reference isMember =>
    replace_failingAt fun here => nowhere ⟨reference, isMember, here⟩
  have fails : (failingAt itemType name |>.text expression).Fails :=
    looksUp _ (contains_failingAt itemType name) ⟨default, if_pos ⟨rfl, rfl⟩⟩
  rw [text_eq, Cut.replaceWith_congr others] at fails
  obtain ⟨failure, result⟩ := fails {}
  simp [Cut.replaceWith] at result

/-- Batching sees every metadata dependency of the expression. -/
structure SeesDependencies (expression : Text) : Prop where
  reported_looked_up :
    ∀ reference ∈ ReferencedNames.reported expression,
      ∃ itemType name, LooksUp expression itemType name ∧ reference.Names itemType name
  looked_up_reported :
    ∀ itemType name,
      LooksUp expression itemType name →
        ∃ reference ∈ ReferencedNames.reported expression, reference.Names itemType name
  /-- Tables that agree on what is reported give the same expansion. -/
  agree :
    ∀ left right : MetadataPhase,
      left.options = right.options →
        left.context = right.context →
          (∀ reference ∈ ReferencedNames.reported expression,
            ∀ itemType name,
              reference.Names itemType name →
                left.table.value itemType name = right.table.value itemType name) →
            ∀ before,
              ((left.text expression).runFrom before).1 =
                ((right.text expression).runFrom before).1
  outside :
    ReferencedNames.metadataOutsideTransforms expression = false →
      ∀ itemType name, ¬ LooksUp expression itemType name

/-- With tables that agree on a name the phase replaces a reference to it with the same text. -/
theorem agree_replace
    {left right : MetadataPhase}
    (sameOptions : left.options = right.options)
    (sameContext : left.context = right.context)
    {reference : MetadataReference}
    (sameValue :
      left.table.value reference.itemType reference.name =
        right.table.value reference.itemType reference.name) :
    Expansion.Agree (fun _ _ => True) (left.replace reference) (right.replace reference) := by
  have noted :
      ∀ (phase : MetadataPhase) (before : Trace),
        ((phase.noteSelfReference reference).runFrom before).1 = .ok () := by
    intro phase before
    unfold noteSelfReference
    split
    · split <;> simp
    · simp
  rw [replace, replace, sameOptions, sameContext, sameValue]
  split
  · refine (Expansion.Agree.ofExcept rfl).bind fun value => ?_
    have noting :
        Expansion.Agree (fun _ _ => True) (left.noteSelfReference reference)
          (right.noteSelfReference reference) :=
      fun before before' _ => ⟨by rw [noted, noted], trivial⟩
    exact noting.bind fun _ => .pure _
  · exact .pure _

/--
Batching sees every dependency exactly if each reference within a vector that
stands in a separator is reported for another reason.
-/
theorem seesDependencies_iff
    (expression : Text) :
    SeesDependencies expression ↔
      ∀ nested ∈ MetadataReference.nestedInSeparators expression,
        ∃ reference ∈ ReferencedNames.reported expression,
          reference.Names nested.itemType nested.name := by
  constructor
  · intro sees nested isNested
    have isReplaced : nested ∈ (ItemVector.cutAround expression).values :=
      MetadataReference.mem_values_cutAround_iff.mpr (.inr isNested)
    exact sees.looked_up_reported _ _ (looksUp_of_mem isReplaced)
  · intro nestedReported
    have replacedReported :
        ∀ replaced ∈ (ItemVector.cutAround expression).values,
          ∃ reference ∈ ReferencedNames.reported expression,
            reference.Names replaced.itemType replaced.name := by
      intro replaced isReplaced
      rcases MetadataReference.mem_values_cutAround_iff.mp isReplaced with isMentioned | isNested
      · exact ReferencedNames.exists_reported_of_mem_mentioned isMentioned
      · exact nestedReported replaced isNested
    have lookedUpReported :
        ∀ itemType name,
          LooksUp expression itemType name →
            ∃ reference ∈ ReferencedNames.reported expression, reference.Names itemType name := by
      intro itemType name looksUp
      obtain ⟨replaced, isReplaced, rfl, rfl⟩ := exists_of_looksUp looksUp
      exact replacedReported replaced isReplaced
    refine ⟨fun reference isReported => ?_, lookedUpReported, ?_, ?_⟩
    · have isMentioned := ReferencedNames.mentioned_of_mem_reported isReported
      exact
        ⟨_, _,
          looksUp_of_mem (MetadataReference.mem_values_cutAround_iff.mpr (.inl isMentioned)),
          reference.names_self⟩
    · intro left right sameOptions sameContext sameValues before
      have agree :
          Expansion.Agree (fun _ _ => True) (left.text expression) (right.text expression) := by
        refine ItemVector.replaceAround_agree fun replaced isReplaced => ?_
        obtain ⟨reference, isReported, names⟩ := replacedReported replaced isReplaced
        exact agree_replace sameOptions sameContext (sameValues reference isReported _ _ names)
      exact (agree before before trivial).1
    · intro nothing itemType name looksUp
      obtain ⟨reference, isReported, -⟩ := lookedUpReported itemType name looksUp
      simp only [ReferencedNames.metadataOutsideTransforms, Bool.not_eq_false',
        List.isEmpty_iff] at nothing
      rw [ReferencedNames.reported, nothing] at isReported
      cases isReported

/-- A function's argument in a separator's vector is looked up behind the back of batching. -/
theorem not_every_dependency_seen :
    ¬ ∀ expression, SeesDependencies expression := by
  intro always
  have lookedUp :
      { written := "%(X)", itemType := none, name := "X" } ∈
        (ItemVector.cutAround "@(A, '@(B->F(%(X)))')").values := by
    decide +kernel
  have nothingReported : ReferencedNames.reported "@(A, '@(B->F(%(X)))')" = [] := by
    decide +kernel
  obtain ⟨reference, isReported, -⟩ :=
    (always "@(A, '@(B->F(%(X)))')").looked_up_reported _ _ (looksUp_of_mem lookedUp)
  rw [nothingReported] at isReported
  cases isReported

end MetadataPhase

end RefExpand
