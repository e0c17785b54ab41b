import RefExpand.Proofs.Scan.MetadataCuts
import RefExpand.Scan.ReferencedNames

namespace RefExpand

/-!
# What a collection mentions

Collecting walks over the text once, but what it mentions is what the cut at the
item vectors gives: the references of each gap, and for each vector what its
parts mention.
-/

namespace Mentions

/-- What a stretch between vectors mentions. -/
def outside (selection : NameSelection) (gap : Text) : List Mention :=
  if selection.metadata then (MetadataReference.allIn gap).map .metadata else []

/-- What a vector mentions. -/
def inside (selection : NameSelection) (vector : ItemVector) : List Mention :=
  let inTransforms :=
    if selection.inTransforms then
      vector.transforms.flatMap fun transform => mentions .metadataOnly transform.inner
    else
      []
  let inSeparator :=
    match vector.separator with
    | some separator =>
        if selection.metadata then mentions .metadataOnly separator.text else []
    | none => []
  let own := if selection.itemTypes then [.itemType vector.itemType] else []
  inTransforms ++ inSeparator ++ own

variable {selection : NameSelection}

@[simp] theorem outside_nil :
    outside selection [] = [] := by
  simp [outside, MetadataReference.allIn, MetadataReference.cut, Cut.values]

/-- In front of any text a reference is mentioned first. -/
theorem outside_reference
    {text rest : Text}
    {reference : MetadataReference}
    (read : MetadataReference.read? text = some (reference, rest))
    (gap : Text) :
    outside selection (reference.written ++ gap) =
      (if selection.metadata then [.metadata reference] else []) ++ outside selection gap := by
  have cutWhole :
      MetadataReference.cut (reference.written ++ gap) =
        { MetadataReference.cut gap with
          found := ([], reference) :: (MetadataReference.cut gap).found } :=
    Reader.cut_of_read (MetadataReference.read?_written read gap)
  rw [outside, outside, MetadataReference.allIn, cutWhole]
  cases selection.metadata <;> rfl

/-- A character at which the text has no reference begins none in a part of the text either. -/
theorem outside_unread
    {c : Char}
    {gap : Text}
    (rest : Text)
    (unread : MetadataReference.read? ([c] ++ gap ++ rest) = none) :
    outside selection ([c] ++ gap) = [] ++ outside selection gap := by
  have unreadHere : MetadataReference.read? (c :: gap) = none := by
    rw [Option.eq_none_iff_forall_not_mem]
    rintro ⟨reference, behind⟩ read
    have shape : c :: gap = reference.written ++ behind := MetadataReference.reader_takes read
    have readWhole := MetadataReference.read?_written read (behind ++ rest)
    rw [← List.append_assoc, ← shape] at readWhole
    rw [List.singleton_append, readWhole] at unread
    cases unread
  have cutWhole :
      MetadataReference.cut (c :: gap) = (MetadataReference.cut gap).prepend [c] := by
    rw [Cut.prepend_cons, Cut.prepend_nil]
    exact Reader.cut_of_unread unreadHere
  have values : MetadataReference.allIn (c :: gap) = MetadataReference.allIn gap := by
    rw [MetadataReference.allIn, cutWhole, Cut.values_prepend]
    rfl
  rw [outside, outside, List.singleton_append, values, List.nil_append]

theorem of_vector
    {text rest : Text}
    {vector : ItemVector}
    (read : ItemVector.read? text = some (vector, rest)) :
    mentions selection text = inside selection vector ++ mentions selection rest := by
  cases text with
  | nil =>
      cases read
  | cons c tail =>
      rw [mentions]
      split
      · rename_i found after found_eq
        rw [read, Option.some.injEq, Prod.mk.injEq] at found_eq
        obtain ⟨rfl, rfl⟩ := found_eq
        -- The recursion carries along that each transform belongs to the vector.
        have unattached :
            ∀ each : Transform → List Mention,
              (vector.transforms.attach.flatMap fun member => each member.1) =
                vector.transforms.flatMap each := by
          intro each
          rw [← List.flatMap_map, List.attach_map_subtype_val]
        simp only [inside, unattached fun transform => mentions .metadataOnly transform.inner]
        rcases vector with ⟨written, itemType, transforms, separator⟩
        cases separator <;> rfl
      · rename_i unread
        rw [read] at unread
        cases unread

theorem of_reference
    {text rest : Text}
    {reference : MetadataReference}
    (noVector : ItemVector.read? text = none)
    (read : MetadataReference.read? text = some (reference, rest)) :
    mentions selection text =
      (if selection.metadata then [.metadata reference] else []) ++ mentions selection rest := by
  cases text with
  | nil =>
      cases read
  | cons c tail =>
      rw [mentions]
      split
      · rename_i isVector
        rw [noVector] at isVector
        cases isVector
      · split
        · rename_i found after found_eq
          rw [read, Option.some.injEq, Prod.mk.injEq] at found_eq
          obtain ⟨rfl, rfl⟩ := found_eq
          rfl
        · rename_i unread
          rw [read] at unread
          cases unread

theorem of_unread
    {c : Char}
    {tail : Text}
    (noVector : ItemVector.read? (c :: tail) = none)
    (noReference : MetadataReference.read? (c :: tail) = none) :
    mentions selection (c :: tail) = mentions selection tail := by
  rw [mentions]
  split
  · rename_i isVector
    rw [noVector] at isVector
    cases isVector
  · split
    · rename_i isReference
      rw [noReference] at isReference
      cases isReference
    · rfl

/-- What a text mentions, gap by gap and vector by vector. -/
theorem eq_gather
    (text : Text) :
    mentions selection text =
      (ItemVector.cut text).gather (outside selection) (inside selection) := by
  induction length : text.length using Nat.strongRecOn generalizing text with
  | ind size inductionHypothesis =>
      subst length
      have later :
          ∀ rest : Text, rest.length < text.length →
            mentions selection rest =
              (ItemVector.cut rest).gather (outside selection) (inside selection) :=
        fun rest shorter => inductionHypothesis rest.length shorter rest rfl
      cases text with
      | nil =>
          rw [mentions, ItemVector.cut, Reader.cut_nil, Cut.gather, outside_nil]
          rfl
      | cons c tail =>
          cases vectorRead : ItemVector.read? (c :: tail) with
          | some found =>
              obtain ⟨vector, rest⟩ := found
              have cutWhole :
                  ItemVector.cut (c :: tail) =
                    { ItemVector.cut rest with
                      found := ([], vector) :: (ItemVector.cut rest).found } :=
                Reader.cut_of_read vectorRead
              rw [of_vector vectorRead, later rest (ItemVector.read?_lengths vectorRead).1,
                cutWhole, Cut.gather_cons, outside_nil, List.nil_append]
          | none =>
              cases referenceRead : MetadataReference.read? (c :: tail) with
              | some found =>
                  obtain ⟨reference, rest⟩ := found
                  have whole : c :: tail = reference.written ++ rest :=
                    MetadataReference.reader_takes referenceRead
                  have cutWhole :
                      ItemVector.cut (reference.written ++ rest) =
                        (ItemVector.cut rest).prepend reference.written := by
                    refine Reader.cut_append (fun d isMember other => ?_) rest
                    refine ItemVector.read?_eq_none ?_ other
                    rintro rfl
                    exact MetadataReference.sign_not_mem_written referenceRead isMember
                  rw [of_reference vectorRead referenceRead,
                    later rest (MetadataReference.read?_length referenceRead), whole, cutWhole,
                    Cut.gather_prepend (outside_reference referenceRead _)]
              | none =>
                  have cutWhole :
                      ItemVector.cut (c :: tail) = (ItemVector.cut tail).prepend [c] := by
                    rw [Cut.prepend_cons, Cut.prepend_nil]
                    exact Reader.cut_of_unread vectorRead
                  -- A reference in the gap would be one in the text as well.
                  have adds :
                      outside selection ([c] ++ (ItemVector.cut tail).front) =
                        [] ++ outside selection (ItemVector.cut tail).front := by
                    obtain ⟨behind, whole⟩ :=
                      Reader.front_cut ItemVector.reader_takes tail
                    refine outside_unread behind ?_
                    rw [List.append_assoc]
                    exact whole.symm ▸ referenceRead
                  rw [of_unread vectorRead referenceRead, later tail (by simp), cutWhole,
                    Cut.gather_prepend adds, List.nil_append]

end Mentions

end RefExpand
