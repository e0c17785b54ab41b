import RefExpand.Project.Path
import RefExpand.Proofs.Text.Pieces

namespace RefExpand

/-!
# Segments of paths

What is left of a path when its dots are evaluated are segments: texts without
separators that are not empty and not a dot, nor two dots if the path has a root.
They are read back from the normal form, which has no two separators in a row. The
root of a normal form is a slash, or has a colon that the first segment may stand
directly behind.
-/

namespace Path

/-- A text that stands between separators. -/
structure IsSegment (segment : Text) : Prop where
  nonempty : segment ≠ []
  free : ∀ c ∈ segment, isSeparator c = false

/-- A segment that is left when the dots of a path are evaluated. -/
structure IsWalked (rooted : Bool) (segment : Text) : Prop extends IsSegment segment where
  notDot : segment ≠ ['.']
  notUp : rooted = true → segment ≠ ['.', '.']

/-- One step keeps to such segments. -/
theorem isWalked_walk
    {rooted : Bool}
    {stack : List Text}
    (walked : ∀ segment ∈ stack, IsWalked rooted segment)
    {piece : Text}
    (free : ∀ c ∈ piece, isSeparator c = false) :
    ∀ segment ∈ walk rooted stack piece, IsWalked rooted segment := by
  unfold walk
  split
  · exact walked
  · rename_i shown
    rw [Bool.or_eq_true, List.isEmpty_iff, beq_iff_eq, not_or] at shown
    have isSegment : IsSegment piece := ⟨shown.1, free⟩
    split
    · rename_i isUp
      rw [beq_iff_eq] at isUp
      cases stack with
      | nil =>
          cases rooted with
          | true =>
              exact fun segment isMember => absurd isMember List.not_mem_nil
          | false =>
              simpa using { isSegment with notDot := shown.2, notUp := nofun }
      | cons top below =>
          rw [List.forall_mem_cons] at walked
          dsimp only
          split
          · rename_i topUp
            rw [beq_iff_eq] at topUp
            have notUp : rooted = true → piece ≠ ['.', '.'] :=
              fun hasRoot => absurd topUp (walked.1.notUp hasRoot)
            rw [List.forall_mem_cons, List.forall_mem_cons]
            exact ⟨{ isSegment with notDot := shown.2, notUp }, walked⟩
          · exact walked.2
    · rename_i notUp
      rw [beq_iff_eq] at notUp
      rw [List.forall_mem_cons]
      exact ⟨{ isSegment with notDot := shown.2, notUp := fun _ => notUp }, walked⟩

/-- So does a walk over all pieces of a path. -/
theorem isWalked_of_mem_walkedSegments
    {path segment : Text}
    (isMember : segment ∈ walkedSegments path) :
    IsWalked (isRooted path) segment := by
  rw [walkedSegments, List.mem_reverse] at isMember
  refine
    List.foldlRecOn (motive := fun stack => ∀ segment ∈ stack, IsWalked (isRooted path) segment)
      _ _ (List.forall_mem_nil _) ?_ segment isMember
  exact fun stack walked piece isPiece =>
    isWalked_walk walked (Text.free_of_mem_splitAtChars isPiece)

theorem segments_nil :
    segments [] = [] := by
  rfl

theorem segments_of_isSegment
    {segment : Text}
    (isSegment : IsSegment segment) :
    segments segment = [segment] := by
  rw [segments, Text.splitAtChars_of_free isSegment.free]
  simp [isSegment.nonempty]

/-- A slash divides the segments. -/
theorem segments_append_slash
    (front back : Text) :
    segments (front ++ '/' :: back) = segments front ++ segments back := by
  rw [segments, Text.splitAtChars_append_cut rfl, List.filter_append]
  rfl

theorem join_segments_ne_nil
    {steps : List Text}
    (areSegments : ∀ step ∈ steps, IsSegment step)
    (written : steps ≠ []) :
    Text.join ['/'] steps ≠ [] := by
  obtain ⟨first, rest, rfl⟩ := List.exists_cons_of_ne_nil written
  exact Text.join_ne_nil ['/'] List.mem_cons_self (areSegments first List.mem_cons_self).nonempty

/-- Segments that are joined are read back, with or without a slash at the end. -/
theorem segments_join
    {steps : List Text}
    (areSegments : ∀ step ∈ steps, IsSegment step) :
    segments (Text.join ['/'] steps) = steps := by
  induction steps with
  | nil =>
      exact segments_nil
  | cons first rest inductionHypothesis =>
      rw [List.forall_mem_cons] at areSegments
      cases rest with
      | nil =>
          simpa [Text.join] using segments_of_isSegment areSegments.1
      | cons second rest =>
          rw [Text.join_cons_cons, List.append_assoc, List.singleton_append,
            segments_append_slash, segments_of_isSegment areSegments.1,
            inductionHypothesis areSegments.2]
          rfl

/-- What ends the normal form of a path: a slash, if the path has segments and ends so. -/
def closing (path : Text) : Text :=
  if !(walkedSegments path).isEmpty && endsWithSeparator path then ['/'] else []

theorem closing_eq
    (path : Text) :
    closing path =
      if walkedSegments path ≠ [] ∧ endsWithSeparator path = true then ['/'] else [] := by
  refine if_congr ?_ rfl rfl
  rw [Bool.and_eq_true, Bool.not_eq_true', List.isEmpty_eq_false_iff]

theorem normalize_eq
    (path : Text) :
    normalize path = root path ++ Text.join ['/'] (walkedSegments path) ++ closing path := by
  rfl

theorem segments_append_closing
    (front path : Text) :
    segments (front ++ closing path) = segments front := by
  unfold closing
  split
  · rw [segments_append_slash, segments_nil, List.append_nil]
  · rw [List.append_nil]

/-- The roots of normal forms. -/
inductive IsNormalRoot : Text → Prop where
  | absent : IsNormalRoot []
  | slash : IsNormalRoot ['/']
  | colon (c : Char) : IsNormalRoot [c, ':']
  | slashed (c : Char) : IsNormalRoot [c, ':', '/']

theorem isNormalRoot_root
    (path : Text) :
    IsNormalRoot (root path) := by
  unfold root
  split <;> constructor

/-- A colon that is the second character stays in the first segment. -/
theorem colon_mem_of_mem_segments
    (c : Char)
    {rest segment : Text}
    (free : ∀ d ∈ rest, isSeparator d = false)
    (isMember : segment ∈ segments (c :: ':' :: rest)) :
    ':' ∈ segment := by
  have behind : IsSegment (':' :: rest) :=
    { nonempty := List.cons_ne_nil _ _
      free := List.forall_mem_cons.mpr ⟨rfl, free⟩ }
  cases isCut : isSeparator c with
  | true =>
      have divided : segments (c :: ':' :: rest) = segments (':' :: rest) := by
        rw [segments, ← List.nil_append (c :: _), Text.splitAtChars_append_cut isCut]
        rfl
      rw [divided, segments_of_isSegment behind, List.mem_singleton] at isMember
      rw [isMember]
      exact List.mem_cons_self
  | false =>
      have whole : IsSegment (c :: ':' :: rest) :=
        { nonempty := List.cons_ne_nil _ _
          free := List.forall_mem_cons.mpr ⟨isCut, behind.free⟩ }
      rw [segments_of_isSegment whole, List.mem_singleton] at isMember
      rw [isMember]
      exact List.mem_cons_of_mem _ List.mem_cons_self

/-- Segments behind a root are read back, but for one with the colon of the root. -/
theorem mem_segments_behind
    {start : Text}
    (isRoot : IsNormalRoot start)
    {steps : List Text}
    (areSegments : ∀ step ∈ steps, IsSegment step)
    {segment : Text}
    (isMember : segment ∈ segments (start ++ Text.join ['/'] steps)) :
    ':' ∈ segment ∨ segment ∈ steps := by
  have blank : ∀ c ∈ ([] : Text), isSeparator c = false :=
    fun c isMember => absurd isMember List.not_mem_nil
  cases isRoot with
  | absent =>
      rw [List.nil_append, segments_join areSegments] at isMember
      exact .inr isMember
  | slash =>
      change segment ∈ segments ([] ++ '/' :: Text.join ['/'] steps) at isMember
      rw [segments_append_slash, segments_nil, List.nil_append, segments_join areSegments]
        at isMember
      exact .inr isMember
  | slashed c =>
      change segment ∈ segments ([c, ':'] ++ '/' :: Text.join ['/'] steps) at isMember
      rw [segments_append_slash, segments_join areSegments, List.mem_append] at isMember
      exact isMember.imp_left (colon_mem_of_mem_segments c blank)
  | colon c =>
      cases steps with
      | nil =>
          exact .inl (colon_mem_of_mem_segments c blank isMember)
      | cons first rest =>
          rw [List.forall_mem_cons] at areSegments
          cases rest with
          | nil =>
              rw [Text.join, List.intercalate_singleton] at isMember
              exact .inl (colon_mem_of_mem_segments c areSegments.1.free isMember)
          | cons second rest =>
              rw [Text.join_cons_cons, List.append_assoc, List.singleton_append,
                ← List.append_assoc, segments_append_slash, segments_join areSegments.2,
                List.mem_append] at isMember
              rcases isMember with inFirst | inRest
              · exact .inl (colon_mem_of_mem_segments c areSegments.1.free inFirst)
              · exact .inr (List.mem_cons_of_mem _ inRest)

theorem mem_segments_normalize
    {path segment : Text}
    (isMember : segment ∈ segments (normalize path)) :
    ':' ∈ segment ∨ segment ∈ walkedSegments path := by
  rw [normalize_eq, segments_append_closing] at isMember
  exact mem_segments_behind (isNormalRoot_root path)
    (fun step isStep => (isWalked_of_mem_walkedSegments isStep).toIsSegment) isMember

/-- No segment of the normal form of a path with a root is a dot or two. -/
theorem ne_dots_of_mem_segments
    {path segment : Text}
    (rooted : isRooted path = true)
    (isMember : segment ∈ segments (normalize path)) :
    segment ≠ ['.'] ∧ segment ≠ ['.', '.'] := by
  rcases mem_segments_normalize isMember with withColon | isWalked
  · constructor <;> rintro rfl <;> simp at withColon
  · have walked := isWalked_of_mem_walkedSegments isWalked
    exact ⟨walked.notDot, walked.notUp rooted⟩

theorem isSegment_of_mem_segments
    {path segment : Text}
    (isMember : segment ∈ segments path) :
    IsSegment segment := by
  rw [segments, List.mem_filter] at isMember
  exact
    { nonempty := by simpa using isMember.2
      free := Text.free_of_mem_splitAtChars isMember.1 }

end Path

end RefExpand
