import Mathlib.Data.List.Chain
import RefExpand.Proofs.Project.Roots
import RefExpand.Proofs.Project.Segments

namespace RefExpand

/-!
# Directories above a path

The directory of a path is what stands before its last separator, or its root. In a
path without two separators in a row, and normal forms are such, the directories
above it are its root and what stands before any separator behind the root. A path
with a root leads up to a directory that is nothing but a root.
-/

namespace Path

/-- No two separators stand in a row. -/
def IsSingle (path : Text) : Prop :=
  path.IsChain fun c d => ¬ (isSeparator c = true ∧ isSeparator d = true)

/-- A directory above a path, in slashes: its root, or what stands before a separator behind it. -/
inductive IsAbove (path : Text) : (directory : Text) → Prop where
  | root
      (hasRoot : writtenRoot path ≠ []) (behind : afterRoot path ≠ []) :
      IsAbove path (fixSeparators (writtenRoot path))
  | before
      {front back : Text} {stop : Char}
      (cut : afterRoot path = front ++ stop :: back) (stops : isSeparator stop = true) :
      IsAbove path (fixSeparators (writtenRoot path ++ front))

section Single

theorem isSingle_of_free
    {text : Text}
    (free : ∀ c ∈ text, isSeparator c = false) :
    IsSingle text := by
  refine (List.pairwise_of_forall_mem_list fun c inText d _ both => ?_).isChain
  rw [free c inText] at both
  cases both.1

/-- Two texts may stand in a row unless they meet in separators. -/
theorem IsSingle.append
    {front back : Text}
    (ofFront : IsSingle front)
    (ofBack : IsSingle back)
    (apart :
      (∀ c ∈ front.getLast?, isSeparator c = false) ∨ ∀ c ∈ back.head?, isSeparator c = false) :
    IsSingle (front ++ back) := by
  refine List.isChain_append.mpr ⟨ofFront, ofBack, fun c isLast d isHead both => ?_⟩
  rcases apart with kept | kept
  · rw [kept c isLast] at both
    cases both.1
  · rw [kept d isHead] at both
    cases both.2

theorem IsSegment.head_kept
    {segment : Text}
    (isSegment : IsSegment segment)
    (behind : Text) :
    ∀ c ∈ (segment ++ behind).head?, isSeparator c = false := by
  obtain ⟨c, rest, rfl⟩ := List.exists_cons_of_ne_nil isSegment.nonempty
  intro d isHead
  cases isHead
  exact isSegment.free _ List.mem_cons_self

theorem IsSegment.last_kept
    {segment : Text}
    (isSegment : IsSegment segment) :
    ∀ c ∈ segment.getLast?, isSeparator c = false :=
  fun _ isLast => isSegment.free _ (List.mem_of_getLast? isLast)

theorem join_head_kept
    {steps : List Text}
    (areSegments : ∀ step ∈ steps, IsSegment step) :
    ∀ c ∈ (Text.join ['/'] steps).head?, isSeparator c = false := by
  cases steps with
  | nil =>
      exact fun c isHead => by cases isHead
  | cons first rest =>
      have isSegment := areSegments first List.mem_cons_self
      cases rest with
      | nil =>
          simpa [Text.join] using isSegment.head_kept []
      | cons second rest =>
          rw [Text.join_cons_cons, List.append_assoc]
          exact isSegment.head_kept _

/-- Joined segments neither begin nor end with a separator, and have none in a row. -/
theorem isSingle_join
    {steps : List Text}
    (areSegments : ∀ step ∈ steps, IsSegment step) :
    IsSingle (Text.join ['/'] steps) ∧
      ∀ c ∈ (Text.join ['/'] steps).getLast?, isSeparator c = false := by
  induction steps with
  | nil =>
      exact ⟨List.isChain_nil, fun c isLast => by cases isLast⟩
  | cons first rest inductionHypothesis =>
      rw [List.forall_mem_cons] at areSegments
      obtain ⟨isSegment, restSegments⟩ := areSegments
      obtain ⟨restSingle, restLast⟩ := inductionHypothesis restSegments
      cases rest with
      | nil =>
          simpa [Text.join] using ⟨isSingle_of_free isSegment.free, isSegment.last_kept⟩
      | cons second rest =>
          have slash : IsSingle ['/'] := List.isChain_singleton _
          have restHead := join_head_kept restSegments
          have written : Text.join ['/'] (second :: rest) ≠ [] :=
            join_segments_ne_nil restSegments (List.cons_ne_nil second rest)
          rw [Text.join_cons_cons, List.append_assoc]
          constructor
          · exact
              (isSingle_of_free isSegment.free).append (slash.append restSingle (.inr restHead))
                (.inl isSegment.last_kept)
          · intro c isLast
            rw [List.getLast?_append_of_ne_nil _ (by simp),
              List.getLast?_append_of_ne_nil _ written] at isLast
            exact restLast c isLast

theorem IsNormalRoot.isSingle
    {start : Text}
    (isRoot : IsNormalRoot start) :
    IsSingle start := by
  have colon : ∀ c, ¬ (isSeparator c = true ∧ isSeparator ':' = true) :=
    fun c both => by cases both.2
  cases isRoot with
  | absent =>
      exact List.isChain_nil
  | slash =>
      exact List.isChain_singleton _
  | colon c =>
      exact List.isChain_cons_cons.mpr ⟨colon c, List.isChain_singleton _⟩
  | slashed c =>
      refine List.isChain_cons_cons.mpr ⟨colon c, List.isChain_cons_cons.mpr ⟨?_, ?_⟩⟩
      · exact fun both => by cases both.1
      · exact List.isChain_singleton _

/-- Normal forms have no two separators in a row. -/
theorem isSingle_normalize
    (path : Text) :
    IsSingle (normalize path) := by
  have areSegments : ∀ step ∈ walkedSegments path, IsSegment step :=
    fun step isStep => (isWalked_of_mem_walkedSegments isStep).toIsSegment
  obtain ⟨single, last⟩ := isSingle_join areSegments
  have unclosed : IsSingle (root path ++ Text.join ['/'] (walkedSegments path)) :=
    (isNormalRoot_root path).isSingle.append single (.inr (join_head_kept areSegments))
  rw [normalize_eq, closing_eq]
  split
  · rename_i closes
    have written : Text.join ['/'] (walkedSegments path) ≠ [] :=
      join_segments_ne_nil areSegments closes.1
    refine unclosed.append (List.isChain_singleton _) (.inl fun c isLast => ?_)
    rw [List.getLast?_append_of_ne_nil _ written] at isLast
    exact last c isLast
  · rwa [List.append_nil]

theorem IsSingle.of_isInfix
    {part path : Text}
    (single : IsSingle path)
    (isInfix : part <:+: path) :
    IsSingle part :=
  List.IsChain.infix single isInfix

theorem IsSingle.fixed
    {path : Text}
    (single : IsSingle path) :
    IsSingle (fixSeparators path) := by
  rw [IsSingle, fixSeparators_eq_map, List.isChain_map]
  simp only [isSeparator_fixChar]
  exact single

/-- Behind the root of a path without separators in a row no separator comes first. -/
theorem RootSplit.behind_kept
    {path start rest : Text}
    (split : RootSplit path start rest)
    (single : IsSingle path) :
    ∀ c ∈ rest.head?, isSeparator c = false := by
  cases split with
  | slashed isLetter cuts =>
      intro c isHead
      have behindColon := single.tail.tail
      by_contra isCut
      exact (List.isChain_cons.mp behindColon).1 c isHead ⟨cuts, by simpa using isCut⟩
  | drive isLetter behind =>
      exact behind
  | separators cut behind =>
      exact behind

end Single

section Parent

variable {path start : Text}

/-- The directory of a path that is nothing but a root is none. -/
theorem directoryName?_of_root
    (split : RootSplit path start []) :
    directoryName? path = if start.isEmpty then some [] else none := by
  rw [directoryName?, split.splitRoot_eq]
  rfl

/-- Of what stands behind the root without a separator the directory is the root. -/
theorem directoryName?_of_free
    {rest : Text}
    (split : RootSplit path start rest)
    (behind : rest ≠ [])
    (free : ∀ c ∈ rest, isSeparator c = false) :
    directoryName? path = some (fixSeparators start) := by
  rw [directoryName?, split.splitRoot_eq]
  dsimp only
  rw [List.isEmpty_eq_false_iff.mpr behind, if_neg (by decide), Text.breakAtLast?_of_free free]

/-- Else it is what stands before the last separator, if no other stands before that. -/
theorem directoryName?_of_cut
    {front back : Text}
    {stop : Char}
    (split : RootSplit path start (front ++ stop :: back))
    (stops : isSeparator stop = true)
    (free : ∀ c ∈ back, isSeparator c = false)
    (lastKept : ∀ c ∈ front.getLast?, isSeparator c = false) :
    directoryName? path = some (fixSeparators (start ++ front)) := by
  have untrimmed : front.trimEndBy isSeparator = front :=
    Text.trimEndBy_eq_self_iff.mpr lastKept
  rw [directoryName?, split.splitRoot_eq]
  dsimp only
  rw [List.isEmpty_eq_false_iff.mpr (by simp), if_neg (by decide),
    Text.breakAtLast?_append_cons stops front free]
  dsimp only
  rw [untrimmed]

end Parent

section Above

variable {path start rest directory : Text}

theorem isAbove_iff
    (split : RootSplit path start rest) :
    IsAbove path directory ↔
      start ≠ [] ∧ rest ≠ [] ∧ directory = fixSeparators start ∨
        ∃ front stop back,
          rest = front ++ stop :: back ∧ isSeparator stop = true ∧
            directory = fixSeparators (start ++ front) := by
  have isStart := split.writtenRoot_eq
  have isRest := split.afterRoot_eq
  constructor
  · intro above
    cases above with
    | root hasRoot behind =>
        rw [isStart, isRest] at *
        exact .inl ⟨hasRoot, behind, rfl⟩
    | before cut stops =>
        rw [isStart]
        exact .inr ⟨_, _, _, isRest.symm.trans cut, stops, rfl⟩
  · rintro (⟨hasRoot, behind, rfl⟩ | ⟨front, stop, back, cut, stops, rfl⟩)
    · have above : IsAbove path (fixSeparators (writtenRoot path)) :=
        .root (isStart ▸ hasRoot) (isRest ▸ behind)
      rwa [isStart] at above
    · have above := IsAbove.before (isRest.trans cut) stops
      rwa [isStart] at above

/-- A path and the path in slashes have the same directories above. -/
theorem isAbove_fixSeparators :
    IsAbove (fixSeparators path) directory ↔ IsAbove path directory := by
  rw [isAbove_iff (rootSplit path).fixed, isAbove_iff (rootSplit path)]
  generalize writtenRoot path = start
  generalize afterRoot path = rest
  rw [fixSeparators_ne_nil_iff, fixSeparators_ne_nil_iff, fixSeparators_fixSeparators]
  refine or_congr Iff.rfl ⟨?_, ?_⟩
  · rintro ⟨front, stop, back, divided, stops, rfl⟩
    rw [fixSeparators_eq_map] at divided
    obtain ⟨front, tail, rfl, rfl, isTail⟩ := List.map_eq_append_iff.mp divided
    obtain ⟨stop, back, rfl, rfl, -⟩ := List.map_eq_cons_iff.mp isTail
    refine ⟨front, stop, back, rfl, isSeparator_fixChar stop ▸ stops, ?_⟩
    rw [← fixSeparators_eq_map, ← fixSeparators_append, fixSeparators_fixSeparators]
  · rintro ⟨front, stop, back, rfl, stops, rfl⟩
    refine
      ⟨fixSeparators front, fixChar stop, fixSeparators back, fixSeparators_append _ _,
        (isSeparator_fixChar stop).trans stops, ?_⟩
    rw [← fixSeparators_append, fixSeparators_fixSeparators]

/-- A separator of a text is its last one, or stands before that. -/
theorem cut_iff
    {front back : Text}
    {stop : Char}
    (stops : isSeparator stop = true)
    (free : ∀ c ∈ back, isSeparator c = false)
    {before : Text} :
    (∃ cut behind, front ++ stop :: back = before ++ cut :: behind ∧ isSeparator cut = true) ↔
      before = front ∨
        ∃ cut behind, front = before ++ cut :: behind ∧ isSeparator cut = true := by
  constructor
  · rintro ⟨cut, behind, same, cuts⟩
    rcases List.append_eq_append_iff.mp same with ⟨more, rfl, isBehind⟩ | ⟨more, rfl, isBehind⟩
    · cases more with
      | nil =>
          exact .inl (List.append_nil front)
      | cons c more =>
          obtain ⟨rfl, rfl⟩ := List.cons.inj isBehind
          rw [free cut (by simp)] at cuts
          cases cuts
    · cases more with
      | nil =>
          exact .inl (List.append_nil before).symm
      | cons c more =>
          obtain ⟨rfl, -⟩ := List.cons.inj isBehind
          exact .inr ⟨cut, more, rfl, cuts⟩
  · rintro (rfl | ⟨cut, behind, rfl, cuts⟩)
    · exact ⟨stop, back, rfl, stops⟩
    · exact ⟨cut, behind ++ stop :: back, by simp, cuts⟩

/-- What is above a path whose directory stands before its last separator. -/
theorem isAbove_cut_iff
    {front back : Text}
    {stop : Char}
    (split : RootSplit path start (front ++ stop :: back))
    (stops : isSeparator stop = true)
    (free : ∀ c ∈ back, isSeparator c = false)
    (written : front ≠ []) :
    IsAbove path directory ↔
      directory = fixSeparators (start ++ front) ∨
        IsAbove (fixSeparators (start ++ front)) directory := by
  rw [isAbove_fixSeparators, isAbove_iff split,
    isAbove_iff (split.cut (List.prefix_append front (stop :: back)))]
  have behind : front ++ stop :: back ≠ [] := by
    simp
  constructor
  · rintro (⟨hasRoot, -, isRoot⟩ | ⟨before, cut, tail, divided, cuts, rfl⟩)
    · exact .inr (.inl ⟨hasRoot, written, isRoot⟩)
    · rcases (cut_iff stops free).mp ⟨cut, tail, divided, cuts⟩ with rfl | ⟨cut, tail, rfl, cuts⟩
      · exact .inl rfl
      · exact .inr (.inr ⟨before, cut, tail, rfl, cuts, rfl⟩)
  · rintro (rfl | ⟨hasRoot, -, isRoot⟩ | ⟨before, cut, tail, rfl, cuts, rfl⟩)
    · exact .inr ⟨front, stop, back, rfl, stops, rfl⟩
    · exact .inl ⟨hasRoot, behind, isRoot⟩
    · obtain ⟨cut, tail, divided, cuts⟩ := (cut_iff stops free).mpr (.inr ⟨cut, tail, rfl, cuts⟩)
      exact .inr ⟨before, cut, tail, divided, cuts, rfl⟩

/-- One step up from a path: nothing is above it, or its parent is, and what is above that. -/
inductive StepUp (path : Text) : Prop where
  | top
      (nothing : directoryName? path = none ∨ directoryName? path = some [])
      (noneAbove : ∀ directory, ¬ IsAbove path directory) :
      StepUp path
  | parent
      (parent : Text) (written : parent ≠ []) (found : directoryName? path = some parent)
      (parentSingle : IsSingle parent)
      (above :
        ∀ directory, IsAbove path directory ↔ directory = parent ∨ IsAbove parent directory) :
      StepUp path

/-- Above a path without separators behind its root there is at most the root. -/
theorem isAbove_free_iff
    (split : RootSplit path start rest)
    (free : ∀ c ∈ rest, isSeparator c = false) :
    IsAbove path directory ↔ start ≠ [] ∧ rest ≠ [] ∧ directory = fixSeparators start := by
  rw [isAbove_iff split]
  refine or_iff_left ?_
  rintro ⟨front, stop, back, rfl, stops, -⟩
  rw [free stop (by simp)] at stops
  cases stops

/-- Nothing is above a root. -/
theorem not_isAbove_root
    (split : RootSplit path start rest) :
    ¬ IsAbove (fixSeparators start) directory := by
  have isRoot := split.cut List.nil_prefix
  rw [List.append_nil] at isRoot
  rw [isAbove_fixSeparators, isAbove_free_iff isRoot (by simp)]
  exact fun above => above.2.1 rfl

theorem stepUp_of_free
    (single : IsSingle path)
    (split : RootSplit path start rest)
    (free : ∀ c ∈ rest, isSeparator c = false) :
    StepUp path := by
  by_cases behind : rest = []
  · subst behind
    refine .top ?_ fun directory above => ((isAbove_free_iff split free).mp above).2.1 rfl
    rw [directoryName?_of_root split]
    cases start.isEmpty
    · exact .inl rfl
    · exact .inr rfl
  · have found := directoryName?_of_free split behind free
    by_cases hasRoot : start = []
    · subst hasRoot
      exact .top (.inr found) fun directory above => ((isAbove_free_iff split free).mp above).1 rfl
    · have startSingle : IsSingle start :=
        single.of_isInfix (split.path_eq ▸ (List.prefix_append start rest).isInfix)
      refine
        .parent _ (fixSeparators_ne_nil_iff.mpr hasRoot) found startSingle.fixed fun directory => ?_
      rw [isAbove_free_iff split free, or_iff_left (not_isAbove_root split)]
      exact ⟨fun above => above.2.2, fun isStart => ⟨hasRoot, behind, isStart⟩⟩

theorem stepUp_of_cut
    (single : IsSingle path)
    {front back : Text}
    {stop : Char}
    (split : RootSplit path start (front ++ stop :: back))
    (stops : isSeparator stop = true)
    (free : ∀ c ∈ back, isSeparator c = false) :
    StepUp path := by
  have behind : front ++ stop :: back <:+: path :=
    split.path_eq ▸ (List.suffix_append start _).isInfix
  have written : front ≠ [] := by
    rintro rfl
    rw [split.behind_kept single stop rfl] at stops
    cases stops
  have lastKept : ∀ c ∈ front.getLast?, isSeparator c = false := by
    intro c isLast
    by_contra isCut
    have meets := (List.isChain_append.mp (single.of_isInfix behind)).2.2
    exact meets c isLast stop rfl ⟨by simpa using isCut, stops⟩
  have parentSingle : IsSingle (start ++ front) := by
    refine single.of_isInfix ?_
    rw [split.path_eq, ← List.append_assoc]
    exact (List.prefix_append _ _).isInfix
  have parentWritten : start ++ front ≠ [] :=
    List.append_ne_nil_of_right_ne_nil start written
  exact
    .parent _ (fixSeparators_ne_nil_iff.mpr parentWritten)
      (directoryName?_of_cut split stops free lastKept) parentSingle.fixed
      fun directory => isAbove_cut_iff split stops free written

theorem stepUp
    (single : IsSingle path) :
    StepUp path := by
  have split := rootSplit path
  rcases Text.free_or_exists_last isSeparator (afterRoot path) with
    free | ⟨front, stop, back, divided, stops, free⟩
  · exact stepUp_of_free single split free
  · rw [divided] at split
    exact stepUp_of_cut single split stops free

theorem ancestors_of_none
    (nothing : directoryName? path = none ∨ directoryName? path = some []) :
    ancestors path = [] := by
  rw [ancestors]
  rcases nothing with found | found <;> rw [found]

theorem ancestors_of_parent
    {parent : Text}
    (written : parent ≠ [])
    (found : directoryName? path = some parent) :
    ancestors path = parent :: ancestors parent := by
  obtain ⟨c, rest, rfl⟩ := List.exists_cons_of_ne_nil written
  rw [ancestors, found]

/-- The ancestors of a path without separators in a row are the directories above it. -/
theorem mem_ancestors_iff
    (single : IsSingle path) :
    directory ∈ ancestors path ↔ IsAbove path directory := by
  induction length : path.length using Nat.strong_induction_on generalizing path with
  | h n inductionHypothesis =>
      cases stepUp single with
      | top nothing noneAbove =>
          rw [ancestors_of_none nothing]
          exact iff_of_false List.not_mem_nil (noneAbove directory)
      | parent parent written found parentSingle above =>
          have shorter := directoryName?_length found written
          rw [ancestors_of_parent written found, List.mem_cons, above directory,
            inductionHypothesis _ (length ▸ shorter) parentSingle rfl]

theorem ne_nil_of_mem_ancestors
    (isAncestor : directory ∈ ancestors path) :
    directory ≠ [] := by
  fun_induction ancestors path with
  | case1 path nothing =>
      cases isAncestor
  | case2 path nothing =>
      cases isAncestor
  | case3 path c rest here inductionHypothesis =>
      rcases List.mem_cons.mp isAncestor with rfl | inRest
      · exact List.cons_ne_nil c rest
      · exact inductionHypothesis inRest

/-- The parent of an ancestor is an ancestor. -/
theorem parent_mem_ancestors
    {parent : Text}
    (isAncestor : directory ∈ ancestors path)
    (found : directoryName? directory = some parent)
    (written : parent ≠ []) :
    parent ∈ ancestors path := by
  fun_induction ancestors path with
  | case1 path nothing =>
      cases isAncestor
  | case2 path nothing =>
      cases isAncestor
  | case3 path c rest here inductionHypothesis =>
      rcases List.mem_cons.mp isAncestor with rfl | inRest
      · refine List.mem_cons_of_mem _ ?_
        rw [ancestors_of_parent written found]
        exact List.mem_cons_self
      · exact List.mem_cons_of_mem _ (inductionHypothesis inRest)

end Above

/-- The way from a directory up to one that is nothing but a root. -/
structure WayUp (directory : Text) (way : List Text) : Prop where
  starts : way.head? = some directory
  climbs : way.IsChain fun below above => directoryName? below = some above
  ends : ∀ top ∈ way.getLast?, directoryName? top = none

/-- The directory of a path with a root has a root. -/
theorem isRooted_of_directoryName?
    {path directory : Text}
    (rooted : isRooted path = true)
    (found : directoryName? path = some directory) :
    isRooted directory = true := by
  have rootedBefore : ∀ front, isRooted (fixSeparators (writtenRoot path ++ front)) = true :=
    fun front => isRooted_fixSeparators (isRooted_writtenRoot_append rooted front)
  rw [directoryName?, (rootSplit path).splitRoot_eq] at found
  dsimp only at found
  split at found
  · rw [List.isEmpty_eq_false_iff.mpr (isRooted_iff.mp rooted)] at found
    cases found
  · split at found
    · cases found
      exact rootedBefore _
    · cases found
      simpa using rootedBefore []

/-- What is more than a root has a directory. -/
theorem exists_directoryName?
    {path : Text}
    (behind : afterRoot path ≠ []) :
    ∃ directory, directoryName? path = some directory := by
  rw [directoryName?, (rootSplit path).splitRoot_eq]
  dsimp only
  rw [List.isEmpty_eq_false_iff.mpr behind, if_neg (by decide)]
  split
  · exact ⟨_, rfl⟩
  · exact ⟨_, rfl⟩

/-- From a directory with a root its ancestors lead up to the root. -/
theorem wayUp_ancestors
    {directory : Text}
    (rooted : isRooted directory = true) :
    WayUp directory (directory :: ancestors directory) := by
  fun_induction ancestors directory with
  | case1 directory found =>
      refine { starts := rfl, climbs := List.isChain_singleton _, ends := fun top isLast => ?_ }
      cases isLast
      exact found
  | case2 directory found =>
      cases isRooted_of_directoryName? rooted found
  | case3 directory c rest found inductionHypothesis =>
      have later := inductionHypothesis (isRooted_of_directoryName? rooted found)
      refine
        { starts := rfl
          climbs := List.isChain_cons_cons.mpr ⟨found, later.climbs⟩
          ends := fun top isLast => later.ends top ?_ }
      rwa [List.getLast?_cons_cons] at isLast

end Path

end RefExpand
