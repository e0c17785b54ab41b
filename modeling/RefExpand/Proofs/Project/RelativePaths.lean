import RefExpand.Proofs.Project.Segments

namespace RefExpand

/-!
# Ways from one directory to another

A way is followed from a place: two dots leave the last segment, a dot stays, and
any other segment is entered. The relative path leaves what the two directories do
not share and enters what is left of the goal. No way can keep more of its start
than it shares with its goal, so none goes up less often.
-/

namespace Path

/-- Follow one segment from a place. -/
def enter (place : List Text) (segment : Text) : List Text :=
  if segment = ['.'] then place
  else if segment = ['.', '.'] then place.dropLast
  else place ++ [segment]

/-- Follow the segments of a way from a place. -/
def follow (place way : List Text) : List Text :=
  way.foldl enter place

/-- How often a way goes up. -/
def climbs (way : List Text) : Nat :=
  way.count ['.', '.']

/-- Two rows begin with the same segment. -/
def ShareFirst (left right : List Text) : Prop :=
  ∃ segment, left.head? = some segment ∧ right.head? = some segment

@[simp] theorem follow_nil
    (place : List Text) :
    follow place [] = place :=
  rfl

theorem follow_append
    (place front back : List Text) :
    follow place (front ++ back) = follow (follow place front) back :=
  List.foldl_append

theorem follow_cons
    (place : List Text)
    (segment : Text)
    (way : List Text) :
    follow place (segment :: way) = follow (enter place segment) way :=
  rfl

@[simp] theorem enter_up
    (place : List Text) :
    enter place ['.', '.'] = place.dropLast := by
  rfl

theorem enter_of_ne_dots
    {segment : Text}
    (notDots : segment ≠ ['.'] ∧ segment ≠ ['.', '.'])
    (place : List Text) :
    enter place segment = place ++ [segment] := by
  rw [enter, if_neg notDots.1, if_neg notDots.2]

/-- Going up keeps a beginning of the place. -/
theorem follow_ups
    (place : List Text)
    (count : Nat) :
    follow place (List.replicate count ['.', '.']) = place.take (place.length - count) := by
  induction count generalizing place with
  | zero =>
      simp
  | succ count inductionHypothesis =>
      rw [List.replicate_succ, follow_cons, enter_up, inductionHypothesis, List.length_dropLast,
        List.dropLast_eq_take, List.take_take]
      congr 1
      omega

/-- Segments other than dots are entered one behind the other. -/
theorem follow_downs
    {way : List Text}
    (noDots : ∀ segment ∈ way, segment ≠ ['.'] ∧ segment ≠ ['.', '.'])
    (place : List Text) :
    follow place way = place ++ way := by
  induction way generalizing place with
  | nil =>
      simp
  | cons segment rest inductionHypothesis =>
      rw [List.forall_mem_cons] at noDots
      rw [follow_cons, enter_of_ne_dots noDots.1, inductionHypothesis noDots.2,
        List.append_assoc, List.singleton_append]

theorem dropLast_isPrefix
    {front place : List Text}
    (beginning : front <+: place) :
    front.dropLast <+: place.dropLast := by
  obtain ⟨back, rfl⟩ := beginning
  cases back with
  | nil =>
      simp
  | cons segment back =>
      rw [List.dropLast_append_of_ne_nil (List.cons_ne_nil segment back)]
      exact (List.dropLast_prefix front).trans (List.prefix_append _ _)

/-- Whatever way is followed, all but as many segments stay as the way goes up. -/
theorem take_isPrefix_follow
    {start : List Text}
    {kept : Nat}
    (inside : kept ≤ start.length)
    {place : List Text}
    (stays : start.take kept <+: place)
    (way : List Text) :
    start.take (kept - climbs way) <+: follow place way := by
  induction way generalizing kept place with
  | nil =>
      exact stays
  | cons segment rest inductionHypothesis =>
      rw [follow_cons]
      by_cases isUp : segment = ['.', '.']
      · subst isUp
        have left : start.take (kept - 1) <+: place.dropLast := by
          have shorter : (start.take kept).dropLast = start.take (kept - 1) := by
            rw [List.dropLast_eq_take, List.take_take, List.length_take]
            congr 1
            omega
          rw [← shorter]
          exact dropLast_isPrefix stays
        have later := inductionHypothesis ((Nat.sub_le kept 1).trans inside) left
        rw [climbs, List.count_cons_self, Nat.add_comm, ← Nat.sub_sub]
        exact later
      · have fewer : climbs (segment :: rest) = climbs rest :=
          List.count_cons_of_ne isUp
        rw [fewer]
        refine inductionHypothesis inside ?_
        by_cases isDot : segment = ['.']
        · rw [enter, if_pos isDot]
          exact stays
        · rw [enter_of_ne_dots ⟨isDot, isUp⟩]
          exact stays.trans (List.prefix_append _ _)

theorem commonCount_le_left
    (left right : List Text) :
    commonCount left right ≤ left.length := by
  fun_induction commonCount left right with
  | case1 first lefts rights inductionHypothesis =>
      exact Nat.succ_le_succ inductionHypothesis
  | case2 =>
      exact Nat.zero_le _
  | case3 =>
      exact Nat.zero_le _

theorem take_commonCount
    (left right : List Text) :
    left.take (commonCount left right) = right.take (commonCount left right) := by
  fun_induction commonCount left right with
  | case1 first lefts rights inductionHypothesis =>
      rw [List.take_succ_cons, List.take_succ_cons, inductionHypothesis]
  | case2 =>
      rfl
  | case3 =>
      rfl

/-- What two rows begin with is no longer than what they have in common. -/
theorem length_le_commonCount
    {front left right : List Text}
    (ofLeft : front <+: left)
    (ofRight : front <+: right) :
    front.length ≤ commonCount left right := by
  obtain ⟨lefts, rfl⟩ := ofLeft
  obtain ⟨rights, rfl⟩ := ofRight
  induction front with
  | nil =>
      exact Nat.zero_le _
  | cons first front inductionHypothesis =>
      rw [List.cons_append, List.cons_append, commonCount, if_pos rfl, List.length_cons]
      exact Nat.succ_le_succ inductionHypothesis

theorem shareFirst_iff
    (left right : List Text) :
    ShareFirst left right ↔ commonCount left right ≠ 0 := by
  fun_cases commonCount left right with
  | case1 lefts first rights =>
      exact ⟨fun _ => Nat.succ_ne_zero _, fun _ => ⟨first, rfl, rfl⟩⟩
  | case2 first lefts second rights differ =>
      refine ⟨fun ⟨segment, isFirst, isSecond⟩ => ?_, fun shared => absurd rfl shared⟩
      exact absurd (Option.some.inj (isFirst.trans isSecond.symm)) differ
  | case3 _ _ noFirsts =>
      refine ⟨fun ⟨segment, isFirst, isSecond⟩ => ?_, fun shared => absurd rfl shared⟩
      obtain ⟨lefts, rfl⟩ := List.head?_eq_some_iff.mp isFirst
      obtain ⟨rights, rfl⟩ := List.head?_eq_some_iff.mp isSecond
      exact absurd rfl (noFirsts _ _ _ _ rfl)

theorem fullPath_of_rooted
    {path : Text}
    (rooted : isRooted path = true)
    (currentDirectory : Text) :
    fullPath path currentDirectory = normalize path := by
  rw [fullPath, combine, rooted, Bool.or_true, if_pos rfl]

/-- Rows that end where their common beginning ends are the same. -/
theorem eq_of_commonCount
    {left right : List Text}
    (ofLeft : commonCount left right = left.length)
    (ofRight : commonCount left right = right.length) :
    left = right := by
  have same := take_commonCount left right
  rwa [ofLeft, List.take_length, ← ofLeft, ofRight, List.take_length] at same

theorem commonCount_self
    (row : List Text) :
    commonCount row row = row.length :=
  Nat.le_antisymm (commonCount_le_left row row)
    (length_le_commonCount (List.prefix_refl row) (List.prefix_refl row))

/-- The way that leaves what is not shared and enters what is left of the goal. -/
def wayBetween (start goal : List Text) : List Text :=
  List.replicate (start.length - commonCount start goal) ['.', '.'] ++
    goal.drop (commonCount start goal)

section Way

variable {start goal : List Text}

theorem follow_wayBetween
    (noDots : ∀ segment ∈ goal, segment ≠ ['.'] ∧ segment ≠ ['.', '.']) :
    follow start (wayBetween start goal) = goal := by
  have behind : ∀ segment ∈ goal.drop (commonCount start goal), _ :=
    fun segment isMember => noDots segment (List.mem_of_mem_drop isMember)
  have shared : start.length - (start.length - commonCount start goal) = commonCount start goal :=
    Nat.sub_sub_self (commonCount_le_left start goal)
  rw [wayBetween, follow_append, follow_ups, follow_downs behind, shared, take_commonCount,
    List.take_append_drop]

theorem climbs_wayBetween
    (noDots : ∀ segment ∈ goal, segment ≠ ['.'] ∧ segment ≠ ['.', '.']) :
    climbs (wayBetween start goal) = start.length - commonCount start goal := by
  have noneBehind : (goal.drop (commonCount start goal)).count ['.', '.'] = 0 :=
    List.count_eq_zero.mpr fun isMember =>
      (noDots _ (List.mem_of_mem_drop isMember)).2 rfl
  rw [climbs, wayBetween, List.count_append, List.count_replicate_self, noneBehind, Nat.add_zero]

/-- Whatever leads to the goal goes up at least as often as there are segments not shared. -/
theorem le_climbs_of_follow
    {way : List Text}
    (leads : follow start way = goal) :
    start.length - commonCount start goal ≤ climbs way := by
  have stays : start.take (start.length - climbs way) <+: goal := by
    rw [← leads]
    exact take_isPrefix_follow (Nat.le_refl _) (List.take_prefix _ start) way
  have shared := length_le_commonCount (List.take_prefix _ start) stays
  rw [List.length_take] at shared
  omega

theorem isSegment_of_mem_wayBetween
    (areSegments : ∀ segment ∈ goal, IsSegment segment) :
    ∀ segment ∈ wayBetween start goal, IsSegment segment := by
  intro segment isMember
  rcases List.mem_append.mp isMember with isUp | isDown
  · rw [List.eq_of_mem_replicate isUp]
    exact { nonempty := List.cons_ne_nil _ _, free := by simp [isSeparator] }
  · exact areSegments segment (List.mem_of_mem_drop isDown)

theorem wayBetween_ne_nil
    (differ : start ≠ goal) :
    wayBetween start goal ≠ [] := by
  intro blank
  obtain ⟨noUps, noDowns⟩ := List.append_eq_nil_iff.mp blank
  rw [List.replicate_eq_nil_iff] at noUps
  rw [List.drop_eq_nil_iff] at noDowns
  have ofLeft := commonCount_le_left start goal
  have ofRight : commonCount start goal ≤ goal.length := by
    have taken := congrArg List.length (take_commonCount start goal)
    rw [List.length_take, List.length_take] at taken
    omega
  exact differ (eq_of_commonCount (by omega) (by omega))

/-- The two rows have nothing left behind what they share exactly if they are the same. -/
theorem commonCount_eq_lengths_iff :
    commonCount start goal = start.length ∧ commonCount start goal = goal.length ↔
      start = goal := by
  refine ⟨fun ⟨ofLeft, ofRight⟩ => eq_of_commonCount ofLeft ofRight, fun same => ?_⟩
  subst same
  exact ⟨commonCount_self start, commonCount_self start⟩

end Way

section Relative

variable {base path : Text}

/-- A relative path is a dot, the way between, or the full path where nothing is shared. -/
theorem makeRelative_eq
    (hasBase : base ≠ [])
    (rooted : isRooted path = true)
    (currentDirectory : Text) :
    let full := fullPath path currentDirectory
    let start := segments (fullPath base currentDirectory)
    let goal := segments full
    makeRelative base path currentDirectory =
      if Text.sameName (root (fullPath base currentDirectory)) (root full) = false then full
      else if start = goal then ['.']
      else if commonCount start goal = 0 then full
      else
        Text.join ['/'] (wayBetween start goal) ++
          if endsWithSeparator path then ['/'] else [] := by
  intro full start goal
  have isMade : (base.isEmpty || !isRooted path) = false := by
    rw [List.isEmpty_eq_false_iff.mpr hasBase, rooted]
    rfl
  rw [makeRelative, isMade]
  simp only [Bool.false_eq_true, if_false, Bool.not_eq_true', commonCount_eq_lengths_iff]
  refine if_congr Iff.rfl rfl ?_
  by_cases same : start = goal
  · rw [if_pos same, if_pos same]
  · have areSegments : ∀ segment ∈ wayBetween start goal, IsSegment segment :=
      isSegment_of_mem_wayBetween fun segment isMember => isSegment_of_mem_segments isMember
    have written : (Text.join ['/'] (wayBetween start goal)).isEmpty = false :=
      List.isEmpty_eq_false_iff.mpr (join_segments_ne_nil areSegments (wayBetween_ne_nil same))
    rw [if_neg same, if_neg same]
    refine if_congr Iff.rfl rfl ?_
    change
      (if (endsWithSeparator path && !(Text.join ['/'] (wayBetween start goal)).isEmpty) = true then
        Text.join ['/'] (wayBetween start goal) ++ ['/']
      else Text.join ['/'] (wayBetween start goal)) = _
    rw [written]
    cases endsWithSeparator path <;> simp

/-- The segments of the relative path are the way between, if something is shared. -/
theorem segments_makeRelative
    (hasBase : base ≠ [])
    (rooted : isRooted path = true)
    {currentDirectory : Text}
    (sameRoot :
      Text.sameName (root (fullPath base currentDirectory)) (root (fullPath path currentDirectory)))
    (share :
      ShareFirst (segments (fullPath base currentDirectory))
        (segments (fullPath path currentDirectory))) :
    let start := segments (fullPath base currentDirectory)
    let goal := segments (fullPath path currentDirectory)
    segments (makeRelative base path currentDirectory) =
      if start = goal then [['.']] else wayBetween start goal := by
  intro start goal
  have shared : commonCount start goal ≠ 0 := (shareFirst_iff _ _).mp share
  rw [makeRelative_eq hasBase rooted, sameRoot, if_neg (by decide)]
  by_cases same : start = goal
  · rw [if_pos same, if_pos same]
    rfl
  · have areSegments : ∀ segment ∈ wayBetween start goal, IsSegment segment :=
      isSegment_of_mem_wayBetween fun segment isMember => isSegment_of_mem_segments isMember
    rw [if_neg same, if_neg shared, if_neg same]
    split
    · rw [segments_append_slash, segments_nil, List.append_nil, segments_join areSegments]
    · rw [List.append_nil, segments_join areSegments]

/--
A relative path leads from its base to its path and goes up no more often than any
other way that does, if the two have one root up to ASCII case and share their first
segment. If their roots differ, or they share no segment and are not the same
directory, it is the full path.
-/
theorem makeRelative_leads
    (hasBase : base ≠ [])
    (rooted : isRooted path = true)
    (currentDirectory : Text) :
    let full := fullPath path currentDirectory
    let start := segments (fullPath base currentDirectory)
    let goal := segments full
    let relative := makeRelative base path currentDirectory
    let sameRoot := Text.sameName (root (fullPath base currentDirectory)) (root full)
    (sameRoot = true → ShareFirst start goal →
      follow start (segments relative) = goal ∧
        ∀ way, follow start way = goal → climbs (segments relative) ≤ climbs way) ∧
    (sameRoot = false ∨ ¬ ShareFirst start goal ∧ start ≠ goal → relative = full) := by
  intro full start goal relative sameRoot
  have noDots : ∀ segment ∈ goal, segment ≠ ['.'] ∧ segment ≠ ['.', '.'] := by
    intro segment isMember
    have isFull : full = normalize path := fullPath_of_rooted rooted currentDirectory
    exact ne_dots_of_mem_segments rooted (isFull ▸ isMember)
  constructor
  · intro isSame share
    have read := segments_makeRelative hasBase rooted isSame share
    change segments relative = if start = goal then [['.']] else wayBetween start goal at read
    by_cases same : start = goal
    · rw [read, if_pos same]
      exact ⟨same, fun way _ => Nat.zero_le _⟩
    · rw [read, if_neg same]
      refine ⟨follow_wayBetween noDots, fun way leads => ?_⟩
      rw [climbs_wayBetween noDots]
      exact le_climbs_of_follow leads
  · intro apart
    have made := makeRelative_eq hasBase rooted currentDirectory
    rcases apart with otherRoot | ⟨noneShared, differ⟩
    · exact made.trans (if_pos otherRoot)
    · have nothing : commonCount start goal = 0 := by
        by_contra shared
        exact noneShared ((shareFirst_iff start goal).mpr shared)
      refine made.trans ?_
      rw [if_neg differ, if_pos nothing, ite_self]

/-- A sibling is reached through the directory above, whatever dots and slashes are written. -/
theorem makeRelative_leads_to_sibling :
    let base : Text := "src/./lib\\"
    let path : Text := "/repo//src/../src/bin/"
    let start : List Text := ["repo", "src", "lib"]
    let goal : List Text := ["repo", "src", "bin"]
    let way : List Text := ["..", "bin"]
    base ≠ [] ∧ isRooted path = true ∧
      makeRelative base path "/repo" = "../bin/" ∧
      follow start way = goal ∧
      ∀ other, follow start other = goal → climbs way ≤ climbs other := by
  intro base path start goal way
  have hasBase : base ≠ [] := by
    decide
  have rooted : isRooted path = true := by
    decide
  have fromBase : segments (fullPath base "/repo") = start := by
    decide +kernel
  have toPath : segments (fullPath path "/repo") = goal := by
    decide +kernel
  have made : makeRelative base path "/repo" = "../bin/" := by
    decide +kernel
  have isWay : segments "../bin/" = way := by
    decide +kernel
  have related := (makeRelative_leads hasBase rooted "/repo").1
  rw [fromBase, toPath, made, isWay] at related
  obtain ⟨leads, fewest⟩ := related (by decide +kernel) ⟨"repo", rfl, rfl⟩
  exact ⟨hasBase, rooted, made, leads, fewest⟩

end Relative

end Path

end RefExpand
