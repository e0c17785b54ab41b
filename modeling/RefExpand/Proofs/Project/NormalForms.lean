import RefExpand.Proofs.Project.Directories
import RefExpand.Proofs.Project.RelativePaths

namespace RefExpand

/-!
# Normal forms of paths

The normal form of a path with a root is the root, then the segments that are left
when its dots are followed from the root, with a slash behind the last if the path
ends so. The segments are read back from a normal form as they stand, so to normalize
it again can only change its root. One root is not read back: the separator in front
of a colon, which is written like the root of a drive.
-/

namespace Path

/-- A separator stands where a drive would have its letter. -/
def FalseDrive (path : Text) : Prop :=
  ∃ c rest, path = c :: ':' :: rest ∧ isSeparator c = true

/-- How a root is written in normal form. -/
def normalRoot : Text → Text
  | [] => []
  | [letter, ':'] => [letter, ':']
  | [letter, ':', _] => [letter, ':', '/']
  | _ => ['/']

section Root

/-- A path, its root, what stands behind the root, and how the root is written in normal form. -/
inductive RootForm : (path start rest form : Text) → Prop where
  | absent
      {rest : Text} (behind : ∀ c ∈ rest.head?, isSeparator c = false) :
      RootForm rest [] rest []
  | slashed
      {letter c : Char} (isLetter : letter.isAlpha = true) (cuts : isSeparator c = true)
      (rest : Text) :
      RootForm (letter :: ':' :: c :: rest) [letter, ':', c] rest [letter, ':', '/']
  | drive
      {letter : Char} (isLetter : letter.isAlpha = true)
      {rest : Text} (behind : ∀ c ∈ rest.head?, isSeparator c = false) :
      RootForm (letter :: ':' :: rest) [letter, ':'] rest [letter, ':']
  | falseDrive
      {c : Char} (cuts : isSeparator c = true) (rest : Text) :
      RootForm (c :: ':' :: rest) [c] (':' :: rest) [c, ':']
  | separators
      {first : Char} {others rest : Text} (cut : ∀ c ∈ first :: others, isSeparator c = true)
      (noColon : (others ++ rest).head? ≠ some ':') :
      RootForm (first :: others ++ rest) (first :: others) rest ['/']

/-- A root is a slash if no colon is the second character. -/
theorem root_of_noColon
    {path : Text}
    (rooted : writtenRoot path ≠ [])
    (noColon : ∀ c rest, path ≠ c :: ':' :: rest) :
    root path = ['/'] := by
  unfold root
  split
  · rename_i relative
    exact absurd relative rooted
  · exact absurd rfl (noColon _ _)
  · exact absurd rfl (noColon _ _)
  · rfl

theorem rootForm_of_split
    {path start rest : Text}
    (split : RootSplit path start rest) :
    RootForm path start rest (root path) := by
  have isStart := split.writtenRoot_eq
  cases split with
  | slashed isLetter cuts rest =>
      unfold root
      simp only [isStart]
      exact .slashed isLetter cuts rest
  | drive isLetter behind =>
      unfold root
      simp only [isStart]
      exact .drive isLetter behind
  | separators cut behind noDrive =>
      cases start with
      | nil =>
          unfold root
          simp only [isStart]
          exact .absent behind
      | cons first others =>
          by_cases hasColon : (others ++ rest).head? = some ':'
          · cases others with
            | nil =>
                obtain ⟨tail, rfl⟩ := List.head?_eq_some_iff.mp hasColon
                unfold root
                simp only [isStart]
                exact .falseDrive (cut first List.mem_cons_self) tail
            | cons second others =>
                have isColon : second = ':' :=
                  Option.some.inj hasColon
                rw [isColon] at cut
                cases cut ':' (by simp)
          · have isSlash : root (first :: others ++ rest) = ['/'] := by
              refine root_of_noColon (by rw [isStart]; exact List.cons_ne_nil _ _) ?_
              intro c tail same
              rw [List.cons_append, List.cons.injEq] at same
              exact hasColon (same.2 ▸ rfl)
            rw [isSlash]
            exact .separators cut hasColon

/-- Every path has such a root. -/
theorem rootForm
    (path : Text) :
    RootForm path (writtenRoot path) (afterRoot path) (root path) :=
  rootForm_of_split (rootSplit path)

theorem isSeparator_iff
    {c : Char} :
    isSeparator c = true ↔ c = '/' ∨ c = '\\' := by
  rw [isSeparator, Bool.or_eq_true, beq_iff_eq, beq_iff_eq]

theorem falseDrive_cons_iff
    {c : Char}
    {rest : Text} :
    FalseDrive (c :: rest) ↔ isSeparator c = true ∧ rest.head? = some ':' := by
  constructor
  · rintro ⟨_, tail, same, cuts⟩
    cases same
    exact ⟨cuts, rfl⟩
  · rintro ⟨cuts, isColon⟩
    obtain ⟨tail, rfl⟩ := List.head?_eq_some_iff.mp isColon
    exact ⟨c, tail, rfl, cuts⟩

theorem not_falseDrive_of_kept
    {path : Text}
    (kept : ∀ c ∈ path.head?, isSeparator c = false) :
    ¬ FalseDrive path := by
  rintro ⟨c, rest, rfl, cuts⟩
  rw [kept c rfl] at cuts
  cases cuts

theorem not_falseDrive_of_isAlpha
    {letter : Char}
    (isLetter : letter.isAlpha = true)
    (rest : Text) :
    ¬ FalseDrive (letter :: rest) := by
  rw [falseDrive_cons_iff, isSeparator_of_isAlpha isLetter]
  exact fun shown => Bool.false_ne_true shown.1

theorem not_falseDrive_of_noColon
    {first : Char}
    {rest : Text}
    (noColon : rest.head? ≠ some ':') :
    ¬ FalseDrive (first :: rest) :=
  fun isDrive => noColon (falseDrive_cons_iff.mp isDrive).2

namespace RootForm

variable {path start rest form : Text}

theorem form_eq_of_falseDrive
    (isForm : RootForm path start rest form)
    (isDrive : FalseDrive path) :
    form = start ++ [':'] := by
  cases isForm with
  | absent behind =>
      exact absurd isDrive (not_falseDrive_of_kept behind)
  | slashed isLetter =>
      exact absurd isDrive (not_falseDrive_of_isAlpha isLetter _)
  | drive isLetter =>
      exact absurd isDrive (not_falseDrive_of_isAlpha isLetter _)
  | falseDrive =>
      rfl
  | separators cut noColon =>
      exact absurd isDrive (not_falseDrive_of_noColon noColon)

theorem form_eq_normalRoot
    (isForm : RootForm path start rest form)
    (noDrive : ¬ FalseDrive path) :
    form = normalRoot start := by
  cases isForm with
  | absent =>
      rfl
  | slashed =>
      rfl
  | drive =>
      rfl
  | falseDrive cuts rest =>
      exact absurd ⟨_, rest, rfl, cuts⟩ noDrive
  | separators cut =>
      unfold normalRoot
      split
      · contradiction
      · cases cut ':' (by simp_all)
      · cases cut ':' (by simp_all)
      · rfl

/-- A root holds a backslash in normal form only if a colon stands behind it. -/
theorem backslash_mem_iff
    (isForm : RootForm path start rest form) :
    '\\' ∈ form ↔ ['\\', ':'] <+: path := by
  cases isForm with
  | absent behind =>
      refine iff_of_false List.not_mem_nil ?_
      rintro ⟨tail, rfl⟩
      cases behind '\\' rfl
  | slashed isLetter cuts rest =>
      simp
  | drive isLetter behind =>
      simp
  | falseDrive cuts rest =>
      simp
  | separators cut noColon =>
      refine iff_of_false (by simp) ?_
      rintro ⟨tail, same⟩
      obtain ⟨-, behind⟩ := List.cons.inj same
      exact noColon (congrArg List.head? behind).symm

/-- If separators are single slashes, a root stays as it is written unless it is a false drive. -/
theorem form_eq_start_iff
    (isForm : RootForm path start rest form)
    (single : IsSingle path)
    (slashes : '\\' ∈ path → FalseDrive path) :
    form = start ↔ ¬ FalseDrive path := by
  have isSlash : ¬ FalseDrive path → ∀ c ∈ path, isSeparator c = true → c = '/' := by
    intro noDrive c isMember cuts
    refine (isSeparator_iff.mp cuts).resolve_right fun isBackslash => ?_
    exact noDrive (slashes (isBackslash ▸ isMember))
  cases isForm with
  | absent behind =>
      exact iff_of_true rfl (not_falseDrive_of_kept behind)
  | slashed isLetter cuts rest =>
      rename_i letter c
      have noDrive := not_falseDrive_of_isAlpha isLetter (':' :: c :: rest)
      exact iff_of_true (by rw [isSlash noDrive c (by simp) cuts]) noDrive
  | drive isLetter behind =>
      exact iff_of_true rfl (not_falseDrive_of_isAlpha isLetter _)
  | falseDrive cuts rest =>
      exact iff_of_false (by simp) (not_not_intro (falseDrive_cons_iff.mpr ⟨cuts, rfl⟩))
  | separators cut noColon =>
      rename_i first others
      have noDrive : ¬ FalseDrive (first :: others ++ rest) :=
        not_falseDrive_of_noColon noColon
      have isFirst : first = '/' :=
        isSlash noDrive first (by simp) (cut first List.mem_cons_self)
      have alone : others = [] := by
        cases others with
        | nil =>
            rfl
        | cons second others =>
            have apart := (List.isChain_cons_cons.mp single).1
            exact absurd ⟨cut first (by simp), cut second (by simp)⟩ apart
      exact iff_of_true (by rw [isFirst, alone]) noDrive

/-- Behind a root in normal form a colon makes it begin so only if the root is a slash. -/
theorem falseDrive_append_iff
    (isForm : RootForm path start rest form)
    (rooted : start ≠ [])
    (behind : Text) :
    FalseDrive (form ++ behind) ↔ FalseDrive path ∨ form = ['/'] ∧ behind.head? = some ':' := by
  cases isForm with
  | absent =>
      exact absurd rfl rooted
  | slashed isLetter cuts rest =>
      simp [not_falseDrive_of_isAlpha isLetter]
  | drive isLetter =>
      simp [not_falseDrive_of_isAlpha isLetter]
  | falseDrive cuts rest =>
      exact iff_of_true ⟨_, behind, rfl, cuts⟩ (.inl ⟨_, rest, rfl, cuts⟩)
  | separators cut noColon =>
      rename_i first others
      have noDrive : ¬ FalseDrive (first :: (others ++ rest)) :=
        not_falseDrive_of_noColon noColon
      rw [List.singleton_append, List.cons_append, or_iff_right noDrive, falseDrive_cons_iff]
      simp [isSeparator]

end RootForm

end Root

section Walk

/-- A step of the walk over a path with a root is a step from the place that the stack holds. -/
theorem reverse_walk
    {stack : List Text}
    (noUps : ['.', '.'] ∉ stack)
    {segment : Text}
    (written : segment ≠ []) :
    (walk true stack segment).reverse = enter stack.reverse segment := by
  unfold walk enter
  rw [List.isEmpty_eq_false_iff.mpr written, Bool.false_or]
  by_cases isDot : segment = ['.']
  · rw [if_pos (beq_iff_eq.mpr isDot), if_pos isDot]
  · rw [if_neg (by simpa using isDot), if_neg isDot]
    by_cases isUp : segment = ['.', '.']
    · rw [if_pos (beq_iff_eq.mpr isUp), if_pos isUp]
      cases stack with
      | nil =>
          rfl
      | cons top below =>
          rw [List.mem_cons, not_or] at noUps
          dsimp only
          rw [if_neg (by simpa using Ne.symm noUps.1)]
          simp
    · rw [if_neg (by simpa using isUp), if_neg isUp, List.reverse_cons]

/-- So what is left of the segments of a path with a root is the place that they lead to. -/
theorem walkedSegments_eq_follow
    {path : Text}
    (rooted : isRooted path = true) :
    walkedSegments path = follow [] (segments (afterRoot path)) := by
  have walked :
      ∀ pieces : List Text, (∀ piece ∈ pieces, ∀ c ∈ piece, isSeparator c = false) →
        ∀ stack : List Text, (∀ segment ∈ stack, IsWalked true segment) →
          (pieces.foldl (walk true) stack).reverse =
            follow stack.reverse (pieces.filter (!·.isEmpty)) := by
    intro pieces free
    -- For every stack: the walk never leaves two dots on it, so `reverse_walk` applies again.
    induction pieces with
    | nil =>
        exact fun stack _ => rfl
    | cons piece pieces inductionHypothesis =>
        rw [List.forall_mem_cons] at free
        intro stack isStack
        rw [List.foldl_cons, inductionHypothesis free.2 _ (isWalked_walk isStack free.1)]
        cases piece with
        | nil =>
            rfl
        | cons c rest =>
            have noUps : ['.', '.'] ∉ stack :=
              fun isMember => (isStack _ isMember).notUp rfl rfl
            rw [reverse_walk noUps (List.cons_ne_nil c rest)]
            rfl
  rw [walkedSegments, rooted, segments]
  exact walked _ (fun _ isPiece => Text.free_of_mem_splitAtChars isPiece) [] (List.forall_mem_nil _)

end Walk

section ReadBack

/-- What stands behind the root of a normal form: segments, joined, and perhaps a slash. -/
def IsKept (rest : Text) : Prop :=
  ∃ steps, (∀ step ∈ steps, IsWalked true step) ∧
    (rest = Text.join ['/'] steps ∨ steps ≠ [] ∧ rest = Text.join ['/'] steps ++ ['/'])

theorem endsWithSeparator_eq_false_iff
    {path : Text} :
    endsWithSeparator path = false ↔ ∀ c ∈ path.getLast?, isSeparator c = false := by
  rw [endsWithSeparator]
  cases path.getLast? <;> simp

theorem endsWithSeparator_append
    (front : Text)
    {back : Text}
    (written : back ≠ []) :
    endsWithSeparator (front ++ back) = endsWithSeparator back := by
  rw [endsWithSeparator, List.getLast?_append_of_ne_nil front written, endsWithSeparator]

theorem endsWithSeparator_join
    {steps : List Text}
    (areSegments : ∀ step ∈ steps, IsSegment step) :
    endsWithSeparator (Text.join ['/'] steps) = false :=
  endsWithSeparator_eq_false_iff.mpr (isSingle_join areSegments).2

theorem isKept_walkedSegments
    {path : Text}
    (rooted : isRooted path = true) :
    IsKept (Text.join ['/'] (walkedSegments path) ++ closing path) := by
  have walked : ∀ step ∈ walkedSegments path, IsWalked true step :=
    fun step isStep => rooted ▸ isWalked_of_mem_walkedSegments isStep
  refine ⟨walkedSegments path, walked, ?_⟩
  rw [closing_eq]
  split
  · rename_i closes
    exact .inr ⟨closes.1, rfl⟩
  · exact .inl (List.append_nil _)

/-- A colon in front of the first segment is a part of it. -/
theorem IsKept.colon
    {rest : Text}
    (kept : IsKept rest) :
    IsKept (':' :: rest) := by
  obtain ⟨steps, walked, shape⟩ := kept
  have isColon : ∀ step : Text, (∀ c ∈ step, isSeparator c = false) → IsWalked true (':' :: step) :=
    fun step free =>
      { nonempty := List.cons_ne_nil _ _
        free := List.forall_mem_cons.mpr ⟨rfl, free⟩
        notDot := by simp
        notUp := by simp }
  cases steps with
  | nil =>
      refine ⟨[[':']], List.forall_mem_singleton.mpr (isColon [] (List.forall_mem_nil _)), .inl ?_⟩
      rcases shape with rfl | ⟨written, -⟩
      · rfl
      · exact absurd rfl written
  | cons first others =>
      rw [List.forall_mem_cons] at walked
      have colonWalked : ∀ step ∈ (':' :: first) :: others, IsWalked true step :=
        List.forall_mem_cons.mpr ⟨isColon first walked.1.free, walked.2⟩
      refine ⟨(':' :: first) :: others, colonWalked, ?_⟩
      rw [Text.join_push]
      rcases shape with rfl | ⟨-, rfl⟩
      · exact .inl rfl
      · exact .inr ⟨List.cons_ne_nil _ _, rfl⟩

theorem IsKept.head_kept
    {rest : Text}
    (kept : IsKept rest) :
    ∀ c ∈ rest.head?, isSeparator c = false := by
  obtain ⟨steps, walked, shape⟩ := kept
  have areSegments : ∀ step ∈ steps, IsSegment step :=
    fun step isStep => (walked step isStep).toIsSegment
  have isHead := join_head_kept areSegments
  rcases shape with rfl | ⟨written, rfl⟩
  · exact isHead
  · rwa [List.head?_append_of_ne_nil _ (join_segments_ne_nil areSegments written)]

/-- Behind a root such a rest stays as it stands. -/
theorem normalize_of_isKept
    {path start rest : Text}
    (split : RootSplit path start rest)
    (rooted : start ≠ [])
    (kept : IsKept rest) :
    normalize path = root path ++ rest := by
  obtain ⟨steps, walked, shape⟩ := kept
  have areSegments : ∀ step ∈ steps, IsSegment step :=
    fun step isStep => (walked step isStep).toIsSegment
  have noDots : ∀ step ∈ steps, step ≠ ['.'] ∧ step ≠ ['.', '.'] :=
    fun step isStep => ⟨(walked step isStep).notDot, (walked step isStep).notUp rfl⟩
  have isRoot : isRooted path = true :=
    isRooted_iff.mpr (split.writtenRoot_eq ▸ rooted)
  have stays : segments rest = steps := by
    rcases shape with rfl | ⟨-, rfl⟩
    · exact segments_join areSegments
    · rw [segments_append_slash, segments_join areSegments, segments_nil, List.append_nil]
  have isWalked : walkedSegments path = steps := by
    rw [walkedSegments_eq_follow isRoot, split.afterRoot_eq, stays, follow_downs noDots,
      List.nil_append]
  rw [normalize_eq, isWalked, List.append_assoc, closing, isWalked, List.append_cancel_left_eq]
  cases steps with
  | nil =>
      rcases shape with rfl | ⟨written, -⟩
      · rfl
      · exact absurd rfl written
  | cons first others =>
      have joined : Text.join ['/'] (first :: others) ≠ [] :=
        join_segments_ne_nil areSegments (List.cons_ne_nil first others)
      rw [split.path_eq]
      rcases shape with rfl | ⟨-, rfl⟩
      · rw [endsWithSeparator_append start joined, endsWithSeparator_join areSegments]
        exact List.append_nil _
      · rw [← List.append_assoc, endsWithSeparator_append _ (List.cons_ne_nil '/' [])]
        rfl

/-- A normal form begins with a root again, and what stands behind that is kept. -/
theorem RootForm.readBack
    {path start rest form behind : Text}
    (isForm : RootForm path start rest form)
    (rooted : start ≠ [])
    (kept : IsKept behind) :
    ∃ start' rest', RootSplit (form ++ behind) start' rest' ∧ start' ≠ [] ∧ IsKept rest' := by
  cases isForm with
  | absent =>
      exact absurd rfl rooted
  | slashed isLetter =>
      exact ⟨_, behind, .slashed isLetter rfl behind, by simp, kept⟩
  | drive isLetter =>
      exact ⟨_, behind, .drive isLetter kept.head_kept, by simp, kept⟩
  | falseDrive cuts =>
      rename_i c _
      have noDrive : NoDrive ([c] ++ ':' :: behind) := by
        rintro letter tail same
        cases same
        by_contra isLetter
        rw [isSeparator_of_isAlpha (by simpa using isLetter)] at cuts
        cases cuts
      have split : RootSplit ([c] ++ ':' :: behind) [c] (':' :: behind) :=
        .separators (by simpa using cuts) (by simp [isSeparator]) noDrive
      exact ⟨[c], ':' :: behind, split, by simp, kept.colon⟩
  | separators cut =>
      have noDrive : NoDrive (['/'] ++ behind) := by
        rintro letter tail same
        cases same
        rfl
      have split : RootSplit (['/'] ++ behind) ['/'] behind :=
        .separators (by simp [isSeparator]) kept.head_kept noDrive
      exact ⟨['/'], behind, split, by simp, kept⟩

/-- To normalize a normal form with a root can only change the root. -/
theorem normalize_normalize_eq
    {path : Text}
    (rooted : isRooted path = true) :
    normalize (normalize path) = root (normalize path) ++ afterRoot (normalize path) := by
  obtain ⟨start, rest, split, hasRoot, kept⟩ :=
    (rootForm path).readBack (isRooted_iff.mp rooted) (isKept_walkedSegments rooted)
  rw [← List.append_assoc, ← normalize_eq] at split
  rw [normalize_of_isKept split hasRoot kept, split.afterRoot_eq]

/-- What stands behind the root of a normal form begins as the first segment does. -/
theorem head?_walked
    (path : Text) :
    (Text.join ['/'] (walkedSegments path) ++ closing path).head? =
      (walkedSegments path).head?.bind List.head? := by
  have areSegments : ∀ step ∈ walkedSegments path, IsSegment step :=
    fun step isStep => (isWalked_of_mem_walkedSegments isStep).toIsSegment
  cases isWalked : walkedSegments path with
  | nil =>
      rw [closing, isWalked]
      rfl
  | cons first others =>
      rw [isWalked] at areSegments
      have joined : Text.join ['/'] (first :: others) ≠ [] :=
        join_segments_ne_nil areSegments (List.cons_ne_nil first others)
      rw [List.head?_append_of_ne_nil _ joined, List.head?_cons, Option.bind_some]
      cases others with
      | nil =>
          rw [Text.join, List.intercalate_singleton]
      | cons second others =>
          rw [Text.join_cons_cons, List.append_assoc,
            List.head?_append_of_ne_nil _ (areSegments first List.mem_cons_self).nonempty]

end ReadBack

section NormalForm

/-- A normal form holds a backslash only if its path begins with one and a colon. -/
theorem backslash_mem_normalize_iff
    {path : Text} :
    '\\' ∈ normalize path ↔ ['\\', ':'] <+: path := by
  have inJoined : '\\' ∉ Text.join ['/'] (walkedSegments path) := by
    intro isMember
    rcases Text.mem_of_mem_join isMember with inSlash | ⟨step, isStep, inStep⟩
    · simp at inSlash
    · cases (isWalked_of_mem_walkedSegments isStep).free _ inStep
  have inClosing : '\\' ∉ closing path := by
    unfold closing
    split <;> simp
  rw [normalize_eq, List.mem_append, List.mem_append, or_iff_left inClosing,
    or_iff_left inJoined, (rootForm path).backslash_mem_iff]

/-- A normal form begins with a false drive if its path does, or a slash meets a colon. -/
theorem falseDrive_normalize_iff
    {path : Text}
    (rooted : isRooted path = true) :
    FalseDrive (normalize path) ↔
      FalseDrive path ∨
        root path = ['/'] ∧ ∃ first ∈ (walkedSegments path).head?, first.head? = some ':' := by
  rw [normalize_eq, List.append_assoc,
    (rootForm path).falseDrive_append_iff (isRooted_iff.mp rooted), head?_walked,
    Option.bind_eq_some_iff]
  rfl

theorem falseDrive_of_backslash_mem
    {path : Text}
    (isMember : '\\' ∈ normalize path) :
    FalseDrive (normalize path) := by
  obtain ⟨tail, rfl⟩ := backslash_mem_normalize_iff.mp isMember
  exact (falseDrive_normalize_iff (isRooted_of_separator rfl _)).mpr (.inl ⟨_, tail, rfl, rfl⟩)

/-- The root of a normal form is read back unless it is taken for that of a drive. -/
theorem root_eq_writtenRoot_iff
    {path : Text} :
    root (normalize path) = writtenRoot (normalize path) ↔ ¬ FalseDrive (normalize path) :=
  (rootForm (normalize path)).form_eq_start_iff (isSingle_normalize path)
    falseDrive_of_backslash_mem

/-- A normal form with a root is kept when it is normalized again unless it begins so. -/
theorem normalize_normalize_iff
    {path : Text}
    (rooted : isRooted path = true) :
    normalize (normalize path) = normalize path ↔ ¬ FalseDrive (normalize path) := by
  rw [← root_eq_writtenRoot_iff, normalize_normalize_eq rooted]
  conv => left; right; rw [(rootSplit (normalize path)).path_eq]
  rw [List.append_cancel_right_eq]

/--
The normal form of a path with a root is the root and the segments that are left when
the path is followed from there, with slashes between them and one behind the last if
the path ends with a separator; no segment is empty or a dot or two. It holds a
backslash exactly if the path begins with one and a colon. Normalizing it again changes
nothing, unless the path begins with one separator and a colon, or its root is a slash
and the first segment left begins with a colon.
-/
theorem normalize_of_rooted
    {path : Text}
    (rooted : isRooted path = true) :
    let kept := follow [] (segments (afterRoot path))
    let ending : Text := if kept ≠ [] ∧ endsWithSeparator path = true then ['/'] else []
    normalize path = root path ++ Text.join ['/'] kept ++ ending ∧
    (∀ segment ∈ kept, IsSegment segment ∧ segment ≠ ['.'] ∧ segment ≠ ['.', '.']) ∧
    ('\\' ∈ normalize path ↔ ['\\', ':'] <+: path) ∧
    (normalize (normalize path) = normalize path ↔
      ¬ (FalseDrive path ∨
        root path = ['/'] ∧ ∃ first ∈ kept.head?, first.head? = some ':')) := by
  intro kept ending
  have isKept : walkedSegments path = kept :=
    walkedSegments_eq_follow rooted
  have isEnding : closing path = ending := by
    rw [closing_eq, isKept]
  refine ⟨?_, fun segment isMember => ?_, backslash_mem_normalize_iff, ?_⟩
  · rw [normalize_eq, isKept, isEnding]
  · have walked := isWalked_of_mem_walkedSegments (isKept ▸ isMember)
    exact ⟨walked.toIsSegment, walked.notDot, walked.notUp rooted⟩
  · rw [normalize_normalize_iff rooted, falseDrive_normalize_iff rooted, isKept]

/-- Behind a drive dots cannot lead above the root, and colons are characters like others. -/
theorem normalize_of_rooted_on_drive :
    let path : Text := "C:\\..\\a//./b/..\\:c\\"
    isRooted path = true ∧ normalize path = "C:/a/:c/" ∧
      normalize (normalize path) = normalize path := by
  intro path
  have rooted : isRooted path = true := by
    decide
  have isRoot : root path = "C:/" := by
    decide
  have noDrive : ¬ FalseDrive path :=
    not_falseDrive_of_isAlpha rfl _
  obtain ⟨form, -, -, again⟩ := normalize_of_rooted rooted
  refine ⟨rooted, form.trans (by decide +kernel), again.mpr ?_⟩
  rintro (isDrive | ⟨isSlash, -⟩)
  · exact noDrive isDrive
  · rw [isRoot] at isSlash
    cases isSlash

/-- The colon behind the slash of a path is written once more each time. -/
theorem not_every_normal_form_kept :
    ¬ ∀ path, isRooted path = true → normalize (normalize path) = normalize path := by
  intro claimed
  have again := claimed "/:a" (by decide)
  revert again
  decide +kernel

end NormalForm

end Path

end RefExpand
