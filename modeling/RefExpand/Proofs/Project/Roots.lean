import Mathlib.Data.List.TakeWhile
import RefExpand.Project.Path

namespace RefExpand

/-!
# Roots

A path is its root and what stands behind it: a drive letter, its colon and perhaps a
separator, or else all separators that it begins with. Where a path is cut behind
its root the root stays the same, and so it does when its separators are written as
slashes.
-/

namespace Path

/-- A path that does not begin with a drive. -/
def NoDrive (path : Text) : Prop :=
  ∀ letter rest, path = letter :: ':' :: rest → letter.isAlpha = false

/-- A path, its root and what stands behind the root. -/
inductive RootSplit : (path start rest : Text) → Prop where
  | slashed
      {letter c : Char} (isLetter : letter.isAlpha = true) (cuts : isSeparator c = true)
      (rest : Text) :
      RootSplit (letter :: ':' :: c :: rest) [letter, ':', c] rest
  | drive
      {letter : Char} (isLetter : letter.isAlpha = true)
      {rest : Text} (behind : ∀ c ∈ rest.head?, isSeparator c = false) :
      RootSplit (letter :: ':' :: rest) [letter, ':'] rest
  | separators
      {start rest : Text} (cut : ∀ c ∈ start, isSeparator c = true)
      (behind : ∀ c ∈ rest.head?, isSeparator c = false) (noDrive : NoDrive (start ++ rest)) :
      RootSplit (start ++ rest) start rest

theorem rootSplit_of_noDrive
    {path : Text}
    (noDrive : NoDrive path) :
    RootSplit path (path.takeWhile isSeparator) (path.dropWhile isSeparator) := by
  have whole := List.takeWhile_append_dropWhile (p := isSeparator) (l := path)
  have behind : ∀ c ∈ (path.dropWhile isSeparator).head?, isSeparator c = false := by
    intro c isHead
    have kept := List.head?_dropWhile_not isSeparator path
    rwa [isHead] at kept
  have split :=
    RootSplit.separators (fun c inStart => List.mem_takeWhile_imp inStart) behind
      (whole.symm ▸ noDrive)
  rwa [whole] at split

/-- Every path is split so. -/
theorem rootSplit
    (path : Text) :
    RootSplit path (writtenRoot path) (afterRoot path) := by
  rw [writtenRoot, afterRoot]
  unfold splitRoot
  split
  · rename_i letter rest
    split
    · rename_i isLetter
      split
      · rename_i c tail
        split
        · rename_i cuts
          exact .slashed isLetter cuts tail
        · rename_i keeps
          exact .drive isLetter (by simpa using keeps)
      · exact .drive isLetter (by simp)
    · rename_i noLetter
      refine rootSplit_of_noDrive fun letter' rest' same => ?_
      cases same
      simpa using noLetter
  · rename_i noColon
    exact rootSplit_of_noDrive fun letter rest same => absurd same (noColon letter rest)

namespace RootSplit

variable {path start rest : Text}

theorem path_eq
    (split : RootSplit path start rest) :
    path = start ++ rest := by
  cases split <;> rfl

/-- The split of a path is the only one. -/
theorem splitRoot_eq
    (split : RootSplit path start rest) :
    splitRoot path = (start, rest) := by
  cases split with
  | slashed isLetter cuts rest =>
      simp [splitRoot, isLetter, cuts]
  | drive isLetter behind =>
      cases rest with
      | nil =>
          simp [splitRoot, isLetter]
      | cons c tail =>
          simp [splitRoot, isLetter, behind c rfl]
  | separators cut behind noDrive =>
      have ends : rest.takeWhile isSeparator = [] ∧ rest.dropWhile isSeparator = rest := by
        cases rest with
        | nil =>
            exact ⟨rfl, rfl⟩
        | cons c tail =>
            simp [behind c rfl]
      have front : (start ++ rest).takeWhile isSeparator = start := by
        rw [List.takeWhile_append_of_pos cut, ends.1, List.append_nil]
      have back : (start ++ rest).dropWhile isSeparator = rest := by
        rw [List.dropWhile_append_of_pos cut, ends.2]
      unfold splitRoot
      split
      · rename_i letter tail same
        rw [noDrive letter tail same, if_neg (by decide), front, back]
      · rw [front, back]

theorem writtenRoot_eq
    (split : RootSplit path start rest) :
    writtenRoot path = start := by
  rw [writtenRoot, split.splitRoot_eq]

theorem afterRoot_eq
    (split : RootSplit path start rest) :
    afterRoot path = rest := by
  rw [afterRoot, split.splitRoot_eq]

/-- A path that is cut behind its root keeps it. -/
theorem cut
    (split : RootSplit path start rest)
    {front : Text}
    (beginning : front <+: rest) :
    RootSplit (start ++ front) start front := by
  obtain ⟨back, rfl⟩ := beginning
  have ahead : ∀ c ∈ front.head?, c ∈ (front ++ back).head? := by
    intro c isHead
    rw [List.head?_append, isHead]
    rfl
  cases split with
  | slashed isLetter cuts =>
      exact .slashed isLetter cuts front
  | drive isLetter behind =>
      exact .drive isLetter fun c isHead => behind c (ahead c isHead)
  | separators cut behind noDrive =>
      refine .separators cut (fun c isHead => behind c (ahead c isHead)) ?_
      intro letter tail same
      refine noDrive letter (tail ++ back) ?_
      rw [← List.append_assoc, same]
      rfl

end RootSplit

/-- A separator, written as a slash. -/
def fixChar (c : Char) : Char :=
  if isSeparator c then '/' else c

theorem fixSeparators_eq_map
    (path : Text) :
    fixSeparators path = path.map fixChar := by
  rfl

theorem isSeparator_fixChar
    (c : Char) :
    isSeparator (fixChar c) = isSeparator c := by
  unfold fixChar
  split
  · rename_i cuts
    rw [cuts]
    rfl
  · rfl

theorem fixChar_of_kept
    {c : Char}
    (kept : isSeparator c = false) :
    fixChar c = c := by
  rw [fixChar, if_neg (by rw [kept]; decide)]

theorem fixChar_fixChar
    (c : Char) :
    fixChar (fixChar c) = fixChar c := by
  cases isCut : isSeparator c with
  | true =>
      rw [fixChar, isSeparator_fixChar, isCut, if_pos rfl, fixChar, isCut, if_pos rfl]
  | false =>
      rw [fixChar_of_kept isCut, fixChar_of_kept isCut]

@[simp] theorem fixSeparators_fixSeparators
    (path : Text) :
    fixSeparators (fixSeparators path) = fixSeparators path := by
  simp [fixSeparators_eq_map, fixChar_fixChar]

theorem fixSeparators_append
    (front back : Text) :
    fixSeparators (front ++ back) = fixSeparators front ++ fixSeparators back :=
  List.map_append

theorem fixSeparators_ne_nil_iff
    {text : Text} :
    fixSeparators text ≠ [] ↔ text ≠ [] := by
  rw [fixSeparators_eq_map, ne_eq, List.map_eq_nil_iff]

theorem isSeparator_of_isAlpha
    {c : Char}
    (isLetter : c.isAlpha = true) :
    isSeparator c = false := by
  unfold isSeparator
  rw [Bool.or_eq_false_iff, beq_eq_false_iff_ne, beq_eq_false_iff_ne]
  constructor <;> rintro rfl <;> cases isLetter

/-- The root of a path in slashes is that of the path, in slashes. -/
theorem RootSplit.fixed
    {path start rest : Text}
    (split : RootSplit path start rest) :
    RootSplit (fixSeparators path) (fixSeparators start) (fixSeparators rest) := by
  have headKept :
      (∀ c ∈ rest.head?, isSeparator c = false) →
        ∀ c ∈ (fixSeparators rest).head?, isSeparator c = false := by
    intro behind c isHead
    rw [fixSeparators_eq_map, List.head?_map, Option.mem_def, Option.map_eq_some_iff] at isHead
    obtain ⟨d, isHead, rfl⟩ := isHead
    rw [isSeparator_fixChar]
    exact behind d isHead
  cases split with
  | slashed isLetter cuts =>
      simp only [fixSeparators_eq_map, List.map_cons, List.map_nil]
      rw [fixChar_of_kept (isSeparator_of_isAlpha isLetter)]
      exact .slashed isLetter (by rwa [isSeparator_fixChar]) _
  | drive isLetter behind =>
      simp only [fixSeparators_eq_map, List.map_cons, List.map_nil]
      rw [fixChar_of_kept (isSeparator_of_isAlpha isLetter)]
      exact .drive isLetter (headKept behind)
  | separators cut behind noDrive =>
      rw [fixSeparators_append]
      refine .separators (fun c inStart => ?_) (headKept behind) ?_
      · obtain ⟨d, isMember, rfl⟩ := List.mem_map.mp inStart
        rw [← fixChar, isSeparator_fixChar]
        exact cut d isMember
      · intro letter tail same
        rw [← fixSeparators_append, fixSeparators_eq_map, List.map_eq_cons_iff] at same
        obtain ⟨first, others, whole, isFirst, same⟩ := same
        obtain ⟨second, others, rfl, isSecond, -⟩ := List.map_eq_cons_iff.mp same
        have isColon : second = ':' := by
          cases isCut : isSeparator second with
          | true =>
              rw [fixChar, isCut, if_pos rfl] at isSecond
              cases isSecond
          | false =>
              rwa [fixChar_of_kept isCut] at isSecond
        cases isCut : isSeparator first with
        | true =>
            rw [fixChar, isCut, if_pos rfl] at isFirst
            rw [← isFirst]
            rfl
        | false =>
            rw [fixChar_of_kept isCut] at isFirst
            rw [← isFirst]
            exact noDrive first others (isColon ▸ whole)

theorem isRooted_iff
    {path : Text} :
    isRooted path = true ↔ writtenRoot path ≠ [] := by
  rw [isRooted, Bool.not_eq_true', List.isEmpty_eq_false_iff]

theorem isRooted_of_separator
    {c : Char}
    (cuts : isSeparator c = true)
    (rest : Text) :
    isRooted (c :: rest) = true := by
  have noDrive : NoDrive (c :: rest) := by
    intro letter tail same
    cases same
    by_contra isLetter
    rw [isSeparator_of_isAlpha (by simpa using isLetter)] at cuts
    cases cuts
  rw [isRooted_iff, (rootSplit_of_noDrive noDrive).writtenRoot_eq, List.takeWhile_cons, cuts]
  exact List.cons_ne_nil _ _

theorem isRooted_of_drive
    {letter : Char}
    (isLetter : letter.isAlpha = true)
    (rest : Text) :
    isRooted (letter :: ':' :: rest) = true := by
  cases rest with
  | nil =>
      simp [isRooted, writtenRoot, splitRoot, isLetter]
  | cons c tail =>
      cases isCut : isSeparator c <;> simp [isRooted, writtenRoot, splitRoot, isLetter, isCut]

/-- Whatever stands behind a root, there is a root. -/
theorem isRooted_writtenRoot_append
    {path : Text}
    (rooted : isRooted path = true)
    (behind : Text) :
    isRooted (writtenRoot path ++ behind) = true := by
  rw [isRooted_iff] at rooted
  have split := rootSplit path
  generalize writtenRoot path = start at *
  generalize afterRoot path = rest at *
  cases split with
  | slashed isLetter cuts =>
      exact isRooted_of_drive isLetter _
  | drive isLetter =>
      exact isRooted_of_drive isLetter _
  | separators cut =>
      obtain ⟨c, others, rfl⟩ := List.exists_cons_of_ne_nil rooted
      exact isRooted_of_separator (cut c List.mem_cons_self) _

theorem isRooted_append
    {path : Text}
    (rooted : isRooted path = true)
    (behind : Text) :
    isRooted (path ++ behind) = true := by
  rw [(rootSplit path).path_eq, List.append_assoc]
  exact isRooted_writtenRoot_append rooted _

theorem isRooted_fixSeparators
    {path : Text}
    (rooted : isRooted path = true) :
    isRooted (fixSeparators path) = true := by
  rw [isRooted_iff] at rooted ⊢
  rw [(rootSplit path).fixed.writtenRoot_eq, fixSeparators_eq_map]
  simpa using rooted

/-- The normal form of a root is a root, whatever stands behind it. -/
theorem isRooted_root_append
    {path : Text}
    (rooted : isRooted path = true)
    (behind : Text) :
    isRooted (root path ++ behind) = true := by
  have beginsRooted :
      ∀ letter tail behind,
        path = letter :: ':' :: tail → isRooted (letter :: ':' :: behind) = true := by
    intro letter tail behind same
    have split := rootSplit path
    rw [isRooted_iff] at rooted
    generalize writtenRoot path = start at *
    generalize afterRoot path = rest at *
    cases split with
    | slashed isLetter cuts =>
        cases same
        exact isRooted_of_drive isLetter behind
    | drive isLetter =>
        cases same
        exact isRooted_of_drive isLetter behind
    | separators cut =>
        obtain ⟨c, others, rfl⟩ := List.exists_cons_of_ne_nil rooted
        obtain ⟨rfl, -⟩ := List.cons.inj same
        exact isRooted_of_separator (cut c List.mem_cons_self) _
  unfold root
  split
  · rename_i noRoot
    exact absurd noRoot (isRooted_iff.mp rooted)
  · exact beginsRooted _ _ _ rfl
  · exact beginsRooted _ _ _ rfl
  · exact isRooted_of_separator rfl _

end Path

end RefExpand
