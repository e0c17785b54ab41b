import RefExpand.Text.Blank

namespace RefExpand

/-!
# Paths

Paths are texts and nothing here looks at a disk. Both slashes separate on the
way in; the forward slash separates on the way out. A path has a root if it
begins with separators or with a drive letter and a colon.
-/

namespace Path

/-- Either slash. -/
def isSeparator (c : Char) : Bool :=
  c == '/' || c == '\\'

/-- Write every separator as a forward slash. -/
def fixSeparators (path : Text) : Text :=
  path.map fun c => if isSeparator c then '/' else c

/-- Write every backslash as a forward slash. -/
def adjustSeparators (text : Text) : Text :=
  text.map fun c => if c == '\\' then '/' else c

/-- The root of a path as it is written, and what stands after it. -/
def splitRoot (path : Text) : Text × Text :=
  match path with
  | letter :: ':' :: rest =>
      if letter.isAlpha then
        match rest with
        | c :: tail => if isSeparator c then ([letter, ':', c], tail) else ([letter, ':'], rest)
        | [] => ([letter, ':'], [])
      else
        (path.takeWhile isSeparator, path.dropWhile isSeparator)
  | _ => (path.takeWhile isSeparator, path.dropWhile isSeparator)

/-- The root of a path as it is written. -/
def writtenRoot (path : Text) : Text :=
  (splitRoot path).1

/-- What stands after the root. -/
def afterRoot (path : Text) : Text :=
  (splitRoot path).2

/-- The path has a root. -/
def isRooted (path : Text) : Bool :=
  !(writtenRoot path).isEmpty

/-- The root in normal form: a slash, or the two characters of a drive and a slash if one is there. -/
def root (path : Text) : Text :=
  match writtenRoot path, path with
  | [], _ => []
  | [_, _, _], letter :: ':' :: _ => [letter, ':', '/']
  | _, letter :: ':' :: _ => [letter, ':']
  | _, _ => ['/']

/-- The path ends with a separator. -/
def endsWithSeparator (path : Text) : Bool :=
  path.getLast?.any isSeparator

/-- Put a path behind a base, unless it has a root or the base is empty. -/
def combine (base relative : Text) : Text :=
  if base.isEmpty || isRooted relative then relative
  else if relative.isEmpty then base
  else if endsWithSeparator base then base ++ relative
  else base ++ '/' :: relative

/-- Walk one segment: a stack of segments with the last on top. -/
def walk (rooted : Bool) (stack : List Text) (segment : Text) : List Text :=
  if segment.isEmpty || segment == ['.'] then stack
  else if segment == ['.', '.'] then
    match stack with
    | top :: below => if top == ['.', '.'] then segment :: stack else below
    | [] => if rooted then [] else [segment]
  else segment :: stack

/-- The segments that are left of a path after its root, its dots evaluated. -/
def walkedSegments (path : Text) : List Text :=
  let rooted := isRooted path
  ((Text.splitAtChars isSeparator (afterRoot path)).foldl (walk rooted) []).reverse

/-- The path with its dots evaluated and its separators made single. -/
def normalize (path : Text) : Text :=
  let segments := walkedSegments path
  let tail : Text := if !segments.isEmpty && endsWithSeparator path then ['/'] else []
  root path ++ Text.join ['/'] segments ++ tail

/-- The normalized path, read from a directory if it has no root. -/
def fullPath (path currentDirectory : Text) : Text :=
  normalize (combine currentDirectory path)

/-- The directory of a path; a bare root has none. -/
def directoryName? (path : Text) : Option Text :=
  let (start, rest) := splitRoot path
  if rest.isEmpty then
    if start.isEmpty then some [] else none
  else
    match Text.breakAtLast? isSeparator rest with
    | some (before, _) => some (fixSeparators (start ++ before.trimEndBy isSeparator))
    | none => some (fixSeparators start)

/-- The path up to its last separator, or its root. -/
def directoryWithSeparator (path : Text) : Text :=
  let directory := path.trimEndBy fun c => !isSeparator c
  if directory.isEmpty then writtenRoot path else directory

/-- What stands after the last separator and the root. -/
def fileName (path : Text) : Text :=
  match Text.breakAtLast? isSeparator (afterRoot path) with
  | some (_, name) => name
  | none => afterRoot path

/-- The last point of the file name and what follows it, if anything does. -/
def extension (path : Text) : Text :=
  match Text.breakAtLast? (· == '.') (fileName path) with
  | some (_, suffix) => if suffix.isEmpty then [] else '.' :: suffix
  | none => []

/-- The file name before its last point. -/
def fileStem (path : Text) : Text :=
  match Text.breakAtLast? (· == '.') (fileName path) with
  | some (stem, _) => stem
  | none => fileName path

/-- Replace the extension; an empty or absent one only drops the old one. -/
def changeExtension (path : Text) (newExtension : Option Text) : Text :=
  let name := fileName path
  let stem := path.take (path.length - name.length) ++ fileStem path
  match newExtension with
  | none | some [] => stem
  | some ('.' :: suffix) => stem ++ '.' :: suffix
  | some suffix => stem ++ '.' :: suffix

/-- Put a separator at the end unless there is one or the path is empty. -/
def ensureTrailingSlash (path : Text) : Text :=
  if path.isEmpty || endsWithSeparator path then path else path ++ ['/']

/-- The non-empty stretches between separators. -/
def segments (path : Text) : List Text :=
  (Text.splitAtChars isSeparator path).filter (!·.isEmpty)

/-- How many segments two rows have in common at the beginning. -/
def commonCount : List Text → List Text → Nat
  | left :: lefts, right :: rights => if left = right then commonCount lefts rights + 1 else 0
  | _, _ => 0

/-- The way from a base directory to a rooted path. -/
def makeRelative (base path currentDirectory : Text) : Text :=
  if base.isEmpty || !isRooted path then path
  else
    let fullBase := fullPath base currentDirectory
    let full := fullPath path currentDirectory
    if !Text.sameName (root fullBase) (root full) then full
    else
      let start := segments fullBase
      let goal := segments full
      let common := commonCount start goal
      if common = start.length ∧ common = goal.length then ['.']
      else if common = 0 then full
      else
        let ups := List.replicate (start.length - common) ['.', '.']
        let way := Text.join ['/'] (ups ++ goal.drop common)
        if endsWithSeparator path && !way.isEmpty then way ++ ['/'] else way

theorem splitRoot_append (path : Text) :
    (splitRoot path).1 ++ (splitRoot path).2 = path := by
  unfold splitRoot
  split
  · split
    · split
      · split <;> simp
      · simp
    · simp
  · simp

theorem breakAtLast?_length
    {p : Char → Bool} {text before after : Text}
    (found : Text.breakAtLast? p text = some (before, after)) :
    before.length < text.length := by
  have lengths :
      ∀ {text before after : Text}, Text.breakAt? p text = some (before, after) →
        before.length + after.length + 1 = text.length := by
    intro text
    induction text with
    | nil => simp [Text.breakAt?]
    | cons c rest inductionHypothesis =>
        intro before after found
        simp only [Text.breakAt?] at found
        split at found
        · simp only [Option.some.injEq, Prod.mk.injEq] at found
          simp [← found.1, ← found.2]
        · simp only [Option.map_eq_some_iff, Prod.mk.injEq, Prod.exists] at found
          obtain ⟨earlier, later, inRest, rfl, rfl⟩ := found
          have := inductionHypothesis inRest
          simp only [List.length_cons]
          omega
  simp only [Text.breakAtLast?, Option.map_eq_some_iff, Prod.mk.injEq, Prod.exists] at found
  obtain ⟨back, front, inReverse, rfl, rfl⟩ := found
  have := lengths inReverse
  simp only [List.length_reverse] at this ⊢
  omega

/-- A directory that is not empty is shorter than its path. -/
theorem directoryName?_length
    {path directory : Text}
    (found : directoryName? path = some directory)
    (nonempty : directory ≠ []) :
    directory.length < path.length := by
  have whole := congrArg List.length (splitRoot_append path)
  simp only [directoryName?] at found
  split at found
  · split at found
    · simp only [Option.some.injEq] at found
      exact absurd found.symm nonempty
    · cases found
  · rename_i notEmpty
    have rest : 0 < (splitRoot path).2.length := by
      rw [List.length_pos_iff]
      simpa using notEmpty
    simp only [List.length_append] at whole
    split at found
    · rename_i before after cut
      simp only [Option.some.injEq] at found
      subst found
      have := breakAtLast?_length cut
      have := (Text.trimEndBy_isPrefix isSeparator before).length_le
      simp only [fixSeparators, List.length_map, List.length_append]
      omega
    · simp only [Option.some.injEq] at found
      subst found
      simp only [fixSeparators, List.length_map]
      omega

/-- The directories above a path, nearest first, up to the root. -/
def ancestors (path : Text) : List Text :=
  match _found : directoryName? path with
  | none | some [] => []
  | some (c :: directory) => (c :: directory) :: ancestors (c :: directory)
termination_by path.length
decreasing_by
  exact directoryName?_length _found (by simp)

end Path

end RefExpand
