import RefExpand.Proofs.Project.PathParts

namespace RefExpand

/-!
# Directories that a wildcard stands for

A pattern is cut before the segment of its first wildcard and a file behind its last
separator. What lies between is what two stars with a slash stand for, and behind it the
directories that the pattern names after them. So it is what the stars stand for exactly
if the pattern names no directory after them.
-/

namespace Path

/-- What a tail adds to the directory of a path, behind the directories in front of it. -/
def tailDirectory (front tail : Text) : Text :=
  if front = [] then directoryWithSeparator tail else throughSeparator tail

/-- Behind other directories the directory of a path goes on up to the last separator. -/
theorem directoryWithSeparator_append
    {front : Text}
    (leads : front = [] ∨ endsWithSeparator front = true)
    (tail : Text) :
    directoryWithSeparator (front ++ tail) = front ++ tailDirectory front tail := by
  by_cases alone : front = []
  · rw [tailDirectory, if_pos alone, alone]
    rfl
  · have cut : throughSeparator (front ++ tail) = front ++ throughSeparator tail := by
      rw [throughSeparator_append]
      by_cases nothing : throughSeparator tail = []
      · rw [if_pos nothing, nothing, throughSeparator_of_ends leads, List.append_nil]
      · rw [if_neg nothing]
    change
      (if (throughSeparator (front ++ tail)).isEmpty then writtenRoot (front ++ tail)
        else throughSeparator (front ++ tail)) = _
    rw [cut, List.isEmpty_eq_false_iff.mpr (List.append_ne_nil_of_left_ne_nil alone _),
      tailDirectory, if_neg alone]
    rfl

/-- A path has no directory exactly if it has neither a root nor a separator. -/
theorem directoryWithSeparator_eq_nil_iff
    {path : Text} :
    directoryWithSeparator path = [] ↔
      (∀ c ∈ path, isSeparator c = false) ∧ isRooted path = false := by
  rw [directoryWithSeparator_eq, List.append_eq_nil_iff, throughSeparator_eq_nil_iff,
    ← Bool.not_eq_true, isRooted_iff, not_not]
  constructor
  · rintro ⟨noRoot, free⟩
    refine ⟨?_, noRoot⟩
    rw [(rootSplit path).path_eq, noRoot]
    exact free
  · rintro ⟨free, noRoot⟩
    refine ⟨noRoot, fun c isMember => free c ?_⟩
    rw [(rootSplit path).path_eq]
    exact List.mem_append_right _ isMember

/-- A tail adds nothing if it holds no separator, nor a root where nothing comes before it. -/
theorem tailDirectory_eq_nil_iff
    {front tail : Text} :
    tailDirectory front tail = [] ↔
      (∀ c ∈ tail, isSeparator c = false) ∧ (front = [] → isRooted tail = false) := by
  unfold tailDirectory
  split
  · rename_i alone
    rw [directoryWithSeparator_eq_nil_iff, forall_prop_of_true alone]
  · rename_i behind
    rw [throughSeparator_eq_nil_iff, and_iff_left fun alone => absurd alone behind]

/-- Directories in front of directories are directories. -/
theorem leads_append
    {front back : Text}
    (frontLeads : front = [] ∨ endsWithSeparator front = true)
    (backLeads : back = [] ∨ endsWithSeparator back = true) :
    front ++ back = [] ∨ endsWithSeparator (front ++ back) = true := by
  by_cases nothing : back = []
  · rwa [nothing, List.append_nil]
  · rw [endsWithSeparator_append front nothing]
    exact .inr (backLeads.resolve_left nothing)

end Path

namespace WildcardPattern

/-- A pattern is cut where its first wildcard begins a segment. -/
theorem split_of_isWildcard
    {fixed : Text}
    (plain : ∀ c ∈ fixed, isWildcard c = false)
    (leads : fixed = [] ∨ Path.endsWithSeparator fixed = true)
    {wild : Char}
    (isWild : isWildcard wild = true)
    (rest : Text) :
    split (fixed ++ wild :: rest) = { fixed, wildcard := wild :: rest } := by
  have front : (fixed ++ wild :: rest).takeWhile (fun c => !isWildcard c) = fixed := by
    rw [List.takeWhile_append_of_pos fun c isMember => by rw [plain c isMember]; rfl,
      List.takeWhile_cons_of_neg (by rw [isWild]; decide), List.append_nil]
  have cut : Text.trimEndBy (fun c => !Path.isSeparator c) fixed = fixed :=
    Path.throughSeparator_of_ends leads
  rw [split, front, cut, List.drop_left]

/-- What lies below the fixed directory of a pattern is written in slashes. -/
theorem recursivePart_of_below
    {pattern : WildcardPattern}
    {file below : Text}
    (isBelow : Path.directoryWithSeparator file = pattern.fixed ++ below) :
    pattern.recursivePart file = Path.fixSeparators below := by
  rw [recursivePart, isBelow, Path.fixSeparators_append, List.take_left, List.drop_left, if_pos]
  refine ⟨?_, beq_self_eq_true _⟩
  rw [List.length_append]
  exact Nat.le_add_right _ _

end WildcardPattern

namespace Item

/--
For an item from a pattern with two stars and a slash, `RecursiveDir` is what these stand
for and behind it the directory of the tail that follows them. It is what they stand for
alone exactly if the tail holds no separator, nor begins with a drive where nothing
comes before it.
-/
theorem recursiveDir_of_doubleStar
    {fixed walked tail : Text}
    {item : Item}
    (fixedPlain : ∀ c ∈ fixed, WildcardPattern.isWildcard c = false)
    (fixedLeads : fixed = [] ∨ Path.endsWithSeparator fixed = true)
    (walkedLeads : walked = [] ∨ Path.endsWithSeparator walked = true)
    (isSpec : item.spec = fixed ++ walked ++ tail)
    (isPattern : item.patternSpec = some (fixed ++ '*' :: '*' :: '/' :: tail))
    (fs : FileSystem) :
    let behind := Path.tailDirectory (fixed ++ walked) tail
    ∃ value, item.metadataValue fs "RecursiveDir" = .ok value ∧
      value = Path.fixSeparators walked ++ Path.fixSeparators behind ∧
      (value = Path.fixSeparators walked ↔
        (∀ c ∈ tail, Path.isSeparator c = false) ∧
          (fixed ++ walked = [] → Path.isRooted tail = false)) := by
  intro behind
  have isWritten : item.writtenSpec = fixed ++ '*' :: '*' :: '/' :: tail := by
    rw [writtenSpec, isPattern]
    rfl
  have wild : item.writtenSpec.hasWildcards = true := by
    rw [isWritten, Text.hasWildcards, List.any_append]
    simp
  have isDirectory :
      Path.directoryWithSeparator item.spec = fixed ++ (walked ++ behind) := by
    rw [isSpec, Path.directoryWithSeparator_append (Path.leads_append fixedLeads walkedLeads),
      List.append_assoc]
  have value :
      item.recursiveDir = Path.fixSeparators walked ++ Path.fixSeparators behind := by
    rw [recursiveDir, if_pos wild, isWritten,
      WildcardPattern.split_of_isWildcard fixedPlain fixedLeads rfl,
      WildcardPattern.recursivePart_of_below isDirectory, Path.fixSeparators_append]
  refine ⟨item.recursiveDir, rfl, value, ?_⟩
  rw [value, List.append_right_eq_self, Path.fixSeparators_eq_map, List.map_eq_nil_iff]
  exact Path.tailDirectory_eq_nil_iff

/-- Directories below a fixed one are found again, written in slashes. -/
theorem recursiveDir_of_doubleStar_below_source :
    let fixed : Text := "src\\"
    let walked : Text := "a%3Bb\\c/"
    let tail : Text := "x.cs"
    let item : Item :=
      { itemType := "Compile", spec := "src\\a%3Bb\\c/x.cs", patternSpec := some "src\\**/x.cs" }
    (∀ c ∈ fixed, WildcardPattern.isWildcard c = false) ∧
      Path.endsWithSeparator fixed = true ∧ Path.endsWithSeparator walked = true ∧
      item.spec = fixed ++ walked ++ tail ∧
      item.metadataValue ({} : ListedFiles).toFileSystem "RecursiveDir" = .ok "a%3Bb/c/" := by
  intro fixed walked tail item
  have fixedPlain : ∀ c ∈ fixed, WildcardPattern.isWildcard c = false :=
    Text.forall_mem_of_all rfl
  have fixedLeads : Path.endsWithSeparator fixed = true := by
    decide
  have walkedLeads : Path.endsWithSeparator walked = true := by
    decide
  have isSpec : item.spec = fixed ++ walked ++ tail := by
    decide
  obtain ⟨value, isValue, -, isWalked⟩ :=
    recursiveDir_of_doubleStar fixedPlain (.inr fixedLeads) (.inr walkedLeads) isSpec rfl
      ({} : ListedFiles).toFileSystem
  refine ⟨fixedPlain, fixedLeads, walkedLeads, isSpec, isValue.trans (congrArg Except.ok ?_)⟩
  rw [isWalked.mpr ⟨Text.forall_mem_of_all rfl, nofun⟩]
  decide

/-- Directories that the pattern names behind the stars are taken for what they stand for. -/
theorem not_every_recursiveDir_walked :
    ¬ ∀ (fixed walked tail : Text) (item : Item) (fs : FileSystem),
      (∀ c ∈ fixed, WildcardPattern.isWildcard c = false) →
      (fixed = [] ∨ Path.endsWithSeparator fixed = true) →
      (walked = [] ∨ Path.endsWithSeparator walked = true) →
      item.spec = fixed ++ walked ++ tail →
      item.patternSpec = some (fixed ++ '*' :: '*' :: '/' :: tail) →
        item.metadataValue fs "RecursiveDir" = .ok (Path.fixSeparators walked) := by
  intro claimed
  have made :=
    claimed "src/" "a/" "lib/x.cs"
      { itemType := "Compile", spec := "src/a/lib/x.cs", patternSpec := some "src/**/lib/x.cs" }
      ({} : ListedFiles).toFileSystem (Text.forall_mem_of_all rfl) (by decide) (by decide) rfl rfl
  revert made
  decide +kernel

end Item

end RefExpand
