import RefExpand.Library.Intrinsics
import RefExpand.Proofs.Project.Directories

namespace RefExpand

/-!
# The nearest file above

From the current directory, if that has a root, any starting directory leads up to a
root. The search for a file goes this way and ends at the first directory that holds
it; it gives the empty text exactly if none does, since no directory on the way is
empty.
-/

/-- The first directory of a way that holds a file, or the empty text. -/
structure FileSystem.IsNearest
    (fs : FileSystem)
    (file : Text)
    (way : List Text)
    (nearest : Text) :
    Prop where
  holds :
    nearest ≠ [] →
      ∃ nearer farther,
        way = nearer ++ nearest :: farther ∧
          fs.fileExists (Path.combine nearest file) = true ∧
          ∀ directory ∈ nearer, fs.fileExists (Path.combine directory file) = false
  nowhere :
    nearest = [] ↔ ∀ directory ∈ way, fs.fileExists (Path.combine directory file) = false

namespace Path

theorem isRooted_combine
    {base : Text}
    (rooted : isRooted base = true)
    (relative : Text) :
    isRooted (combine base relative) = true := by
  have written : base.isEmpty = false := by
    cases base with
    | nil =>
        cases rooted
    | cons c rest =>
        rfl
  rw [combine, written, Bool.false_or]
  split
  · assumption
  · split
    · exact rooted
    · split <;> exact isRooted_append rooted _

theorem isRooted_normalize
    {path : Text}
    (rooted : isRooted path = true) :
    isRooted (normalize path) = true := by
  rw [normalize_eq, List.append_assoc]
  exact isRooted_root_append rooted _

theorem ne_nil_of_isRooted
    {path : Text}
    (rooted : isRooted path = true) :
    path ≠ [] := by
  rintro rfl
  cases rooted

end Path

namespace Intrinsics

theorem isRooted_dropTrailingSeparator
    {path : Text}
    (rooted : Path.isRooted path = true) :
    Path.isRooted (dropTrailingSeparator path) = true := by
  unfold dropTrailingSeparator
  split
  · rename_i drops
    rw [Bool.and_eq_true, Bool.not_eq_true', List.isEmpty_eq_false_iff] at drops
    rw [(Path.rootSplit path).path_eq, List.dropLast_append_of_ne_nil drops.2]
    exact Path.isRooted_writtenRoot_append rooted _
  · exact rooted

/-- From a directory with a root the search gives the nearest that holds the file. -/
theorem isNearest_directoryHolding
    (fs : FileSystem)
    (file : Text)
    {directory : Text}
    (rooted : Path.isRooted directory = true) :
    fs.IsNearest file (directory :: Path.ancestors directory)
      (directoryHolding fs file directory) := by
  have written : ∀ above ∈ directory :: Path.ancestors directory, above ≠ [] :=
    List.forall_mem_cons.mpr
      ⟨Path.ne_nil_of_isRooted rooted, fun _ isAncestor => Path.ne_nil_of_mem_ancestors isAncestor⟩
  unfold directoryHolding
  dsimp only
  generalize directory :: Path.ancestors directory = way at written
  cases found : way.find? fun candidate => fs.fileExists (Path.combine candidate file) with
  | none =>
      rw [List.find?_eq_none] at found
      refine
        { holds := fun isFound => absurd rfl isFound
          nowhere := iff_of_true rfl fun directory onWay => ?_ }
      simpa using found directory onWay
  | some nearest =>
      obtain ⟨holdsFile, nearer, farther, rfl, passed⟩ := List.find?_eq_some_iff_append.mp found
      have onWay : nearest ∈ nearer ++ nearest :: farther := by
        simp
      refine
        { holds := fun _ => ⟨nearer, farther, rfl, holdsFile, fun directory isNearer => ?_⟩
          nowhere := iff_of_false (written nearest onWay) fun nowhere => ?_ }
      · simpa using passed directory isNearer
      · rw [nowhere nearest onWay] at holdsFile
        cases holdsFile

section Search

variable {surroundings : Surroundings} {currentDirectory : Text}

theorem directoryOfFileAbove_eq
    {call : Invocation}
    (found : call.surroundings.currentDirectory = .ok currentDirectory)
    (start file : Text) :
    directoryOfFileAbove call start file =
      .ok (directoryHolding call.surroundings.fileSystem file
        (dropTrailingSeparator (Path.fullPath start currentDirectory))) := by
  rw [directoryOfFileAbove, found]
  rfl

theorem getDirectoryNameOfFileAbove_eq
    {call : Invocation}
    (found : call.surroundings.currentDirectory = .ok currentDirectory)
    {start file : Text}
    (isStart : call.textOrEmpty 0 = .ok start)
    (isFile : call.text 1 = .ok file) :
    getDirectoryNameOfFileAbove call =
      .ok (.str (directoryHolding call.surroundings.fileSystem file
        (dropTrailingSeparator (Path.fullPath start currentDirectory)))) := by
  rw [getDirectoryNameOfFileAbove, isStart, isFile]
  change (directoryOfFileAbove call start file >>= _) = _
  rw [directoryOfFileAbove_eq found]
  rfl

/-- A name without directories is looked for, and joined to the directory that holds it. -/
theorem getPathOfFileAbove_eq
    {call : Invocation}
    (found : call.surroundings.currentDirectory = .ok currentDirectory)
    {file start : Text}
    (isFile : call.text 0 = .ok file)
    (isName : Path.fileName file = file)
    (isStart :
      (if call.count = 1 then call.surroundings.startingDirectory else call.textOrEmpty 1) =
        .ok start) :
    let nearest :=
      directoryHolding call.surroundings.fileSystem file
        (dropTrailingSeparator (Path.fullPath start currentDirectory))
    getPathOfFileAbove call =
      .ok (.str (if nearest = [] then [] else Path.normalize (Path.combine nearest file))) := by
  intro nearest
  have searched : directoryOfFileAbove call start file = .ok nearest :=
    directoryOfFileAbove_eq found start file
  have ending :
      (do
        let directory ← directoryOfFileAbove call start file
        if directory.isEmpty then return Value.str []
        else return Value.str (Path.normalize (Path.combine directory file))) =
        .ok (.str (if nearest = [] then [] else Path.normalize (Path.combine nearest file))) := by
    rw [searched]
    change (if nearest.isEmpty = true then _ else _) = _
    simp only [List.isEmpty_iff]
    split <;> rfl
  rw [getPathOfFileAbove, isFile]
  change (if Path.fileName file ≠ file then _ else _) = _
  rw [if_neg (not_not_intro isName)]
  by_cases alone : call.count = 1
  · rw [if_pos alone] at isStart
    rw [if_pos alone, isStart]
    exact ending
  · rw [if_neg alone] at isStart
    rw [if_neg alone, isStart]
    exact ending

/--
From a current directory with a root any start leads up to a root, and the search ends:
it gives the first directory on the way that holds the file, and the empty text
exactly if none does. The path of a file that is named without directories is the
normal form of the name in that directory, or empty; if no start is given, the search
starts from the directory of the expression.
-/
theorem file_above_is_nearest
    (found : surroundings.currentDirectory = .ok currentDirectory)
    (rooted : Path.isRooted currentDirectory = true)
    (start file : Text) :
    ∃ way nearest,
      Path.WayUp (dropTrailingSeparator (Path.fullPath start currentDirectory)) way ∧
        surroundings.fileSystem.IsNearest file way nearest ∧
        getDirectoryNameOfFileAbove { arguments := [.str start, .str file], surroundings } =
          .ok (.str nearest) ∧
        (Path.fileName file = file →
          let path := if nearest = [] then [] else Path.normalize (Path.combine nearest file)
          getPathOfFileAbove { arguments := [.str file, .str start], surroundings } =
              .ok (.str path) ∧
            (surroundings.startingDirectory = .ok start →
              getPathOfFileAbove { arguments := [.str file], surroundings } =
                .ok (.str path))) := by
  have startRooted :
      Path.isRooted (dropTrailingSeparator (Path.fullPath start currentDirectory)) = true :=
    isRooted_dropTrailingSeparator (Path.isRooted_normalize (Path.isRooted_combine rooted start))
  refine
    ⟨_, _, Path.wayUp_ancestors startRooted,
      isNearest_directoryHolding surroundings.fileSystem file startRooted, ?_,
      fun isName => ⟨?_, ?_⟩⟩
  · exact getDirectoryNameOfFileAbove_eq found rfl rfl
  · exact getPathOfFileAbove_eq found rfl isName rfl
  · exact fun isStart => getPathOfFileAbove_eq found rfl isName isStart

/-- From a start with dots and a slash at its end the file is found two directories up. -/
theorem file_above_is_nearest_in_repository :
    let files : ListedFiles :=
      { currentDirectory := "/repo"
        files := [("/repo/build.props", []), ("/build.props", [])]
        directories := ["/repo/src/build.props"] }
    let surroundings : Surroundings :=
      { host := { now := default, freshId := fun _ => [] }, fileSystem := files.toFileSystem }
    let start : Text := "tools/..//src/lib/"
    let file : Text := "build.props"
    surroundings.currentDirectory = .ok "/repo" ∧ Path.isRooted "/repo" = true ∧
      getDirectoryNameOfFileAbove { arguments := [.str start, .str file], surroundings } =
        .ok (.str "/repo") ∧
      getPathOfFileAbove { arguments := [.str file, .str start], surroundings } =
        .ok (.str "/repo/build.props") ∧
      ∃ way,
        Path.WayUp "/repo/src/lib" way ∧
          surroundings.fileSystem.IsNearest file way "/repo" := by
  intro files surroundings start file
  have found : surroundings.currentDirectory = .ok "/repo" := by
    rfl
  have rooted : Path.isRooted "/repo" = true := by
    decide
  have isName : Path.fileName file = file := by
    decide +kernel
  have startsAt : dropTrailingSeparator (Path.fullPath start "/repo") = "/repo/src/lib" := by
    decide +kernel
  obtain ⟨way, nearest, wayUp, isNearest, directory, path⟩ :=
    file_above_is_nearest found rooted start file
  have inRepository :
      getDirectoryNameOfFileAbove { arguments := [.str start, .str file], surroundings } =
        .ok (.str "/repo") := by
    have isStart :
        Invocation.textOrEmpty { arguments := [.str start, .str file], surroundings } 0 =
          .ok start := by
      rfl
    have holding : directoryHolding surroundings.fileSystem file "/repo/src/lib" = "/repo" := by
      decide +kernel
    rw [getDirectoryNameOfFileAbove_eq found isStart rfl, startsAt]
    exact congrArg (Except.ok ∘ Value.str) holding
  rw [inRepository] at directory
  cases directory
  rw [startsAt] at wayUp
  exact ⟨found, rooted, inRepository, (path isName).1, way, wayUp, isNearest⟩

end Search

end Intrinsics

end RefExpand
