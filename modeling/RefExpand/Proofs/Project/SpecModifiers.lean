import RefExpand.Proofs.Project.EscapedPaths

namespace RefExpand

/-!
# Modifiers and escaping

What a modifier gives for the escaped form of a path is the escaped form of what the
path functions behind it give for the path itself, and a time is asked for under the
plain full path. So the parts of a full path can be compared as plain texts: its root,
its directory and its file name make it up, unless its root is taken for that of a drive.
-/

namespace SpecModifier

/-- The modifier reads the full path of a spec. -/
def readsFullPath : SpecModifier → Bool
  | .fullPath | .rootDir | .directory => true
  | modifier => modifier.isTime

/-- The directory that a path is read from: the given one, or the current one if it has no root. -/
def baseOf (directory : Option Text) (path : Text) (fs : FileSystem) : Except ExpandError Text :=
  match directory with
  | some given => .ok given
  | none => if Path.isRooted path then .ok [] else currentDirectory fs

/-- The directory that a modifier reads a path from, if it reads the full path at all. -/
def baseFor (modifier : SpecModifier) (directory : Option Text) (path : Text) (fs : FileSystem) :
    Except ExpandError Text :=
  if modifier.readsFullPath then baseOf directory path fs else .ok []

/-- What the path functions behind a modifier give for a path that is not escaped. -/
def plainValue (modifier : SpecModifier) (path base : Text) (project : Option Text) : Text :=
  let full := Path.fullPath path base
  match modifier with
  | .identity => path
  | .filename => if Path.endsWithSeparator path then [] else Path.fileStem path
  | .extension => if Path.endsWithSeparator path then [] else Path.extension path
  | .relativeDir => Path.fixSeparators (Path.directoryWithSeparator path)
  | .fullPath => full
  | .rootDir => Path.root full
  | .directory => directoryWithoutRoot full
  | .definingProjectFullPath => project.getD []
  | .definingProjectDirectory =>
      (project.map fun file => Path.fixSeparators (Path.directoryWithSeparator file)).getD []
  | .definingProjectName => (project.map Path.fileStem).getD []
  | .definingProjectExtension => (project.map Path.extension).getD []
  | .recursiveDir | .modifiedTime | .createdTime | .accessedTime => []

section FullPath

variable {fs : FileSystem}

/-- The escaped full path of a spec is read from the plain spec. -/
theorem fullPathOf_eq
    (input : Input) :
    fullPathOf input fs =
      (baseOf input.directory input.spec.unescape fs).map fun base =>
        (Path.fullPath input.spec.unescape base).escape := by
  unfold fullPathOf baseOf
  cases input.directory with
  | some given =>
      rfl
  | none =>
      dsimp only
      split
      · rfl
      · cases currentDirectory fs <;> rfl

/-- The text of a time of a file. -/
theorem fileTime_eq
    (modifier : SpecModifier)
    (input : Input) :
    fileTime modifier input fs =
      (baseOf input.directory input.spec.unescape fs).bind fun base =>
        let path := Path.fullPath input.spec.unescape base
        match fs.times path with
        | .error failure => .error (.fileSystem path failure.message)
        | .ok times => .ok (((times.bind modifier.timeOf).map DateTime.fileTimeText).getD []) := by
  rw [fileTime, fullPathOf_eq]
  cases baseOf input.directory input.spec.unescape fs with
  | error failure =>
      rfl
  | ok base =>
      simp only [Except.map, Except.bind, bind, Text.unescape_escape]
      cases fs.times (Path.fullPath input.spec.unescape base) <;> rfl

end FullPath

section Escaping

variable {path : Text} {directory project : Option Text} {fs : FileSystem}

theorem fullPathOf_escape :
    fullPathOf { directory, spec := path.escape, definingProject := project } fs =
      (baseOf directory path fs).map fun base => (Path.fullPath path base).escape := by
  rw [fullPathOf_eq, Text.unescape_escape]

/-- A part of the escaped path of a project is the part of the path, escaped. -/
theorem part_of_project
    {part : Text → Text}
    (commutes : ∀ file, part (Text.escape file) = Text.escape (part file)) :
    ((project.map Text.escape).map part).getD [] = Text.escape ((project.map part).getD []) := by
  cases project with
  | none =>
      rfl
  | some file =>
      exact commutes file

/-- Evaluated on an escaped path a modifier that asks for no time gives its plain value, escaped. -/
theorem evaluate_escape
    {modifier : SpecModifier}
    (noTime : modifier.isTime = false) :
    modifier.evaluate { directory, spec := path.escape, definingProject := project } fs =
      (modifier.baseFor directory path fs).map fun base =>
        (modifier.plainValue path base project).escape := by
  unfold evaluate plainValue
  cases modifier with
  | identity | recursiveDir =>
      rfl
  | filename =>
      dsimp only
      rw [Path.endsWithSeparator_escape, Path.fileStem_escape, ← Text.escape_nil, ← apply_ite]
      rfl
  | extension =>
      dsimp only
      rw [Path.endsWithSeparator_escape, Path.extension_escape, ← Text.escape_nil, ← apply_ite]
      rfl
  | relativeDir =>
      dsimp only
      rw [Path.directoryWithSeparator_escape, Path.fixSeparators_escape]
      rfl
  | fullPath =>
      exact fullPathOf_escape
  | rootDir =>
      dsimp only
      rw [fullPathOf_escape]
      cases found : baseOf directory path fs <;>
        simp [baseFor, readsFullPath, found, Except.map, Path.root_escape]
  | directory =>
      dsimp only
      rw [fullPathOf_escape]
      cases found : baseOf directory path fs <;>
        simp [baseFor, readsFullPath, found, Except.map, Path.directoryWithoutRoot_escape]
  | definingProjectFullPath =>
      cases project <;> rfl
  | definingProjectDirectory =>
      refine congrArg Except.ok (part_of_project fun file => ?_)
      rw [Path.directoryWithSeparator_escape, Path.fixSeparators_escape]
  | definingProjectName =>
      exact congrArg Except.ok (part_of_project Path.fileStem_escape)
  | definingProjectExtension =>
      exact congrArg Except.ok (part_of_project Path.extension_escape)
  | modifiedTime | createdTime | accessedTime =>
      cases noTime

/-- A modifier that asks for a time asks for it under the plain full path. -/
theorem evaluate_escape_of_isTime
    {modifier : SpecModifier}
    (isTime : modifier.isTime = true) :
    modifier.evaluate { directory, spec := path.escape, definingProject := project } fs =
      (modifier.baseFor directory path fs).bind fun base =>
        match fs.times (Path.fullPath path base) with
        | .error failure => .error (.fileSystem (Path.fullPath path base) failure.message)
        | .ok times =>
            .ok (((times.bind modifier.timeOf).map DateTime.fileTimeText).getD []) := by
  cases modifier with
  | modifiedTime | createdTime | accessedTime =>
      change fileTime _ _ fs = _
      rw [fileTime_eq, Text.unescape_escape]
      rfl
  | _ =>
      cases isTime

/--
On an escaped path a modifier that asks for no time gives an escaped text, and read back
that is what its path functions give for the path itself. A modifier that asks for a
time asks for it under the plain full path. Either fails if there is no directory to read
a relative path from, and then only if it reads the full path.
-/
theorem modifiers_commute_with_escaping
    (modifier : SpecModifier)
    (path : Text)
    (directory project : Option Text)
    (fs : FileSystem) :
    let input : Input := { directory, spec := path.escape, definingProject := project }
    match modifier.baseFor directory path fs with
    | .error failure => modifier.evaluate input fs = .error failure
    | .ok base =>
        if modifier.isTime then
          modifier.evaluate input fs =
            match fs.times (Path.fullPath path base) with
            | .error failure => .error (.fileSystem (Path.fullPath path base) failure.message)
            | .ok times =>
                .ok (((times.bind modifier.timeOf).map DateTime.fileTimeText).getD [])
        else
          ∃ value, modifier.evaluate input fs = .ok value ∧
            value.unescape.escape = value ∧
            value.unescape = modifier.plainValue path base project := by
  intro input
  cases isTime : modifier.isTime with
  | true =>
      have evaluated : modifier.evaluate input fs = _ :=
        evaluate_escape_of_isTime isTime
      cases found : modifier.baseFor directory path fs with
      | error failure =>
          rw [found] at evaluated
          exact evaluated
      | ok base =>
          rw [found] at evaluated
          exact evaluated
  | false =>
      have evaluated : modifier.evaluate input fs = _ :=
        evaluate_escape isTime
      cases found : modifier.baseFor directory path fs with
      | error failure =>
          rw [found] at evaluated
          exact evaluated
      | ok base =>
          rw [found] at evaluated
          have readBack := Text.unescape_escape (modifier.plainValue path base project)
          exact ⟨_, evaluated, congrArg Text.escape readBack, readBack⟩

example :
    filename.evaluate { spec := "b%3B/%252A%2A.%40.txt" } ({} : ListedFiles).toFileSystem =
      .ok (Text.escape (filename.plainValue "b;/%2A*.@.txt" [] none)) := by
  decide +kernel

end Escaping

section Parts

/--
The root and the directory of a spec and the file name of its full path make up the full
path, unless that begins with a separator and a colon: its root is then taken for that
of a drive.
-/
theorem fullPath_parts_iff
    {input : Input}
    {fs : FileSystem}
    {full : Text}
    (isFull : evaluate .fullPath input fs = .ok full) :
    ∃ rootDir directory,
      evaluate .rootDir input fs = .ok rootDir ∧ evaluate .directory input fs = .ok directory ∧
        (rootDir ++ directory ++ Path.fileName full = full ↔ ¬ Path.FalseDrive full) := by
  have found : fullPathOf input fs = .ok full :=
    isFull
  refine
    ⟨Path.root full, directoryWithoutRoot full, congrArg (Except.map Path.root) found,
      congrArg (Except.map directoryWithoutRoot) found, ?_⟩
  rw [fullPathOf_eq] at found
  cases based : baseOf input.directory input.spec.unescape fs with
  | error failure =>
      rw [based] at found
      cases found
  | ok base =>
      rw [based] at found
      cases found
      -- The full path is an escaped normal form, and its parts are those of the form, escaped.
      rw [Path.root_escape, Path.directoryWithoutRoot_escape, Path.fileName_escape,
        ← Text.escape_append, ← Text.escape_append, Text.escape_injective.eq_iff,
        Path.falseDrive_escape_iff]
      exact Path.parts_of_normalize_iff _

/-- Dots and separators in a row are gone from the full path, and escaped characters are kept. -/
theorem fullPath_parts_on_drive :
    let input : Input := { directory := some "C:\\base\\.", spec := "sub%3B\\../C%24//x.cs" }
    let fs := ({} : ListedFiles).toFileSystem
    let full : Text := "C:/base/C%24/x.cs"
    evaluate .fullPath input fs = .ok full ∧
      ∃ rootDir directory,
        evaluate .rootDir input fs = .ok rootDir ∧ evaluate .directory input fs = .ok directory ∧
          rootDir ++ directory ++ Path.fileName full = full := by
  intro input fs full
  have isFull : evaluate .fullPath input fs = .ok full := by
    decide +kernel
  have noDrive : ¬ Path.FalseDrive full :=
    Path.not_falseDrive_of_isAlpha rfl _
  obtain ⟨rootDir, directory, isRoot, isDirectory, whole⟩ := fullPath_parts_iff isFull
  exact ⟨isFull, rootDir, directory, isRoot, isDirectory, whole.mpr noDrive⟩

/-- A file name that begins with a colon right behind the root takes the root for a drive. -/
theorem not_every_fullPath_has_its_parts :
    ¬ ∀ input fs full rootDir directory,
      evaluate .fullPath input fs = .ok full → evaluate .rootDir input fs = .ok rootDir →
        evaluate .directory input fs = .ok directory →
          rootDir ++ directory ++ Path.fileName full = full := by
  intro claimed
  have made :=
    claimed { spec := "//:a" } ({} : ListedFiles).toFileSystem "/:a" "/:" [] (by decide +kernel)
      (by decide +kernel) (by decide +kernel)
  revert made
  decide +kernel

end Parts

end SpecModifier

end RefExpand
