import RefExpand.Error
import RefExpand.Project.FileSystem
import RefExpand.Project.Item
import RefExpand.Project.WildcardPattern
import RefExpand.Text.Escaping

namespace RefExpand

/-!
# Item-spec modifiers

Metadata that is computed from the spec of an item: parts of its path, times of
its file, and parts of the path of the project that defines it. Results are
escaped.
-/

/-- The built-in metadata of items. -/
inductive SpecModifier where
  | fullPath
  | rootDir
  | filename
  | extension
  | relativeDir
  | directory
  | recursiveDir
  | identity
  | modifiedTime
  | createdTime
  | accessedTime
  | definingProjectFullPath
  | definingProjectDirectory
  | definingProjectName
  | definingProjectExtension
  deriving Repr, DecidableEq, Inhabited

namespace SpecModifier

/-- All modifiers. -/
def all : List SpecModifier :=
  [.fullPath, .rootDir, .filename, .extension, .relativeDir, .directory, .recursiveDir,
    .identity, .modifiedTime, .createdTime, .accessedTime, .definingProjectFullPath,
    .definingProjectDirectory, .definingProjectName, .definingProjectExtension]

/-- The name of a modifier. -/
def name : SpecModifier → Text
  | .fullPath => "FullPath"
  | .rootDir => "RootDir"
  | .filename => "Filename"
  | .extension => "Extension"
  | .relativeDir => "RelativeDir"
  | .directory => "Directory"
  | .recursiveDir => "RecursiveDir"
  | .identity => "Identity"
  | .modifiedTime => "ModifiedTime"
  | .createdTime => "CreatedTime"
  | .accessedTime => "AccessedTime"
  | .definingProjectFullPath => "DefiningProjectFullPath"
  | .definingProjectDirectory => "DefiningProjectDirectory"
  | .definingProjectName => "DefiningProjectName"
  | .definingProjectExtension => "DefiningProjectExtension"

/-- The modifier of a name, up to ASCII case. -/
def ofName? (name : Text) : Option SpecModifier :=
  all.find? fun modifier => Text.sameName modifier.name name

/-- The modifier asks the file system for a time. -/
def isTime : SpecModifier → Bool
  | .modifiedTime | .createdTime | .accessedTime => true
  | _ => false

/-- What a modifier is computed from. -/
structure Input where
  /-- The directory that relative specs are read from, if it is not the current one. -/
  directory : Option Text := none
  /-- The escaped spec. -/
  spec : Text
  definingProject : Option Text := none
  deriving Repr, DecidableEq

/-- The current directory, or the failure to find it. -/
def currentDirectory (fs : FileSystem) : Except ExpandError Text :=
  fs.currentDirectory.mapError fun failure => .fileSystem ['.'] failure.message

/-- The escaped full path of a spec. -/
def fullPathOf (input : Input) (fs : FileSystem) : Except ExpandError Text := do
  let plain := input.spec.unescape
  let base ←
    match input.directory with
    | some given => pure given
    | none => if Path.isRooted plain then pure [] else currentDirectory fs
  return (Path.fullPath plain base).escape

/-- The directory of a full path without its root, in forward slashes. -/
def directoryWithoutRoot (full : Text) : Text :=
  Path.fixSeparators (Path.afterRoot (Path.directoryWithSeparator full))

/-- The time that a time modifier asks for. -/
def timeOf (modifier : SpecModifier) (times : FileTimes) : Option DateTime :=
  match modifier with
  | .modifiedTime => times.modified
  | .createdTime => times.created
  | _ => times.accessed

/-- The text of a time of the file that a spec names; nothing if it is not known. -/
def fileTime (modifier : SpecModifier) (input : Input) (fs : FileSystem) :
    Except ExpandError Text := do
  let path := (← fullPathOf input fs).unescape
  match fs.times path with
  | .error failure => throw (.fileSystem path failure.message)
  | .ok times => return ((times.bind modifier.timeOf).map DateTime.fileTimeText).getD []

/-- Evaluate a modifier. -/
def evaluate (modifier : SpecModifier) (input : Input) (fs : FileSystem) :
    Except ExpandError Text :=
  let project := input.definingProject.map Text.escape
  match modifier with
  | .identity => .ok input.spec
  | .filename =>
      .ok (if Path.endsWithSeparator input.spec then [] else Path.fileStem input.spec)
  | .extension =>
      .ok (if Path.endsWithSeparator input.spec then [] else Path.extension input.spec)
  | .relativeDir => .ok (Path.fixSeparators (Path.directoryWithSeparator input.spec))
  | .recursiveDir => .ok []
  | .fullPath => fullPathOf input fs
  | .rootDir => (fullPathOf input fs).map Path.root
  | .directory => (fullPathOf input fs).map directoryWithoutRoot
  | .modifiedTime | .createdTime | .accessedTime => fileTime modifier input fs
  | .definingProjectFullPath => .ok (project.getD [])
  | .definingProjectDirectory =>
      .ok ((project.map fun path => Path.fixSeparators (Path.directoryWithSeparator path)).getD [])
  | .definingProjectName => .ok ((project.map Path.fileStem).getD [])
  | .definingProjectExtension => .ok ((project.map Path.extension).getD [])

end SpecModifier

namespace Item

/-- What the wildcard `**` of an item's written spec stands for in its spec. -/
def recursiveDir (item : Item) : Text :=
  if item.writtenSpec.hasWildcards then
    (WildcardPattern.split item.writtenSpec).recursivePart item.spec
  else
    []

/-- What the modifiers of an item are computed from. -/
def modifierInput (item : Item) : SpecModifier.Input :=
  { directory := item.directory, spec := item.spec, definingProject := item.definingProject }

/-- The escaped value of metadata of an item, built-in or its own. -/
def metadataValue (item : Item) (fs : FileSystem) (name : Text) : Except ExpandError Text :=
  match SpecModifier.ofName? name with
  | some .recursiveDir => .ok item.recursiveDir
  | some modifier => modifier.evaluate item.modifierInput fs
  | none => .ok ((item.customMetadata? name).getD [])

end Item

end RefExpand
