import RefExpand.Value.DateTime

namespace RefExpand

/-!
# File systems

What an expansion may ask of a file system, as a record of functions. The
simplest one is a list of files, directories and times with exact paths.
-/

/-- The kinds of failures of a file system that callers tell apart. -/
inductive IoKind where
  | notFound
  | notADirectory
  | isADirectory
  | invalidInput
  | invalidData
  | invalidFilename
  | other
  deriving Repr, DecidableEq

/-- A failure of a file system: its kind and its wording. -/
structure IoFailure where
  kind : IoKind
  message : Text
  deriving Repr, DecidableEq

/-- The times of a file, as far as they are known. -/
structure FileTimes where
  modified : Option DateTime := none
  created : Option DateTime := none
  accessed : Option DateTime := none
  deriving Repr, DecidableEq

/-- The questions an expansion asks. -/
structure FileSystem where
  fileExists : Text → Bool
  directoryExists : Text → Bool
  read : Text → Except IoFailure Text
  times : Text → Except IoFailure (Option FileTimes)
  currentDirectory : Except IoFailure Text
  matchWildcards : (base pattern : Text) → Except IoFailure (List Text)

namespace FileSystem

/-- A file or a directory is there. -/
def pathExists (fs : FileSystem) (path : Text) : Bool :=
  fs.fileExists path || fs.directoryExists path

end FileSystem

/-- The operations of a file system that can be made to fail. -/
inductive FallibleOperation where
  | read
  | times
  | currentDirectory
  | wildcards
  deriving Repr, DecidableEq

/-- The name of an operation in the wording of its failure. -/
def FallibleOperation.text : FallibleOperation → Text
  | .read => "read"
  | .times => "times"
  | .currentDirectory => "cwd"
  | .wildcards => "wildcards"

/-- A file system given by lists; every path stands for itself and nothing is implied. -/
structure ListedFiles where
  currentDirectory : Text := "/cwd"
  files : List (Text × Text) := []
  directories : List Text := []
  times : List (Text × FileTimes) := []
  /-- What patterns match, under the base directory and the pattern with a bar between. -/
  wildcards : List (Text × List Text) := []
  failing : List FallibleOperation := []
  deriving Repr

namespace ListedFiles

/-- Answer, unless the operation is made to fail. -/
def attempt (listed : ListedFiles) (operation : FallibleOperation)
    (answer : Except IoFailure α) : Except IoFailure α :=
  if operation ∈ listed.failing then
    .error { kind := .other, message := operation.text ++ " failed".toList }
  else
    answer

/-- The file system that the lists describe. -/
def toFileSystem (listed : ListedFiles) : FileSystem where
  fileExists := fun path => listed.files.any (·.1 == path)
  directoryExists := fun path => listed.directories.contains path
  read := fun path =>
    listed.attempt .read <|
      match listed.files.find? (·.1 == path) with
      | some (_, content) => .ok content
      | none => .error { kind := .notFound, message := "no such file" }
  times := fun path =>
    listed.attempt .times (.ok ((listed.times.find? (·.1 == path)).map (·.2)))
  currentDirectory := listed.attempt .currentDirectory (.ok listed.currentDirectory)
  matchWildcards := fun base pattern =>
    listed.attempt .wildcards <|
      .ok ((listed.wildcards.lookup (base ++ '|' :: pattern)).getD [])

end ListedFiles

end RefExpand
