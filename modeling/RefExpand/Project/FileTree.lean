import RefExpand.Project.FileSystem
import RefExpand.Project.Glob
import RefExpand.Text.Order

namespace RefExpand

/-!
# File trees

A file system given by a tree of files below a root directory, which is also the
current directory. Paths resolve segment by segment: each segment but the last
has to name a directory, two dots go up, and a trailing separator asks for a
directory.
-/

/-- Files and directories by their segments from the root of the file system. -/
structure FileTree where
  root : List Text
  files : List (List Text × Text)
  directories : List (List Text)
  times : FileTimes := {}

namespace FileTree

/-- What a path names. -/
inductive Entry where
  | file (segments : List Text) (content : Text)
  | directory (segments : List Text)
  deriving Repr, DecidableEq

/-- The path names nothing. -/
def missing : IoFailure :=
  { kind := .notFound, message := "No such file or directory (os error 2)" }

/-- The path goes on below a file. -/
def throughFile : IoFailure :=
  { kind := .notADirectory, message := "Not a directory (os error 20)" }

/-- The path names a directory where a file is wanted. -/
def notAFile : IoFailure :=
  { kind := .isADirectory, message := "Is a directory (os error 21)" }

/-- The path holds a character that no path may hold. -/
def nulInside : IoFailure :=
  { kind := .invalidInput, message := "file name contained an unexpected NUL byte" }

/-- A segment, or the whole path, has more bytes than it may have. -/
def nameTooLong : IoFailure :=
  { kind := .invalidFilename, message := "File name too long (os error 36)" }

/-- The greatest number of bytes of a segment. -/
def segmentLimit : Nat :=
  255

/-- The greatest number of bytes of a path. -/
def pathLimit : Nat :=
  4095

/-- The non-empty segments between the separators of a path. -/
def segmentsOf (path : Text) : List Text :=
  (Text.splitAtChars (· == '/') path).filter (!·.isEmpty)

/-- The directory is there: it is named, or lies above something that is. -/
def hasDirectory (tree : FileTree) (segments : List Text) : Bool :=
  segments.isPrefixOf tree.root || tree.directories.any (segments.isPrefixOf ·) ||
    tree.files.any fun (file, _) => segments.isPrefixOf file && segments != file

/-- Follow one segment from a place. -/
def step (tree : FileTree) (place : Entry) (segment : Text) : Except IoFailure Entry :=
  match place with
  | .file .. => .error throughFile
  | .directory above =>
      if segment == ['.'] then .ok place
      else if segment == ['.', '.'] then .ok (.directory above.dropLast)
      else if segmentLimit < segment.utf8Size then .error nameTooLong
      else
        let here := above ++ [segment]
        match tree.files.find? (·.1 == here) with
        | some (_, content) => .ok (.file here content)
        | none => if tree.hasDirectory here then .ok (.directory here) else .error missing

/-- Resolve a path from the root or from the current directory. -/
def resolve (tree : FileTree) (path : Text) : Except IoFailure Entry :=
  if path.isEmpty then .error missing
  else if path.contains '\x00' then .error nulInside
  else if pathLimit < path.utf8Size then .error nameTooLong
  else
    let start : Entry := .directory (if path.head? == some '/' then [] else tree.root)
    match (segmentsOf path).foldlM tree.step start with
    | .ok (.file segments content) =>
        if path.getLast? == some '/' then .error throughFile else .ok (.file segments content)
    | answer => answer

/-- A path read from a base directory. -/
def joinBase (base path : Text) : Text :=
  if path.head? == some '/' || base.isEmpty then path
  else if base.getLast? == some '/' then base ++ path
  else base ++ '/' :: path

/-- The files that a pattern names, sorted, each with the fixed part of the pattern in front. -/
def matching (tree : FileTree) (base pattern : Text) : Except IoFailure (List Text) :=
  let split := WildcardPattern.split pattern
  let fixed := Path.fixSeparators split.fixed
  let start := if Path.isRooted fixed then fixed else joinBase base fixed
  match tree.resolve start with
  | .ok (.directory directory) =>
      let wildcard := Path.adjustSeparators split.wildcard
      match Glob.read wildcard with
      | .error fault =>
          .error { kind := .invalidInput, message := Glob.refusal wildcard fault }
      | .ok glob =>
          let relatives :=
            tree.files.filterMap fun (file, _) =>
              if directory.isPrefixOf file then
                some (Path.adjustSeparators (Text.join ['/'] (file.drop directory.length)))
              else
                none
          let found := (relatives.filter (Glob.matchesPath glob)).map (split.fixed ++ ·)
          .ok (found.mergeSort fun left right => (Text.order left right).isLE)
  | _ => .ok []

/-- The file system of a tree. -/
def toFileSystem (tree : FileTree) : FileSystem where
  fileExists := fun path =>
    match tree.resolve path with
    | .ok (.file ..) => true
    | _ => false
  directoryExists := fun path =>
    match tree.resolve path with
    | .ok (.directory _) => true
    | _ => false
  read := fun path =>
    match tree.resolve path with
    | .ok (.file _ content) => .ok content
    | .ok (.directory _) => .error notAFile
    | .error failure => .error failure
  times := fun path =>
    match tree.resolve path with
    | .ok (.file ..) => .ok (some tree.times)
    | .ok (.directory _) => .ok none
    | .error failure => if failure.kind = .notFound then .ok none else .error failure
  currentDirectory := .ok ('/' :: Text.join ['/'] tree.root)
  matchWildcards := tree.matching

end FileTree

end RefExpand
