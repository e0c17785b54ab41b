import RefExpand.Call.Catalog
import RefExpand.Project.Path
import RefExpand.Text.Order
import RefExpand.Text.Part

namespace RefExpand

/-!
# Types of the system

Paths, the environment, files and directories, identifiers, versions and the
clock. What a member may tell of the machine is withheld unless its type lists
it as open.
-/

namespace SystemTypes

/-- A function of a path, null for null. -/
def onPath (operation : Text → Value) : Body := fun call => do
  return ((← call.optionalText 0).map operation).getD .null

/-- A test of a path, false for null. -/
def testingPath (test : Text → Bool) : Body := fun call => do
  return .bool ((← call.optionalText 0).any test)

/-- All paths put together. -/
def combine : Body := fun call => do
  return .str ((← (List.range call.count).mapM call.text).foldl Path.combine [])

/-- The file name of a path. -/
def getFileName : Body :=
  onPath fun path => .str (Path.fileName path)

/-- The file name of a path without its extension. -/
def getFileStem : Body :=
  onPath fun path => .str (Path.fileStem path)

/-- The extension of a path. -/
def getExtension : Body :=
  onPath fun path => .str (Path.extension path)

/-- The directory of a path, null for a bare root. -/
def getDirectoryName : Body :=
  onPath fun path => ((Path.directoryName? path).map .str).getD .null

/-- A path read from the current directory. -/
def resolve (call : Invocation) (path : Text) : Except CallError Text := do
  return Path.fullPath path (← call.surroundings.currentDirectory)

/-- The full form of a path that is not blank. -/
def getFullPath : Body := fun call => do
  let path ← call.text 0
  if path.trim.isEmpty then throw (.failed "The path is empty.")
  else return .str (← resolve call path)

/-- The path has a root. -/
def isRooted : Body :=
  testingPath Path.isRooted

/-- The path with another extension, or without one for null. -/
def changeExtension : Body := fun call => do
  let extension ← call.optionalText 1
  onPath (fun path => .str (Path.changeExtension path extension)) call

/-- A value that needs no arguments. -/
def constant (name : String) (value : Value) : Member :=
  .single name [] fun _ => .ok value

/-- The directory for temporary files. -/
def temporaryDirectory : Body := fun call =>
  let directory := (call.surroundings.host.variableValue? "TMPDIR").getD "/tmp"
  .ok (.str (Path.ensureTrailingSlash directory))

/-- Paths. -/
def pathType : TypeEntry :=
  { name := "System.IO.Path"
    members := [
      .shared "Combine" [[.str, .str], [.str, .str, .str], [.str, .str, .str, .str]] combine,
      .single "GetFileName" [.str] getFileName,
      .single "GetFileNameWithoutExtension" [.str] getFileStem,
      .single "GetExtension" [.str] getExtension,
      .single "GetDirectoryName" [.str] getDirectoryName,
      .single "GetFullPath" [.str] getFullPath,
      .single "IsPathRooted" [.str] isRooted,
      .single "ChangeExtension" [.str, .str] changeExtension,
      .single "HasExtension" [.str] (testingPath fun path => !(Path.extension path).isEmpty),
      .single "GetPathRoot" [.str] (onPath fun path => .str (Path.root path)),
      constant "DirectorySeparatorChar" (.char '/'),
      constant "AltDirectorySeparatorChar" (.char '/'),
      constant "PathSeparator" (.char ':'),
      .single "GetTempPath" [] temporaryDirectory] }

/-- The value of an environment variable, null if there is none. -/
def getVariable : Body := fun call => do
  return ((call.surroundings.host.variableValue? (← call.text 0)).map .str).getD .null

/-- All environment variables in the order of their names. -/
def getVariables : Body := fun call =>
  let sorted := call.surroundings.host.environment.mergeSort fun left right =>
    (Text.order left.1 right.1).isLE
  .ok (.table (sorted.map fun (name, value) => (.str name, .str value)))

/-- The name of the machine: a variable of two, or what the machine says, or a word. -/
def machineName : Body := fun call =>
  let host := call.surroundings.host
  let name := ((host.variableValue? "COMPUTERNAME").or (host.variableValue? "HOSTNAME")).or host.machineName
  .ok (.str ((name.filter (!·.isEmpty)).getD "localhost"))

/-- The name of the user: a variable of two, or nothing. -/
def userName : Body := fun call =>
  let host := call.surroundings.host
  .ok (.str (((host.variableValue? "USERNAME").or (host.variableValue? "USER")).getD []))

/-- Replace each `%name%` whose variable exists. -/
def expandVariables (host : Host) (text : Text) : Text :=
  match text with
  | [] => []
  | '%' :: rest =>
      match _found : Text.breakAt? (· == '%') rest with
      | none => '%' :: expandVariables host rest
      | some (name, after) =>
          match host.variableValue? name with
          | some value => value ++ expandVariables host after
          | none => '%' :: expandVariables host rest
  | c :: rest => c :: expandVariables host rest
termination_by text.length
decreasing_by
  all_goals try simp only [List.length_cons]
  all_goals try omega
  obtain ⟨_, _, rfl⟩ := Text.breakAt?_eq_append _found
  simp only [List.length_append, List.length_cons]
  omega

/-- A text with its environment variables filled in. -/
def expandEnvironmentVariables : Body := fun call => do
  return .str (expandVariables call.surroundings.host (← call.text 0))

/-- The number of processors. -/
def processorCount : Body := fun call =>
  .ok (.int (Int64.ofNat call.surroundings.host.processorCount))

/-- The environment. -/
def environmentType : TypeEntry :=
  { name := "System.Environment"
    allowance := .only [
      "GetEnvironmentVariable", "NewLine", "ProcessorCount", "MachineName", "UserName",
      "Is64BitOperatingSystem", "Is64BitProcess", "ExpandEnvironmentVariables"]
    members := [
      .single "GetEnvironmentVariable" [.str] getVariable,
      .single "GetEnvironmentVariables" [] getVariables,
      constant "NewLine" (.str ['\n']),
      .single "ProcessorCount" [] processorCount,
      .single "MachineName" [] machineName,
      .single "UserName" [] userName,
      constant "Is64BitOperatingSystem" (.bool true),
      constant "Is64BitProcess" (.bool true),
      .single "ExpandEnvironmentVariables" [.str] expandEnvironmentVariables] }

/-- A question about a path; nothing is at a null or empty one. -/
def existence (ask : FileSystem → Text → Bool) : Body := fun call => do
  match (← call.optionalText 0).filter (!·.isEmpty) with
  | some path => return .bool (ask call.surroundings.fileSystem (← resolve call path))
  | none => return .bool false

/-- There is a file at a path. -/
def fileExists : Body :=
  existence (·.fileExists)

/-- There is a directory at a path. -/
def directoryExists : Body :=
  existence (·.directoryExists)

/-- The text of a file. -/
def readAllText : Body := fun call => do
  let path ← resolve call (← call.text 0)
  match call.surroundings.fileSystem.read path with
  | .ok content => return .str content
  | .error failure => throw (.failed (path ++ ": ".toList ++ failure.message))

/-- Files. -/
def fileType : TypeEntry :=
  { name := "System.IO.File"
    allowance := .only ["Exists", "ReadAllText"]
    members := [
      .single "Exists" [.str] fileExists,
      .single "ReadAllText" [.str] readAllText] }

/-- The current directory. -/
def getCurrentDirectory : Body := fun call =>
  call.surroundings.currentDirectory.map .str

/-- Directories. -/
def directoryType : TypeEntry :=
  { name := "System.IO.Directory"
    allowance := .only ["Exists"]
    members := [
      .single "Exists" [.str] directoryExists,
      .single "GetCurrentDirectory" [] getCurrentDirectory] }

/-- An identifier that was not given out before. -/
def newId : Body := fun call =>
  .ok (.str (call.surroundings.host.freshId call.surroundings.turn))

/-- Identifiers. -/
def guidType : TypeEntry :=
  { name := "System.Guid"
    members := [
      .single "NewGuid" [] newId,
      constant "Empty" (.str "00000000-0000-0000-0000-000000000000")] }

/-- A version that is read from a text. -/
def parseVersion : Body := fun call => do
  let text ← call.text 0
  match Version.read? text with
  | some v => return .version v
  | none => throw (.failed (Version.refusal text))

/-- The text is a version; null counts as empty. -/
def canParseVersion : Body := fun call => do
  return .bool (Version.read? (← call.textOrEmpty 0)).isSome

/-- One component of a version. -/
def component (call : Invocation) (index : Nat) : Except CallError Nat := do
  let n ← call.natural index "Version's parameters must be greater than or equal to zero."
  if n < UInt32.size then return n
  else throw (.failed "Version's parameters must be greater than or equal to zero.")

/-- A version made of its components. -/
def newVersion : Body := fun call => do
  match Version.ofComponents? (← (List.range call.count).mapM (component call)) with
  | some v => return .version v
  | none => throw (.failed "A version has two to four components.")

/-- Versions. -/
def versionType : TypeEntry :=
  { name := "System.Version"
    members := [
      { name := "new"
        overloads := [
          { parameters := [.str], body := parseVersion },
          { parameters := [.int, .int], body := newVersion },
          { parameters := [.int, .int, .int], body := newVersion },
          { parameters := [.int, .int, .int, .int], body := newVersion }] },
      .single "Parse" [.str] parseVersion,
      .single "TryParse" [.str, .out] canParseVersion] }

/-- The moment of the call. -/
def now : Body := fun call =>
  .ok (.dateTime call.surroundings.host.now)

/-- The midnight before the moment of the call. -/
def today : Body := fun call =>
  .ok (.dateTime { call.surroundings.host.now with nanosecond := 0 })

/-- The clock. -/
def dateTimeType : TypeEntry :=
  { name := "System.DateTime"
    members := [.single "Now" [] now, .single "UtcNow" [] now, .single "Today" [] today] }

/-- What the engine runs on; only a probe finds this type. -/
def runtimeType : TypeEntry :=
  { name := "System.Runtime.InteropServices.RuntimeInformation"
    members := [
      constant "OSDescription" (.str "linux"),
      constant "OSArchitecture" (.str "X64"),
      constant "ProcessArchitecture" (.str "X64"),
      constant "FrameworkDescription" (.str "buildexpr 0.3.0-alpha")] }

end SystemTypes

end RefExpand
