import RefExpand.Library.Intrinsics
import RefExpand.Library.NumberTypes
import RefExpand.Library.SystemTypes
import RefExpand.Library.TextTypes
import RefExpand.Library.ValueMembers

namespace RefExpand

/-!
# The standard catalog

All types and members that an expression can reach, and the common calls that
are recognised without looking at overloads.
-/

namespace Catalog

/-- The types that anyone can name, in the order in which they are listed. -/
def standardTypes : List TypeEntry := [
  Intrinsics.entry,
  TextTypes.textType,
  SystemTypes.pathType,
  NumberTypes.mathType,
  SystemTypes.environmentType,
  SystemTypes.fileType,
  SystemTypes.directoryType,
  NumberTypes.convertType,
  TextTypes.charType,
  NumberTypes.int32Type,
  NumberTypes.int64Type,
  NumberTypes.doubleType,
  NumberTypes.booleanType,
  SystemTypes.guidType,
  SystemTypes.versionType,
  SystemTypes.dateTimeType,
  TextTypes.patternType]

/-- A call that is recognised by its name and the number of its arguments. -/
def direct (member : String) (counts : List Nat) (body : Body) : DirectCall :=
  { member, counts, body }

/-- The common calls on types. -/
def typeCalls : List (Text × List DirectCall) := [
  ("MSBuild", [
    direct "escape" [1] Intrinsics.escape,
    direct "unescape" [1] Intrinsics.unescape,
    direct "valueordefault" [2] Intrinsics.valueOrDefault,
    direct "ensuretrailingslash" [1] Intrinsics.ensureTrailingSlash,
    direct "normalizepath" [1, 2, 3, 4] Intrinsics.normalizePath,
    direct "normalizedirectory" [1, 2, 3, 4] Intrinsics.normalizeDirectory,
    direct "makerelative" [2] Intrinsics.makeRelative,
    direct "getdirectorynameoffileabove" [2] Intrinsics.getDirectoryNameOfFileAbove,
    direct "getpathoffileabove" [1, 2] Intrinsics.getPathOfFileAbove]),
  ("System.IO.Path", [
    direct "combine" [2, 3, 4] SystemTypes.combine,
    direct "getfilename" [1] SystemTypes.getFileName,
    direct "getfilenamewithoutextension" [1] SystemTypes.getFileStem,
    direct "getextension" [1] SystemTypes.getExtension,
    direct "getdirectoryname" [1] SystemTypes.getDirectoryName,
    direct "getfullpath" [1] SystemTypes.getFullPath,
    direct "ispathrooted" [1] SystemTypes.isRooted]),
  ("System.IO.File", [direct "exists" [1] SystemTypes.fileExists]),
  ("System.IO.Directory", [direct "exists" [1] SystemTypes.directoryExists]),
  ("System.Environment", [direct "getenvironmentvariable" [1] SystemTypes.getVariable])]

/-- The common calls on texts. -/
def textCalls : List DirectCall := [
  { member := "substring", counts := [1, 2], takes := .integers, body := TextMembers.substring },
  direct "startswith" [1] TextMembers.startsWith,
  direct "endswith" [1] TextMembers.endsWith,
  direct "contains" [1] TextMembers.contains,
  direct "equals" [1] TextMembers.equals,
  direct "indexof" [1] TextMembers.indexOf,
  direct "replace" [2] TextMembers.replace,
  direct "tolower" [0] TextMembers.toLower,
  direct "tolowerinvariant" [0] TextMembers.toLower,
  direct "toupper" [0] TextMembers.toUpper,
  direct "toupperinvariant" [0] TextMembers.toUpper,
  direct "trim" [0] TextMembers.trim]

/-- Everything that can be called. -/
def standard : Catalog :=
  { types := standardTypes
    additional := [SystemTypes.runtimeType]
    membersOf := ValueMembers.of
    directTypeCalls := typeCalls
    directTextCalls := textCalls }

end Catalog

end RefExpand
