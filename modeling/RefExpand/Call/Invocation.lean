import RefExpand.Failure
import RefExpand.Pattern.Flags
import RefExpand.Project.FileSystem
import RefExpand.Value.Basic

namespace RefExpand

/-!
# Invocations

The body of a member is a function of an invocation: a receiver for the members
of values, arguments that are already values, and the surroundings in which the
engine runs. A body fails with a message, or because an argument does not have
the shape it asks for.
-/

/-- Why a body gives no value. -/
inductive CallError where
  | failed (message : Text)
  | badArgument (index : Nat) (expected : Text)
  | halted (breach : Halt)
  deriving Repr, DecidableEq

/-- The wording of a failed call. -/
def CallError.message : CallError → Text
  | .failed message => message
  | .badArgument index expected =>
      "argument ".toList ++ Decimal.ofNat index ++ " is not a ".toList ++ expected
  | .halted breach => breach.message

/-- What the engine takes from outside: from its machine, and from the library for patterns. -/
structure Host where
  /-- Environment variables, each name once. -/
  environment : List (Text × Text) := []
  /-- The name that the machine gives itself. -/
  machineName : Option Text := none
  processorCount : Nat := 1
  now : DateTime
  /-- The identifier that a call is given, by the number of calls before it. -/
  freshId : Nat → Text
  /-- The words in which the library for patterns refuses a text. -/
  patternRefusal : Text → Pattern.Fault → Text := fun _ _ => []

namespace Host

/--
The value of an environment variable. A variable is kept as one text, its name and
its value with an equals sign between, and the name asked for ends at any equals
sign of that text; the empty name finds nothing.
-/
def variableValue? (host : Host) (name : Text) : Option Text :=
  if name.isEmpty then none
  else
    host.environment.findSome? fun (own, value) =>
      Text.dropBeginning? (name ++ ['=']) (own ++ '=' :: value)

end Host

/-- Where a call runs. -/
structure Surroundings where
  host : Host
  fileSystem : FileSystem
  /-- The directory of the file that holds the expression. -/
  fileDirectory : Option Text := none
  /-- How many calls ran before this one. -/
  turn : Nat := 0

namespace Surroundings

/-- The current directory. -/
def currentDirectory (surroundings : Surroundings) : Except CallError Text :=
  surroundings.fileSystem.currentDirectory.mapError fun failure => .failed failure.message

/-- The directory that a search starts from. -/
def startingDirectory (surroundings : Surroundings) : Except CallError Text :=
  match surroundings.fileDirectory with
  | some directory => .ok directory
  | none => surroundings.currentDirectory

end Surroundings

/-- What a body is run on. -/
structure Invocation where
  receiver : Option Value := none
  arguments : List Value
  surroundings : Surroundings

/-- The body of a member. -/
abbrev Body := Invocation → Except CallError Value

namespace Invocation

/-- An argument, null if it is not given. -/
def argument (call : Invocation) (index : Nat) : Value :=
  call.arguments.getD index .null

/-- How many arguments are given. -/
def count (call : Invocation) : Nat :=
  call.arguments.length

/-- A text that may be null. -/
def optionalText (call : Invocation) (index : Nat) : Except CallError (Option Text) :=
  match call.argument index with
  | .null => .ok none
  | .str text => .ok (some text)
  | _ => .error (.badArgument index "string")

/-- A text, empty for null. -/
def textOrEmpty (call : Invocation) (index : Nat) : Except CallError Text :=
  (call.optionalText index).map (·.getD [])

/-- A text that must not be null. -/
def text (call : Invocation) (index : Nat) : Except CallError Text := do
  match ← call.optionalText index with
  | some text => return text
  | none =>
      throw <| .failed <|
        "value cannot be null (argument ".toList ++ Decimal.ofNat index ++ ")".toList

/-- An integer. -/
def integer (call : Invocation) (index : Nat) : Except CallError Int64 :=
  match call.argument index with
  | .int n => .ok n
  | _ => .error (.badArgument index "integer")

/-- A double, or an integer taken as one. -/
def float (call : Invocation) (index : Nat) : Except CallError Float :=
  match call.argument index with
  | .float f => .ok f
  | .int n => .ok (Number.floatOfInt n.toInt)
  | _ => .error (.badArgument index "number")

/-- A truth value. -/
def bool (call : Invocation) (index : Nat) : Except CallError Bool :=
  match call.argument index with
  | .bool b => .ok b
  | _ => .error (.badArgument index "boolean")

/-- A character. -/
def char (call : Invocation) (index : Nat) : Except CallError Char :=
  match call.argument index with
  | .char c => .ok c
  | _ => .error (.badArgument index "character")

/-- The character of an item of an array. -/
def charOf (index : Nat) : Value → Except CallError Char
  | .char c => .ok c
  | _ => .error (.badArgument index "character array")

/-- An array of characters, empty for null. -/
def chars (call : Invocation) (index : Nat) : Except CallError (List Char) :=
  match call.argument index with
  | .null => .ok []
  | .seq items => items.mapM (charOf index)
  | _ => .error (.badArgument index "character array")

/-- A version. -/
def version (call : Invocation) (index : Nat) : Except CallError Version :=
  match call.argument index with
  | .version v => .ok v
  | _ => .error (.badArgument index "version")

/-- The receiver. -/
def this (call : Invocation) : Except CallError Value :=
  match call.receiver with
  | some value => .ok value
  | none => .error (.failed "instance member called without a receiver")

/-- The receiver, which must be a text. -/
def thisText (call : Invocation) : Except CallError Text := do
  match ← call.this with
  | .str text => return text
  | other => throw (.failed ("expected a string receiver, found ".toList ++ other.typeName))

/-- A natural number, or else a failure with a message of its own. -/
def natural (call : Invocation) (index : Nat) (message : Text) : Except CallError Nat := do
  let n ← call.integer index
  if n < 0 then throw (.failed message) else return n.toInt.toNat

end Invocation

end RefExpand
