import RefExpand.Expand.Context
import RefExpand.Project.PropertyTable
import RefExpand.Project.Path
import RefExpand.Template.Read

namespace RefExpand

/-!
# The property phase

A template is evaluated from left to right. A lone reference yields its value as
it is; otherwise the escaped texts are joined, and backslashes become slashes.
A property is looked up in the table, then among the names that are reserved for
the file that holds the expression.
-/

/-- What a stretch of a template becomes. -/
inductive Piece where
  | literal (text : Text)
  | value (content : Value)

namespace Piece

/-- The escaped text of a piece. -/
def text : Piece → Text
  | .literal text => text
  | .value content => content.escaped

/-- The piece is a literal stretch without characters. -/
def isBlank : Piece → Bool
  | .literal text => text.isEmpty
  | .value _ => false

/-- Put pieces together; a lone value stays what it is. -/
def assemble (adjusts : Bool) (pieces : List Piece) : Value :=
  match pieces.filter (!·.isBlank) with
  | [] => .str []
  | [.value content] => content
  | several =>
      let joined := several.flatMap text
      .str (if adjusts then Path.adjustSeparators joined else joined)

end Piece

/-- The properties that are reserved for a file. -/
def reservedProperty? (file name : Text) : Option Text :=
  let directory := (Path.directoryName? file)
  let properties : List (Text × Option Text) := [
    ("MSBuildThisFile", some (Path.fileName file)),
    ("MSBuildThisFileName", some (Path.fileStem file)),
    ("MSBuildThisFileFullPath", some file),
    ("MSBuildThisFileExtension", some (Path.extension file)),
    ("MSBuildThisFileDirectory", directory.map Path.ensureTrailingSlash),
    ("MSBuildThisFileDirectoryNoRoot",
      directory.map fun path => Path.ensureTrailingSlash (Path.afterRoot path))]
  ((properties.find? fun (known, _) => Text.sameName known name).bind (·.2)).map Text.escape

/-- What the property phase works with. -/
structure PropertyPhase where
  table : PropertyTable
  options : ExpandOptions
  context : ExpandContext

namespace PropertyPhase

/-- The value of a property, and where it was found. -/
def valueOf (phase : PropertyPhase) (name : Text) : Text × PropertyUsage :=
  match phase.table.value? name with
  | some value => (value, .found)
  | none =>
      match phase.context.location.file.bind fun file => reservedProperty? file name with
      | some value => (value, .reserved)
      | none => ([], .notFound)

/-- Look a property up and note it. -/
def lookup (phase : PropertyPhase) (name : Text) : Expansion Value := do
  let (value, usage) := phase.valueOf name
  Expansion.noteUsage name usage
  return .str value

/-- The value of a registry reference, split at its last `@` into a key and a value name. -/
def registryValue (phase : PropertyPhase) (reference : Text) : Value :=
  let (key, valueName) := (Text.breakAtLast? (· == '@') reference).getD (reference, [])
  .str (((phase.context.registry.bind fun value? => value? key valueName).map Text.escape).getD [])

/-- Leave a reference as it is written in the place of an error, if the options say so. -/
def guarded (phase : PropertyPhase) (written : Text) (action : Expansion Value) :
    Expansion Value :=
  if phase.options.contains .leaveOnError then action.orElseValue (.str written) else action

/-- The argument that a call receives for a value: null, or the plain text. -/
def operandOf : Value → Operand
  | .null => .value .null
  | value => .value (.str value.escaped.unescape)

end PropertyPhase

/-- Call one link of a call. -/
def ExpandContext.callLink (context : ExpandContext) (reference : Text) (receiver : Option Value)
    (link : CallLink) (operands : List Operand) : Expansion Value := do
  let resolver := context.resolver
  let surroundings := { context.surroundings with turn := ← Expansion.takeTurn }
  match link.target with
  | .type typeName =>
      let found ← Expansion.findType resolver typeName
      Expansion.ofExcept <|
        resolver.callStatic found typeName link.name operands surroundings reference
  | .property _ | .result | .index =>
      match receiver with
      | none => throw (.error (.invalidFunction reference "the call has no receiver"))
      | some value =>
          Expansion.ofExcept <|
            resolver.callInstance link.kind link.name value operands surroundings reference

mutual

/-- Evaluate a template. -/
def Template.evaluate (phase : PropertyPhase) (adjusts : Bool) : Template → Expansion Value
  | .plain text => pure (.str text)
  | .mixed segments => do
      return Piece.assemble adjusts (← Segment.evaluateAll phase segments)

/-- Evaluate segments from left to right. -/
def Segment.evaluateAll (phase : PropertyPhase) : List Segment → Expansion (List Piece)
  | [] => pure []
  | segment :: rest => do
      let piece ← Segment.evaluate phase segment
      return piece :: (← Segment.evaluateAll phase rest)

/-- Evaluate a segment. -/
def Segment.evaluate (phase : PropertyPhase) : Segment → Expansion Piece
  | .literal text => pure (.literal text)
  | .reference written request => do
      return .value (← Request.evaluate phase written request)

/-- Evaluate what a reference asks for. -/
def Request.evaluate (phase : PropertyPhase) (written : Text) : Request → Expansion Value
  | .nothing => pure (.str [])
  | .cutInside offset body => throw (.halt (.cutCharacter offset body))
  | .registry key => do
      return phase.registryValue (← Template.evaluate phase false key).escaped
  | .property name => phase.lookup name
  | .call receiver chain =>
      phase.guarded written do
        let value ← receiver.mapM phase.lookup
        Expansion.located phase.context.location (CallChain.run phase written value chain)
  | .uncallable body fault =>
      phase.guarded written <|
        throw <| phase.context.locate <|
          .invalidFunction ('$' :: '(' :: (body ++ [')'])) fault.message
  | .malformed body =>
      phase.guarded written <|
        throw <| phase.context.locate <|
          .invalidExpression written <|
            ExpandError.quoted body ++ " is not a valid property name".toList

/-- Run the links of a call, each on the value of the one before. -/
def CallChain.run (phase : PropertyPhase) (reference : Text) (receiver : Option Value) :
    CallChain → Expansion Value
  | .done => pure (receiver.getD .null)
  | .broken fault => throw (.error (.invalidFunction reference fault.message))
  | .link call arguments next => do
      let operands ← TemplateArgument.evaluateAll phase arguments
      let result ← phase.context.callLink reference receiver call operands
      CallChain.run phase reference (some result) next

/-- Evaluate arguments from left to right. -/
def TemplateArgument.evaluateAll (phase : PropertyPhase) :
    List TemplateArgument → Expansion (List Operand)
  | [] => pure []
  | argument :: rest => do
      let operand ← TemplateArgument.evaluate phase argument
      return operand :: (← TemplateArgument.evaluateAll phase rest)

/-- Evaluate an argument. -/
def TemplateArgument.evaluate (phase : PropertyPhase) : TemplateArgument → Expansion Operand
  | .null => pure (.value .null)
  | .out => pure .out
  | .template content => do
      return PropertyPhase.operandOf (← Template.evaluate phase true content)

end

namespace PropertyPhase

/-- The value of an expression. -/
def value (phase : PropertyPhase) (expression : Text) : Expansion Value :=
  (Template.read expression).evaluate phase true

/-- The escaped text of an expression. -/
def text (phase : PropertyPhase) (expression : Text) : Expansion Text := do
  return (← phase.value expression).escaped

end PropertyPhase

end RefExpand
