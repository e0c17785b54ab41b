import RefExpand.Expand.Metadata
import RefExpand.Expand.Pair
import RefExpand.Text.ListSplit
import RefExpand.Text.Order

namespace RefExpand

/-!
# Transforms

A transform takes the whole batch of pairs that the one before gave. Its name
says what it is: a modifier of specs, a function on the list, or else a member of
texts that is called on each spec. An empty result of one pair is dropped, or
kept as a placeholder where placeholders are asked for.
-/

/-- The functions on lists of items. -/
inductive ListFunction where
  | count
  | exists
  | combine
  | directoriesAbove
  | directoryName
  | metadata
  | distinctWithCase
  | distinct
  | reverse
  | clearMetadata
  | hasMetadata
  | withMetadataValue
  | withoutMetadataValue
  | anyHaveMetadataValue
  deriving Repr, DecidableEq, Inhabited

namespace ListFunction

/-- All functions. -/
def all : List ListFunction :=
  [.count, .exists, .combine, .directoriesAbove, .directoryName, .metadata, .distinctWithCase,
    .distinct, .reverse, .clearMetadata, .hasMetadata, .withMetadataValue, .withoutMetadataValue,
    .anyHaveMetadataValue]

/-- The name of a function. -/
def name : ListFunction → Text
  | .count => "Count"
  | .exists => "Exists"
  | .combine => "Combine"
  | .directoriesAbove => "GetPathsOfAllDirectoriesAbove"
  | .directoryName => "DirectoryName"
  | .metadata => "Metadata"
  | .distinctWithCase => "DistinctWithCase"
  | .distinct => "Distinct"
  | .reverse => "Reverse"
  | .clearMetadata => "ClearMetadata"
  | .hasMetadata => "HasMetadata"
  | .withMetadataValue => "WithMetadataValue"
  | .withoutMetadataValue => "WithoutMetadataValue"
  | .anyHaveMetadataValue => "AnyHaveMetadataValue"

/-- The function of a name, up to ASCII case. -/
def ofName? (name : Text) : Option ListFunction :=
  all.find? fun function => Text.sameName function.name name

/-- The number of arguments. -/
def arity : ListFunction → Nat
  | .combine | .metadata | .hasMetadata => 1
  | .withMetadataValue | .withoutMetadataValue | .anyHaveMetadataValue => 2
  | _ => 0

/-- The function looks at more than one pair at a time. -/
def needsBatch : ListFunction → Bool
  | .count | .reverse | .distinct | .distinctWithCase | .directoriesAbove
  | .anyHaveMetadataValue => true
  | _ => false

end ListFunction

/-- What a transform does, its arguments checked. -/
inductive TransformStep where
  | quoted (body : Text)
  | modifier (modifier : SpecModifier)
  | list (function : ListFunction) (arguments : List Text)
  | member (name : Text) (arguments : List Argument)
  deriving Repr, DecidableEq

/-- The transform is run on one pair after the other. -/
def Transform.runsPerItem (transform : Transform) : Bool :=
  match transform.kind with
  | .quoted _ => true
  | .function name _ => !(ListFunction.ofName? name).any ListFunction.needsBatch

/-- What the transforms of one vector share. -/
structure Pipeline where
  context : ExpandContext
  keepsPlaceholders : Bool
  /-- The vector as it is written. -/
  expression : Text

namespace Pipeline

/-- Go on, or fail with an error. -/
def ofResult (result : Except ExpandError α) : Except Failure α :=
  result.mapError .error

/-- The failure of a transform of a name. -/
def misuse (pipeline : Pipeline) (name message : Text) : ExpandError :=
  .invalidTransform name pipeline.expression message

/-- There are as many arguments as a function takes. -/
def checkArity (pipeline : Pipeline) (name : Text) (arguments : List Argument) (arity : Nat) :
    Except ExpandError Unit :=
  if arguments.length = arity then
    .ok ()
  else
    .error <| pipeline.misuse name <|
      "expected ".toList ++ Decimal.ofNat arity ++ " argument(s) but found ".toList ++
        Decimal.ofNat arguments.length

/-- What a transform does. -/
def step (pipeline : Pipeline) (transform : Transform) : Except ExpandError TransformStep :=
  match transform.kind with
  | .quoted body => .ok (.quoted body)
  | .function name written => do
      let arguments ← (Argument.parseAll written).mapError fun fault =>
        pipeline.misuse name fault.message
      match SpecModifier.ofName? name with
      | some modifier =>
          pipeline.checkArity name arguments 0
          return .modifier modifier
      | none =>
          match ListFunction.ofName? name with
          | some function =>
              pipeline.checkArity function.name arguments function.arity
              return .list function (arguments.map Argument.textOrEmpty)
          | none => return .member name arguments

/-- The pairs that a result gives. -/
def emit (pipeline : Pipeline) (spec : Option Text) (source : Option Item) : List ItemPair :=
  match spec.filter (!·.isEmpty) with
  | some spec => [.of spec source]
  | none => if pipeline.keepsPlaceholders then [.placeholder source] else []

/-- Map every spec with an action, keeping placeholders as they are. -/
def mapSpecs (pipeline : Pipeline)
    (action : Text → Option Item → Except Failure (Option Text)) (batch : List ItemPair) :
    Except Failure (List ItemPair) := do
  let produced ← batch.mapM fun pair =>
    match pair.spec with
    | none => .ok (pipeline.emit none pair.source)
    | some spec => do return pipeline.emit (← action spec pair.source) pair.source
  return produced.flatten

/-- Keep the pairs that pass a test. -/
def keepIf (test : ItemPair → Except Failure Bool) (batch : List ItemPair) :
    Except Failure (List ItemPair) := do
  let tested ← batch.mapM fun pair => do return if ← test pair then [pair] else []
  return tested.flatten

/-- Keep the first pair of each class. -/
def keepFirst [BEq β] (key : ItemPair → β) : (seen : List β) → List ItemPair → List ItemPair
  | _, [] => []
  | seen, pair :: rest =>
      if seen.contains (key pair) then keepFirst key seen rest
      else pair :: keepFirst key (key pair :: seen) rest

/-- The directory that relative specs of a source are read from. -/
def baseDirectory (pipeline : Pipeline) (source : Option Item) : Except ExpandError Text :=
  match source.bind (·.directory) with
  | some directory => .ok directory
  | none => SpecModifier.currentDirectory pipeline.context.fileSystem

/-- The plain path of a spec, read from its base directory if it has no root. -/
def rooted (pipeline : Pipeline) (spec : Text) (source : Option Item) :
    Except ExpandError Text := do
  let plain := spec.unescape
  if Path.isRooted plain then return plain
  else return Path.combine (← pipeline.baseDirectory source) plain

/-- There is a file or directory at the spec of a pair. -/
def existsAt (pipeline : Pipeline) (pair : ItemPair) : Except ExpandError Bool := do
  if pair.isEmpty then return false
  else return pipeline.context.fileSystem.pathExists (← pipeline.rooted pair.text pair.source)

/-- Put a relative path behind the spec of a pair, which loses its source. -/
def combineWith (relative : Text) (pair : ItemPair) : ItemPair :=
  match pair.spec with
  | some spec => .of (Path.combine spec.unescape relative).escape none
  | none => pair

/-- Put a directory into a row sorted by upper-case text, unless one of that text is there. -/
def insertDirectory (directory : Text) : List Text → List Text
  | [] => [directory]
  | first :: rest =>
      match Text.order directory.upper first.upper with
      | .lt => directory :: first :: rest
      | .eq => first :: rest
      | .gt => first :: insertDirectory directory rest

/-- The directories above the spec of a pair. -/
def directoriesAbove (pipeline : Pipeline) (pair : ItemPair) : Except ExpandError (List Text) := do
  if pair.isEmpty then return []
  else return Path.ancestors (Path.normalize (← pipeline.rooted pair.text pair.source))

/-- The directory of each spec; a spec that was met before gets the directory found then. -/
def directoryNames (pipeline : Pipeline) : (known : List (Text × Option Text)) →
    List ItemPair → Except Failure (List ItemPair)
  | _, [] => .ok []
  | known, pair :: rest =>
      match pair.spec with
      | none => do
          return pipeline.emit none pair.source ++ (← directoryNames pipeline known rest)
      | some spec => do
          let directory ←
            match known.lookup spec.unescape with
            | some directory => pure directory
            | none => do
                let path ← ofResult (pipeline.rooted spec pair.source)
                pure ((Path.directoryName? path).map Text.escape)
          return pipeline.emit directory pair.source ++
            (← directoryNames pipeline ((spec.unescape, directory) :: known) rest)

/-- The pairs that a value of metadata gives: one for each entry of a list. -/
def metadataPairs (value : Text) (source : Option Item) : List ItemPair :=
  if value.contains ';' then (Text.splitList value).map fun part => .of part source
  else if value.isEmpty then []
  else [.of value source]

/-- A pair has metadata of a value; the first one that fails to tell, or has it, decides. -/
def anyHas (fs : FileSystem) (name wanted : Text) : List ItemPair → Except ExpandError Bool
  | [] => .ok false
  | pair :: rest => do
      if ← pair.hasMetadataValue fs name wanted then return true
      else anyHas fs name wanted rest

/-- Run a function on a list. -/
def runList (pipeline : Pipeline) (function : ListFunction) (arguments : List Text)
    (batch : List ItemPair) : Except Failure (List ItemPair) :=
  let fs := pipeline.context.fileSystem
  let first := arguments.getD 0 []
  let second := arguments.getD 1 []
  match function with
  | .count => .ok [.of (Decimal.ofNat batch.length) none]
  | .reverse => .ok batch.reverse
  | .clearMetadata => .ok (batch.map fun pair => { pair with source := none })
  | .distinctWithCase => .ok (keepFirst (·.spec) [] batch)
  | .distinct => .ok (keepFirst (fun pair => pair.spec.map Text.lower) [] batch)
  | .exists => keepIf (fun pair => ofResult (pipeline.existsAt pair)) batch
  | .combine => .ok (batch.map (combineWith first.unescape))
  | .directoriesAbove => do
      let directories ← batch.mapM fun pair => ofResult (pipeline.directoriesAbove pair)
      let sorted := directories.flatten.foldl (fun row path => insertDirectory path row) []
      return sorted.map fun directory => .of directory.escape none
  | .directoryName => pipeline.directoryNames [] batch
  | .metadata => do
      let found ← batch.mapM fun pair => do
        return metadataPairs (← ofResult (pair.sourceMetadata fs first)) pair.source
      return found.flatten
  | .hasMetadata =>
      keepIf (fun pair => ofResult ((pair.sourceMetadata fs first).map (!·.isEmpty))) batch
  | .withMetadataValue =>
      keepIf (fun pair => ofResult (pair.hasMetadataValue fs first second)) batch
  | .withoutMetadataValue =>
      keepIf (fun pair => ofResult ((pair.hasMetadataValue fs first second).map (!·))) batch
  | .anyHaveMetadataValue => do
      let found ← ofResult (anyHas fs first second batch)
      return [.of (if found then "true" else "false") none]

/-- The operand that an argument of a transform stands for. -/
def literalOperand : Argument → Operand
  | .null => .value .null
  | .out => .out
  | .text content => .value (.str content.unescape)

/-- Call a member of texts on a spec. -/
def callOnSpec (pipeline : Pipeline) (name : Text) (arguments : List Argument) (spec : Text) :
    Except Failure (Option Text) := do
  let result ← pipeline.context.resolver.callInstance .method name (.str spec)
    (arguments.map literalOperand) pipeline.context.surroundings pipeline.expression
  return if result.isNull then none else some result.escaped

/-- Run one step on a batch. -/
def run (pipeline : Pipeline) (step : TransformStep) (batch : List ItemPair) :
    Except Failure (List ItemPair) :=
  let fs := pipeline.context.fileSystem
  match step with
  | .quoted body =>
      pipeline.mapSpecs (fun spec source =>
        (ofResult ((ItemPair.toTable spec source fs).fill body)).map some) batch
  | .modifier modifier =>
      pipeline.mapSpecs (fun spec source =>
        (ofResult ((ItemPair.toTable spec source fs).value none modifier.name)).map some) batch
  | .list function arguments => pipeline.runList function arguments batch
  | .member name arguments =>
      pipeline.mapSpecs (fun spec _ => pipeline.callOnSpec name arguments spec) batch

/-- Apply a transform to a batch. -/
def apply (pipeline : Pipeline) (transform : Transform) (batch : List ItemPair) :
    Except Failure (List ItemPair) := do
  pipeline.run (← ofResult (pipeline.step transform)) batch

/-- Apply a transform to one pair after the other, up to the first that gives a non-empty spec. -/
def applyEach (pipeline : Pipeline) (transform : Transform) :
    List ItemPair → Except Failure (List ItemPair × Bool)
  | [] => .ok ([], false)
  | pair :: rest => do
      let produced ← pipeline.apply transform [pair]
      if produced.any (!·.isEmpty) then
        return (produced, true)
      else
        let (later, found) ← applyEach pipeline transform rest
        return (produced ++ later, found)

/-- Apply the last transform, stopping early where it runs on one pair after the other. -/
def applyUntilFound (pipeline : Pipeline) (transform : Transform) (batch : List ItemPair) :
    Except Failure (List ItemPair × Bool) :=
  if transform.runsPerItem then
    pipeline.applyEach transform batch
  else do
    let produced ← pipeline.apply transform batch
    return (produced, produced.any (!·.isEmpty))

end Pipeline

end RefExpand
