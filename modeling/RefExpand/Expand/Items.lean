import RefExpand.Expand.Transform

namespace RefExpand

/-!
# The item phase

An item vector stands for the items of its type, run through its transforms and
joined. With the flag to break, the last transform stops at the first entry that
is not empty, and nothing behind that vector is expanded.
-/

/-- The entries of a vector, and whether expanding stopped at one of them. -/
structure VectorEntries where
  pairs : List ItemPair
  stopped : Bool
  deriving Repr, DecidableEq

/-- The entries of a single vector, and its joined text if it is written with a separator. -/
structure SingleVector where
  pairs : List ItemPair
  joined : Option Text
  deriving Repr, DecidableEq

namespace ItemVector

/-- The specs of the pairs with the separator of the vector between them. -/
def join (vector : ItemVector) (pairs : List ItemPair) : Text :=
  Text.join vector.joint (pairs.map ItemPair.text)

/-- The vector gives something even without items. -/
def countsNothing (vector : ItemVector) : Bool :=
  vector.hasFunction "Count" || vector.hasFunction "AnyHaveMetadataValue"

end ItemVector

/-- What the item phase works with. -/
structure ItemPhase where
  items : Text → List Item
  options : ExpandOptions
  context : ExpandContext

namespace ItemPhase

/-- Expanding stops at the first entry that is not empty. -/
def breaks (phase : ItemPhase) : Bool :=
  phase.options.contains .breakOnNotEmpty

/-- The entries that an item starts with: its spec, or the files that its wildcards match. -/
def startOf (phase : ItemPhase) (item : Item) : Except ExpandError (List ItemPair) :=
  let fs := phase.context.fileSystem
  if phase.context.itemizesWildcards && item.spec.hasWildcards then do
    let pattern := item.spec.unescape
    let base ←
      match item.directory with
      | some directory => pure directory
      | none => SpecModifier.currentDirectory fs
    let files ← (fs.matchWildcards base pattern).mapError fun failure =>
      .fileSystem pattern failure.message
    return files.map fun file => .of file.escape (some item)
  else
    return [.of item.spec (some item)]

/-- The entries that a vector starts with. -/
def startBatch (phase : ItemPhase) (items : List Item) : Except Failure (List ItemPair) := do
  let started ← items.mapM fun item => Pipeline.ofResult (phase.startOf item)
  return started.flatten

/-- Run transforms one after the other. -/
def runAll (pipeline : Pipeline) (transforms : List Transform) (batch : List ItemPair) :
    Except Failure (List ItemPair) :=
  transforms.foldlM (fun batch transform => pipeline.apply transform batch) batch

/-- Run the transforms of a vector on its first entries. -/
def runTransforms (phase : ItemPhase) (pipeline : Pipeline) (transforms : List Transform)
    (batch : List ItemPair) : Except Failure VectorEntries :=
  if phase.breaks then
    match transforms.getLast? with
    | some last => do
        let before ← runAll pipeline transforms.dropLast batch
        let (pairs, stopped) ← pipeline.applyUntilFound last before
        return { pairs, stopped }
    | none => .ok { pairs := batch, stopped := batch.any (!·.isEmpty) }
  else do
    return { pairs := ← runAll pipeline transforms batch, stopped := false }

/-- The entries of a vector. -/
def entries (phase : ItemPhase) (vector : ItemVector) (keepsPlaceholders : Bool) :
    Except Failure VectorEntries :=
  let items := phase.items vector.itemType
  if items.isEmpty && !vector.countsNothing then
    .ok { pairs := [], stopped := false }
  else do
    let pipeline :=
      { context := phase.context, keepsPlaceholders, expression := vector.written }
    let batch ← phase.startBatch items
    (phase.runTransforms pipeline vector.transforms batch).mapError
      (·.withLocation phase.context.location)

/-- The text that a vector is replaced with. -/
def vectorText (phase : ItemPhase) (vector : ItemVector) (pairs : List ItemPair) : Text :=
  let joined := vector.join pairs
  if phase.options.contains .truncate then phase.context.truncate joined else joined

/-- Replace vectors from left to right; what stands behind one that stopped is dropped. -/
def replaceVectors (phase : ItemPhase) (last : Text) :
    List (Text × ItemVector) → Except Failure Text
  | [] => .ok last
  | (before, vector) :: rest => do
      let found ← phase.entries vector true
      let front := before ++ phase.vectorText vector found.pairs
      if found.stopped then return front
      else return front ++ (← replaceVectors phase last rest)

/-- Replace the vectors in an expression. -/
def text (phase : ItemPhase) (expression : Text) : Except Failure Text :=
  let cut := ItemVector.cut expression
  phase.replaceVectors cut.last cut.found

/-- Expand an expression that is one vector; nothing is given where it holds none or stopped. -/
def single (phase : ItemPhase) (expression : Text) (keepsPlaceholders : Bool) :
    Except Failure (Option SingleVector) :=
  if !phase.options.contains .items then
    .ok none
  else
    match (ItemVector.cut expression).values with
    | [] => .ok none
    | vector :: others => do
        if !others.isEmpty || vector.written ≠ expression.trim then
          throw (phase.context.locate (.vectorConcatenation expression))
        else
          let found ← phase.entries vector keepsPlaceholders
          if found.stopped then return none
          else
            let joined := if vector.separator.isSome then some (vector.join found.pairs) else none
            return some { pairs := found.pairs, joined }

/-- The pairs that a single vector gives: its joined text, or the entries that are not empty. -/
def pairsOf (found : SingleVector) : List ItemPair :=
  match found.joined with
  | some joined => if joined.isEmpty then [] else [.of joined none]
  | none => found.pairs.filter (!·.isEmpty)

end ItemPhase

/-- How the pairs of an expansion become results. -/
structure ItemMaker (α : Type) where
  /-- The spec is the one of its source. -/
  reuse : Item → α
  /-- The spec has a source and differs from it. -/
  derive : Text → Item → α
  /-- The spec has no source. -/
  bare : Text → α

namespace ItemMaker

/-- Make items of one type. -/
def ofFactory (factory : ItemFactory) : ItemMaker Item :=
  { reuse := factory.reuse, derive := factory.derive, bare := factory.bare }

/-- Keep specs only. -/
def specs : ItemMaker Text :=
  { reuse := (·.spec), derive := fun spec _ => spec, bare := id }

/-- The result of a pair, none if its spec is absent or empty. -/
def make? (maker : ItemMaker α) (pair : ItemPair) : Option α :=
  if pair.isEmpty then
    none
  else
    match pair.source with
    | some source =>
        if source.spec = pair.text then some (maker.reuse source)
        else some (maker.derive pair.text source)
    | none => some (maker.bare pair.text)

/-- The results of a single vector. -/
def ofVector (maker : ItemMaker α) (found : SingleVector) : List α :=
  match found.joined with
  | some joined => if joined.isEmpty then [] else [maker.bare joined]
  | none => found.pairs.filterMap maker.make?

end ItemMaker

end RefExpand
