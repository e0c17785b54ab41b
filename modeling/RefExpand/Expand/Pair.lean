import RefExpand.Project.MetadataTable

namespace RefExpand

/-!
# Pairs

The entries of an item vector on their way through its transforms: an escaped
spec, absent in a placeholder, and the item that the entry came from, absent once
a transform has detached it.
-/

/-- A spec and the item it came from. -/
structure ItemPair where
  spec : Option Text
  source : Option Item
  deriving Repr, DecidableEq, Inhabited

namespace ItemPair

/-- A pair with a spec. -/
def of (spec : Text) (source : Option Item) : ItemPair :=
  { spec := some spec, source }

/-- A pair without a spec. -/
def placeholder (source : Option Item) : ItemPair :=
  { spec := none, source }

/-- The spec, empty in a placeholder. -/
def text (pair : ItemPair) : Text :=
  pair.spec.getD []

/-- The pair is a placeholder or its spec is empty. -/
def isEmpty (pair : ItemPair) : Bool :=
  pair.text.isEmpty

/-- The escaped value of metadata of a spec with a source. -/
def metadataOf (spec : Text) (source : Option Item) (fs : FileSystem) (name : Text) :
    Except ExpandError Text :=
  match SpecModifier.ofName? name with
  | some .recursiveDir => .ok ((source.map Item.recursiveDir).getD [])
  | some modifier =>
      modifier.evaluate
        { directory := source.bind (·.directory)
          spec
          definingProject := source.bind (·.definingProject) }
        fs
  | none => .ok ((source.bind fun item => item.customMetadata? name).getD [])

/-- The metadata that the body of a quoted transform sees. -/
def toTable (spec : Text) (source : Option Item) (fs : FileSystem) : MetadataTable where
  value := fun itemType name =>
    match itemType, source with
    | some wanted, some item =>
        if Text.sameName wanted item.itemType then metadataOf spec source fs name else .ok []
    | _, _ => metadataOf spec source fs name
  itemType := source.map (·.itemType)

/-- The escaped value of metadata of the item that the pair came from, empty without one. -/
def sourceMetadata (pair : ItemPair) (fs : FileSystem) (name : Text) : Except ExpandError Text :=
  match pair.source with
  | some item => item.metadataValue fs name
  | none => .ok []

/-- The pair has a source whose metadata has this value, up to ASCII case. -/
def hasMetadataValue (pair : ItemPair) (fs : FileSystem) (name wanted : Text) :
    Except ExpandError Bool := do
  if pair.source.isSome then
    return Text.sameName (← pair.sourceMetadata fs name) wanted
  else
    return false

end ItemPair

end RefExpand
