import RefExpand.Text.Basic

namespace RefExpand

/-!
# Items

An item has a type, an escaped spec and metadata. Names of types and of metadata
compare up to ASCII case.
-/

/-- One item of a project. -/
structure Item where
  itemType : Text
  /-- The escaped spec that the item was given. -/
  spec : Text
  /-- The escaped spec before its wildcards were expanded. -/
  patternSpec : Option Text := none
  /-- The directory of the project. -/
  directory : Option Text := none
  /-- The project file that defines the item. -/
  definingProject : Option Text := none
  /-- Names and escaped values, each name once. -/
  metadata : List (Text × Text) := []
  deriving Repr, DecidableEq, Inhabited

namespace Item

/-- The spec before wildcard expansion, or else the spec. -/
def writtenSpec (item : Item) : Text :=
  item.patternSpec.getD item.spec

/-- Set a name in a list of names and values; a known name keeps its place and takes the new spelling. -/
def setIn (name value : Text) : List (Text × Text) → List (Text × Text)
  | [] => [(name, value)]
  | (known, old) :: rest =>
      if Text.sameName known name then (name, value) :: rest
      else (known, old) :: setIn name value rest

/-- Set one metadata value. -/
def setMetadata (item : Item) (name value : Text) : Item :=
  { item with metadata := setIn name value item.metadata }

/-- The escaped value of metadata that the item carries. -/
def customMetadata? (item : Item) (name : Text) : Option Text :=
  (item.metadata.find? fun (known, _) => Text.sameName known name).map (·.2)

/-- The item with another spec, no longer known to come from a wildcard. -/
def withSpec (item : Item) (spec : Text) : Item :=
  { item with spec, patternSpec := none }

end Item

/-- How the entries of an expansion become items of one type. -/
structure ItemFactory where
  itemType : Text
  directory : Option Text := none
  deriving Repr, DecidableEq

namespace ItemFactory

/-- The source item under the new type. -/
def reuse (factory : ItemFactory) (source : Item) : Item :=
  { source with itemType := factory.itemType }

/-- The source item under the new type and another spec. -/
def derive (factory : ItemFactory) (spec : Text) (source : Item) : Item :=
  { source.withSpec spec with itemType := factory.itemType }

/-- A new item without metadata. -/
def bare (factory : ItemFactory) (spec : Text) : Item :=
  { itemType := factory.itemType, spec, directory := factory.directory }

end ItemFactory

/-- The items of a project in the order they were added. -/
structure ItemTable where
  all : List Item := []
  deriving Repr, DecidableEq

namespace ItemTable

/-- Add an item at the end. -/
def add (table : ItemTable) (item : Item) : ItemTable :=
  { all := table.all ++ [item] }

/-- The items of a type, in order. -/
def ofType (table : ItemTable) (itemType : Text) : List Item :=
  table.all.filter fun item => Text.sameName item.itemType itemType

/-- The lower-case types that have items, in the order of their first item. -/
def types (table : ItemTable) : List Text :=
  (table.all.map (·.itemType.lowerAscii)).eraseDups

end ItemTable

end RefExpand
