import RefExpand.Project.SpecModifier

namespace RefExpand

/-!
# Metadata tables

What the names in metadata references stand for. A table answers with escaped
text, empty for what it does not know.
-/

/-- A source of metadata. -/
structure MetadataTable where
  /-- The escaped value of a name, qualified with an item type or not. -/
  value : Option Text → Text → Except ExpandError Text
  /-- The item type that unqualified names belong to. -/
  itemType : Option Text

/-- A metadata table of plain keys, such as `Name` or `Type.Name`. -/
structure StringMetadata where
  entries : List (Text × Text) := []
  itemType : Option Text := none
  deriving Repr, DecidableEq

namespace StringMetadata

/-- Set the value of a key. -/
def set (table : StringMetadata) (key value : Text) : StringMetadata :=
  { table with entries := Item.setIn key value table.entries }

/-- The value of a key, empty if it was never set. -/
def valueOf (table : StringMetadata) (key : Text) : Text :=
  ((table.entries.find? fun (known, _) => Text.sameName known key).map (·.2)).getD []

/-- The table as a source of metadata. -/
def toTable (table : StringMetadata) : MetadataTable where
  value := fun itemType name =>
    match itemType with
    | some itemType => .ok (table.valueOf (itemType ++ '.' :: name))
    | none => .ok (table.valueOf name)
  itemType := table.itemType

end StringMetadata

/-- The metadata of one item; names qualified with another item type are empty. -/
def Item.toTable (item : Item) (fs : FileSystem) : MetadataTable where
  value := fun itemType name =>
    match itemType with
    | some wanted =>
        if Text.sameName wanted item.itemType then item.metadataValue fs name else .ok []
    | none => item.metadataValue fs name
  itemType := some item.itemType

end RefExpand
