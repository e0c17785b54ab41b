import RefExpand.Project.Item

namespace RefExpand

/-!
# Properties

Names and escaped values. Names compare up to ASCII case, and the last spelling
that was set is kept.
-/

/-- The properties of a project. -/
structure PropertyTable where
  entries : List (Text × Text) := []
  deriving Repr, DecidableEq

namespace PropertyTable

/-- Set a property. -/
def set (table : PropertyTable) (name value : Text) : PropertyTable :=
  { entries := Item.setIn name value table.entries }

/-- The escaped value of a property. -/
def value? (table : PropertyTable) (name : Text) : Option Text :=
  (table.entries.find? fun (known, _) => Text.sameName known name).map (·.2)

/-- The table without a property. -/
def remove (table : PropertyTable) (name : Text) : PropertyTable :=
  { entries := table.entries.filter fun (known, _) => !Text.sameName known name }

/-- The names, as they were last set. -/
def names (table : PropertyTable) : List Text :=
  table.entries.map (·.1)

/-- The properties set one after the other. -/
def ofList (entries : List (Text × Text)) : PropertyTable :=
  entries.foldl (fun table (name, value) => table.set name value) {}

end PropertyTable

end RefExpand
