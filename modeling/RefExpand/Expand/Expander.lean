import RefExpand.Expand.Items
import RefExpand.Expand.Properties

namespace RefExpand

/-!
# Expanders

An expander runs up to three phases over an expression, always metadata first,
then properties, then items. Which ones run is for the options to say. The forms
differ in what they make of the result: a text, a value, a list of texts, items
or pairs.
-/

/-- What expressions are expanded with. -/
structure Expander where
  properties : PropertyTable := {}
  items : Text → List Item := fun _ => []
  metadata : Option MetadataTable := none
  context : ExpandContext

namespace Expander

/-- The property phase under some options. -/
def propertyPhase (expander : Expander) (options : ExpandOptions) : PropertyPhase :=
  { table := expander.properties, options, context := expander.context }

/-- The item phase under some options. -/
def itemPhase (expander : Expander) (options : ExpandOptions) : ItemPhase :=
  { items := expander.items, options, context := expander.context }

/-- Run the metadata phase, if the options ask for metadata of any kind. -/
def expandMetadata (expander : Expander) (options : ExpandOptions) (expression : Text) :
    Expansion Text :=
  if options.intersects .metadata then
    match expander.metadata with
    | none => throw (.halt .noMetadataTable)
    | some table => ({ table, options, context := expander.context } : MetadataPhase).text expression
  else
    pure expression

/-- Run the property phase, if the options ask for it. -/
def expandProperties (expander : Expander) (options : ExpandOptions) (expression : Text) :
    Expansion Text :=
  if options.contains .properties then (expander.propertyPhase options).text expression
  else pure expression

/-- Run the item phase, if the options ask for it. -/
def expandItems (expander : Expander) (options : ExpandOptions) (expression : Text) :
    Expansion Text :=
  if options.contains .items then
    Expansion.ofExcept ((expander.itemPhase options).text expression)
  else
    pure expression

/-- Run the phases that come before the items. -/
def beforeItems (expander : Expander) (options : ExpandOptions) (expression : Text) :
    Expansion Text := do
  let expanded ← expander.expandMetadata options expression
  expander.expandProperties options expanded

/-- The expanded text in escaped form. -/
def text (expander : Expander) (options : ExpandOptions) (expression : Text) : Expansion Text := do
  let expanded ← expander.beforeItems options expression
  expander.expandItems options expanded

/-- The expanded text in plain form. -/
def plainText (expander : Expander) (options : ExpandOptions) (expression : Text) :
    Expansion Text := do
  return (← expander.text options expression).unescape

/-- The value of an expression; only a text goes through the item phase. -/
def value (expander : Expander) (options : ExpandOptions) (expression : Text) :
    Expansion Value := do
  let expanded ← expander.expandMetadata options expression
  let value ←
    if options.contains .properties then (expander.propertyPhase options).value expanded
    else pure (.str expanded)
  match value with
  | .str text => return .str (← expander.expandItems options text)
  | other => return other

/-- The pieces of the expanded list, in escaped form. -/
def texts (expander : Expander) (options : ExpandOptions) (expression : Text) :
    Expansion (List Text) := do
  return (← expander.text options expression).splitList

/-- The results of a single piece of a list; a piece without a vector stands for itself. -/
def piece (expander : Expander) (options : ExpandOptions) (bare : Text → α)
    (ofVector : SingleVector → List α) (piece : Text) : Expansion (List α) := do
  match ← Expansion.ofExcept ((expander.itemPhase options).single piece false) with
  | some found => return ofVector found
  | none => return [bare piece]

/-- The results of all pieces of the expanded list. -/
def pieces (expander : Expander) (options : ExpandOptions) (bare : Text → α)
    (ofVector : SingleVector → List α) (expression : Text) : Expansion (List α) := do
  let expanded ← expander.beforeItems options expression
  let results ← expanded.splitList.mapM (expander.piece options bare ofVector)
  return results.flatten

/-- The items that an expression stands for. -/
def itemsWith (expander : Expander) (options : ExpandOptions) (maker : ItemMaker α)
    (expression : Text) : Expansion (List α) :=
  expander.pieces options maker.bare maker.ofVector expression

/-- The options under which items are made: everything that can be expanded. -/
def itemOptions (expander : Expander) : ExpandOptions :=
  if expander.metadata.isSome then .all else .propertiesAndItems

/-- The items that an expression stands for, everything expanded. -/
def itemsOf (expander : Expander) (maker : ItemMaker α) (expression : Text) :
    Expansion (List α) :=
  expander.itemsWith expander.itemOptions maker expression

/-- The pairs that an expression stands for. -/
def pairs (expander : Expander) (options : ExpandOptions) (expression : Text) :
    Expansion (List ItemPair) :=
  expander.pieces options (fun piece => .of piece none) ItemPhase.pairsOf expression

/-- The items of an expression that is one vector, no other phase being run. -/
def singleVectorItems (expander : Expander) (options : ExpandOptions) (maker : ItemMaker α)
    (expression : Text) (keepsPlaceholders : Bool) : Expansion (Option (List α)) := do
  let found ←
    Expansion.ofExcept ((expander.itemPhase options).single expression keepsPlaceholders)
  return found.map maker.ofVector

/-- The pairs of a vector, none if expanding stopped at one of them. -/
def vectorPairs (expander : Expander) (options : ExpandOptions) (vector : ItemVector)
    (keepsPlaceholders : Bool) : Expansion (Option (List ItemPair)) := do
  let found ← Expansion.ofExcept ((expander.itemPhase options).entries vector keepsPlaceholders)
  return if found.stopped then none else some found.pairs

end Expander

end RefExpand
