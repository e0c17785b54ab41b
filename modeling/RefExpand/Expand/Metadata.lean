import RefExpand.Expand.Context
import RefExpand.Project.MetadataTable
import RefExpand.Scan.ItemVector

namespace RefExpand

/-!
# The metadata phase

References to metadata are replaced everywhere but inside item vectors, of which
only the separator is touched. The replacement itself is an action, so that one
walk over the text serves the phase and the transforms.
-/

namespace MetadataReference

/-- Replace every reference in a text. -/
def replaceIn [Monad m] (replace : MetadataReference → m Text) (text : Text) : m Text := do
  let cut := MetadataReference.cut text
  let pieces ← cut.found.mapM fun (before, reference) => do
    return before ++ (← replace reference)
  return pieces.flatten ++ cut.last

end MetadataReference

namespace ItemVector

/-- The written vector with another separator. -/
def withSeparatorText (vector : ItemVector) (separator : Separator) (text : Text) : Text :=
  vector.written.take separator.offset ++ text ++
    vector.written.drop (separator.offset + separator.text.length)

/-- Replace the references in the separator of a vector. -/
def replaceInSeparator [Monad m] (replace : MetadataReference → m Text) (vector : ItemVector) :
    m Text :=
  match vector.separator with
  | none => pure vector.written
  | some separator => do
      return vector.withSeparatorText separator
        (← MetadataReference.replaceIn replace separator.text)

/-- Replace the references in a text, of its item vectors only in the separators. -/
def replaceAround [Monad m] (replace : MetadataReference → m Text) (text : Text) : m Text := do
  let cut := ItemVector.cut text
  let pieces ← cut.found.mapM fun (before, vector) => do
    let outside ← MetadataReference.replaceIn replace before
    return outside ++ (← replaceInSeparator replace vector)
  return pieces.flatten ++ (← MetadataReference.replaceIn replace cut.last)

end ItemVector

/-- What the metadata phase works with. -/
structure MetadataPhase where
  table : MetadataTable
  options : ExpandOptions
  context : ExpandContext

namespace MetadataPhase

/-- The option that a name needs: names of modifiers are built in, all others custom. -/
def gateOf (name : Text) : ExpandOptions :=
  if (SpecModifier.ofName? name).isSome then .builtInMetadata else .customMetadata

/-- The message that an item type's metadata is read while items of that type are made. -/
def selfReference (current name : Text) : LogMessage :=
  { key := "ItemReferencingSelfInTarget", arguments := [current, name] }

/-- Note a reference to the item type being batched; unqualified names belong to it. -/
def noteSelfReference (phase : MetadataPhase) (reference : MetadataReference) :
    Expansion Unit :=
  match phase.table.itemType.or phase.context.batchedItemType with
  | some current =>
      if phase.options.contains .logSelfReference && reference.itemType.all (· == current) then
        Expansion.noteMessage (selfReference current reference.name)
      else
        pure ()
  | none => pure ()

/-- Replace one reference, if the options ask for metadata of its kind. -/
def replace (phase : MetadataPhase) (reference : MetadataReference) : Expansion Text :=
  if phase.options.contains (gateOf reference.name) then do
    let value ← Expansion.ofExcept <|
      (phase.table.value reference.itemType reference.name).mapError .error
    phase.noteSelfReference reference
    return if phase.options.contains .truncate then phase.context.truncate value else value
  else
    pure reference.written

/-- Replace the references in an expression. -/
def text (phase : MetadataPhase) (expression : Text) : Expansion Text :=
  ItemVector.replaceAround phase.replace expression

end MetadataPhase

namespace MetadataTable

/-- Replace every reference in a text with its value. -/
def fill (table : MetadataTable) (text : Text) : Except ExpandError Text :=
  ItemVector.replaceAround (fun reference => table.value reference.itemType reference.name) text

end MetadataTable

end RefExpand
