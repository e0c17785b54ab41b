import RefExpand.Scan.ItemVector

namespace RefExpand

/-!
# Referenced names

The item types and the metadata that expressions refer to, collected without
evaluating anything. Names compare up to ASCII case; the first spelling is kept,
in the order of first mention. Inside an item vector only the separator counts
as text of its own, unless the bodies of transforms are asked for.
-/

/-- Which names to collect. -/
structure NameSelection where
  itemTypes : Bool := false
  metadata : Bool := false
  inTransforms : Bool := false
  deriving Repr, DecidableEq

namespace NameSelection

/-- Metadata outside transforms. -/
def metadataOnly : NameSelection := { metadata := true }

/-- Item types, and metadata outside transforms. -/
def all : NameSelection := { itemTypes := true, metadata := true }

/-- What either selection asks for. -/
def union (left right : NameSelection) : NameSelection :=
  { itemTypes := left.itemTypes || right.itemTypes
    metadata := left.metadata || right.metadata
    inTransforms := left.inTransforms || right.inTransforms }

end NameSelection

/-- One mention of a name in an expression. -/
inductive Mention where
  | itemType (name : Text)
  | metadata (reference : MetadataReference)
  deriving Repr, DecidableEq

/-- The mentions of an expression from left to right, as far as they are asked for. -/
def mentions (selection : NameSelection) (text : Text) : List Mention :=
  match text with
  | [] => []
  | c :: tail =>
      match _vector : ItemVector.read? (c :: tail) with
      | some (vector, rest) =>
          let inTransforms :=
            if selection.inTransforms then
              vector.transforms.attach.flatMap fun ⟨transform, _isMember⟩ =>
                mentions .metadataOnly transform.inner
            else
              []
          let inSeparator :=
            match _separator : vector.separator with
            | some separator =>
                if selection.metadata then mentions .metadataOnly separator.text else []
            | none => []
          let own := if selection.itemTypes then [.itemType vector.itemType] else []
          inTransforms ++ inSeparator ++ own ++ mentions selection rest
      | none =>
          match _reference : MetadataReference.read? (c :: tail) with
          | some (reference, rest) =>
              let own := if selection.metadata then [.metadata reference] else []
              own ++ mentions selection rest
          | none => mentions selection tail
termination_by text.length
decreasing_by
  · exact (ItemVector.read?_lengths _vector).2.1 _ _isMember
  · exact (ItemVector.read?_lengths _vector).2.2 _ _separator
  · exact (ItemVector.read?_lengths _vector).1
  · exact MetadataReference.read?_length _reference
  · simp

/-- The names that were mentioned, each once, in the order of first mention. -/
structure ReferencedNames where
  itemTypes : List Text := []
  metadata : List MetadataReference := []
  deriving Repr, DecidableEq

namespace ReferencedNames

/-- The item type is among the names. -/
def containsItemType (names : ReferencedNames) (itemType : Text) : Bool :=
  names.itemTypes.any (Text.sameName itemType)

/-- Metadata with this key is among the names. -/
def containsMetadata (names : ReferencedNames) (key : Text) : Bool :=
  names.metadata.any fun reference => Text.sameName key reference.key

/-- Add a mention unless its name is there already. -/
def add (names : ReferencedNames) : Mention → ReferencedNames
  | .itemType itemType =>
      if names.containsItemType itemType then names
      else { names with itemTypes := names.itemTypes ++ [itemType] }
  | .metadata reference =>
      if names.containsMetadata reference.key then names
      else { names with metadata := names.metadata ++ [reference] }

/-- Collect the names that the expressions mention. -/
def collect (selection : NameSelection) (expressions : List Text) : ReferencedNames :=
  (expressions.flatMap (mentions selection)).foldl add {}

/-- The expression refers to metadata outside the transforms of its item vectors. -/
def metadataOutsideTransforms (expression : Text) : Bool :=
  !(collect .metadataOnly [expression]).metadata.isEmpty

end ReferencedNames

end RefExpand
