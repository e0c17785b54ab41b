import RefExpand.Text.Basic

namespace RefExpand

/-!
# Expansion options

A set of eight flags: four choose what is expanded, four change how.
-/

/-- A set of flags, one bit each. -/
structure ExpandOptions where
  bits : BitVec 8
  deriving Repr, DecidableEq, Inhabited

namespace ExpandOptions

/-- No flag. -/
def none : ExpandOptions := ⟨0⟩

/-- Expand references to metadata that items carry. -/
def customMetadata : ExpandOptions := ⟨0x1⟩

/-- Expand references to metadata computed from an item's spec. -/
def builtInMetadata : ExpandOptions := ⟨0x2⟩

/-- Expand metadata of both kinds. -/
def metadata : ExpandOptions := ⟨0x3⟩

/-- Expand property references. -/
def properties : ExpandOptions := ⟨0x4⟩

/-- Expand item vectors. -/
def items : ExpandOptions := ⟨0x8⟩

/-- Expand properties and metadata. -/
def propertiesAndMetadata : ExpandOptions := ⟨0x7⟩

/-- Expand properties and item vectors. -/
def propertiesAndItems : ExpandOptions := ⟨0xC⟩

/-- Expand everything. -/
def all : ExpandOptions := ⟨0xF⟩

/-- Stop at the first entry that is not empty. -/
def breakOnNotEmpty : ExpandOptions := ⟨0x10⟩

/-- Leave a property reference as it is written when it fails. -/
def leaveOnError : ExpandOptions := ⟨0x20⟩

/-- Cut long metadata values and joined vectors. -/
def truncate : ExpandOptions := ⟨0x40⟩

/-- Log a message when metadata of the item type being batched is read. -/
def logSelfReference : ExpandOptions := ⟨0x80⟩

/-- All the flags of the other set are in this one. -/
def contains (options other : ExpandOptions) : Bool :=
  options.bits &&& other.bits == other.bits

/-- The sets have a flag in common. -/
def intersects (options other : ExpandOptions) : Bool :=
  options.bits &&& other.bits != 0

/-- The flags of either set. -/
def union (options other : ExpandOptions) : ExpandOptions :=
  ⟨options.bits ||| other.bits⟩

/-- The flags of both sets. -/
def inter (options other : ExpandOptions) : ExpandOptions :=
  ⟨options.bits &&& other.bits⟩

/-- The flags of the first set that are not in the second. -/
def without (options other : ExpandOptions) : ExpandOptions :=
  ⟨options.bits &&& ~~~other.bits⟩

/-- The single flags with their names, in the order of their bits. -/
def flagNames : List (ExpandOptions × Text) := [
  (customMetadata, "ExpandCustomMetadata"),
  (builtInMetadata, "ExpandBuiltInMetadata"),
  (properties, "ExpandProperties"),
  (items, "ExpandItems"),
  (breakOnNotEmpty, "BreakOnNotEmpty"),
  (leaveOnError, "LeavePropertiesUnexpandedOnError"),
  (truncate, "Truncate"),
  (logSelfReference, "LogOnItemMetadataSelfReference")]

/-- The names of the flags of a set. -/
def text (options : ExpandOptions) : Text :=
  let names := (flagNames.filter fun (flag, _) => options.contains flag).map (·.2)
  let inside := if names.isEmpty then "Invalid".toList else Text.join " | " names
  "ExpanderOptions(".toList ++ inside ++ [')']

end ExpandOptions

end RefExpand
