import RefExpand.Expand.Context

namespace RefExpand

/-!
# Records of property usage

Lookups are recorded in their order, so that properties that were read before
they were set can be named.
-/

/-- The lookups recorded so far. -/
structure UsageRecord where
  entries : List (Text × PropertyUsage) := []
  deriving Repr, DecidableEq

namespace UsageRecord

/-- Record one lookup. -/
def add (record : UsageRecord) (name : Text) (usage : PropertyUsage) : UsageRecord :=
  { entries := record.entries ++ [(name, usage)] }

/-- Record the lookups of an expansion. -/
def addAll (record : UsageRecord) (usage : List (Text × PropertyUsage)) : UsageRecord :=
  { entries := record.entries ++ usage }

/-- Keep the first spelling of each name, comparing up to ASCII case. -/
def firstSpellings : (seen : List Text) → List Text → List Text
  | _, [] => []
  | seen, name :: rest =>
      if seen.any (Text.sameName name) then firstSpellings seen rest
      else name :: firstSpellings (name :: seen) rest

/-- The names that were not found, each once. -/
def uninitialized (record : UsageRecord) : List Text :=
  firstSpellings [] <|
    (record.entries.filter fun (_, usage) => usage == .notFound).map (·.1)

end UsageRecord

end RefExpand
