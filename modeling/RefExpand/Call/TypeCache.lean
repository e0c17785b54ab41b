import RefExpand.Call.Catalog

namespace RefExpand

/-!
# The type cache

Types that were found are remembered under their lower-case names, those of the
catalog apart from those that a probe found. The second kind is only looked at
by callers that probe.
-/

/-- A way to find types that are not listed. -/
abbrev TypeProbe := Text → Option TypeEntry

/-- The types found so far. -/
structure TypeCache where
  listed : List (Text × TypeEntry) := []
  probed : List (Text × TypeEntry) := []

namespace TypeCache

/-- Nothing was found yet. -/
def isEmpty (cache : TypeCache) : Bool :=
  cache.listed.isEmpty && cache.probed.isEmpty

/-- Find a type that is not listed, with a probe if it was not found before. -/
def resolveProbed (cache : TypeCache) (probe : TypeProbe) (name : Text) :
    Option TypeEntry × TypeCache :=
  match cache.probed.lookup name.lowerAscii with
  | some entry => (some entry, cache)
  | none =>
      match probe name with
      | some entry =>
          (some entry, { cache with probed := (name.lowerAscii, entry) :: cache.probed })
      | none => (none, cache)

/-- Find a type, remembering what was found. -/
def resolve (cache : TypeCache) (catalog : Catalog) (probe : Option TypeProbe) (name : Text) :
    Option TypeEntry × TypeCache :=
  match cache.listed.lookup name.lowerAscii with
  | some entry => (some entry, cache)
  | none =>
      match catalog.type? name with
      | some entry =>
          (some entry, { cache with listed := (name.lowerAscii, entry) :: cache.listed })
      | none =>
          match probe with
          | some probe => cache.resolveProbed probe name
          | none => (none, cache)

end TypeCache

end RefExpand
