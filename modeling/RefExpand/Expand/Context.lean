import RefExpand.Call.Resolver
import RefExpand.Options

namespace RefExpand

/-!
# What the phases share

The context of an expansion is fixed. What an expansion leaves behind beside its
result is a trace: the properties it looked up, the messages it logged, the types
it found, and how many calls it ran. The trace is kept when the expansion fails.
-/

/-- What became of the lookup of a property. -/
inductive PropertyUsage where
  | found
  | notFound
  | reserved
  deriving Repr, DecidableEq, Inhabited

/-- A message: its key and its arguments. -/
structure LogMessage where
  key : Text
  arguments : List Text
  deriving Repr, DecidableEq

/-- What an expansion leaves behind. -/
structure Trace where
  usage : List (Text × PropertyUsage) := []
  log : List LogMessage := []
  types : TypeCache := {}
  /-- How many calls have run. -/
  calls : Nat := 0

/-- What all phases of an expansion share. -/
structure ExpandContext where
  location : Location := {}
  host : Host
  fileSystem : FileSystem
  resolver : Resolver
  /-- The value under a key and a value name, if there is a registry. -/
  registry : Option (Text → Text → Option Text) := none
  /-- Truncation is switched off whatever the options say. -/
  keepsLongValues : Bool := false
  /-- The item type that a batch runs over. -/
  batchedItemType : Option Text := none
  /-- The wildcards of items are expanded before their transforms. -/
  itemizesWildcards : Bool := false

/-- A computation that leaves a trace and may fail. -/
abbrev Expansion := ExceptT Failure (StateM Trace)

namespace ExpandContext

/-- The number of characters that one value keeps when values are truncated. -/
def characterLimit : Nat := 1024

/-- Cut a value that is too long, so that dots end it at the limit. -/
def truncate (context : ExpandContext) (value : Text) : Text :=
  if context.keepsLongValues || value.length ≤ characterLimit then value
  else value.take (characterLimit - 3) ++ "...".toList

/-- Where the calls of the expansion run. -/
def surroundings (context : ExpandContext) : Surroundings :=
  { host := context.host
    fileSystem := context.fileSystem
    fileDirectory := context.location.directory? }

/-- Attach the location of the context to an error. -/
def locate (context : ExpandContext) (error : ExpandError) : Failure :=
  .error (error.withLocation context.location)

end ExpandContext

namespace Expansion

/-- Note that a property was looked up. -/
def noteUsage (name : Text) (usage : PropertyUsage) : Expansion Unit :=
  modify fun trace => { trace with usage := trace.usage ++ [(name, usage)] }

/-- Note a message. -/
def noteMessage (message : LogMessage) : Expansion Unit :=
  modify fun trace => { trace with log := trace.log ++ [message] }

/-- Count a call, and tell how many ran before it. -/
def takeTurn : Expansion Nat :=
  modifyGet fun trace => (trace.calls, { trace with calls := trace.calls + 1 })

/-- Find a type through the cache. -/
def findType (resolver : Resolver) (name : Text) : Expansion (Option TypeEntry) :=
  modifyGet fun trace =>
    let (found, types) := trace.types.resolve resolver.catalog resolver.allowedProbe name
    (found, { trace with types })

/-- Go on with a result, or fail. -/
def ofExcept (result : Except Failure α) : Expansion α :=
  ExceptT.mk (pure result)

/-- Attach a location to the error of a computation. -/
def located (location : Location) (action : Expansion α) : Expansion α :=
  ExceptT.adapt (·.withLocation location) action

/-- Put a value in the place of an error; a halt goes on. -/
def orElseValue (action : Expansion α) (value : α) : Expansion α :=
  tryCatch action fun failure =>
    match failure with
    | .error _ => pure value
    | .halt breach => throw (.halt breach)

end Expansion

end RefExpand
