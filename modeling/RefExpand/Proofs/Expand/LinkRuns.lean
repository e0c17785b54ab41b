import RefExpand.Expand.Properties
import RefExpand.Proofs.Call.CacheHistory
import RefExpand.Proofs.Expand.Run

namespace RefExpand

/-!
# Runs of single links

A link on a listed type ends as the member of the type does, whatever was looked up
before it: the cache of types holds nothing that the catalog does not list.
-/

/-- What the cache of types remembers, the catalog lists. -/
def Trace.FaithfulTo
    (catalog : Catalog)
    (trace : Trace) :
    Prop :=
  trace.types.Faithful catalog

/-- A call on a listed type ends as its member does, whatever the cache holds. -/
theorem ExpandContext.callLink_type_ends
    {context : ExpandContext}
    {link : CallLink}
    {typeName : Text}
    (onType : link.target = .type typeName)
    {entry : TypeEntry}
    (isListed : context.resolver.catalog.type? typeName = some entry)
    {operands : List Operand}
    {reference : Text}
    {outcome : Except Failure Value → Prop}
    (calls :
      ∀ surroundings,
        outcome
          (context.resolver.callStatic (some entry) typeName link.name operands surroundings
            reference))
    (receiver : Option Value) :
    (context.callLink reference receiver link operands).Ends
      (Trace.FaithfulTo context.resolver.catalog) outcome := by
  intro before faithful
  have found :
      (before.types.resolve context.resolver.catalog context.resolver.allowedProbe
        typeName).1 = some entry :=
    TypeCache.Faithful.resolve_eq faithful isListed _
  have kept :
      (before.types.resolve context.resolver.catalog context.resolver.allowedProbe
        typeName).2.Faithful context.resolver.catalog :=
    TypeCache.Faithful.resolve faithful _ _
  rw [ExpandContext.callLink, Expansion.runFrom_bind, Expansion.runFrom_takeTurn]
  dsimp only
  rw [onType]
  dsimp only
  rw [Expansion.runFrom_bind, Expansion.runFrom_findType]
  dsimp only
  -- Turns differ from run to run, so the outcome holds wherever the call stands.
  rw [found, Expansion.runFrom_ofExcept]
  exact ⟨calls _, kept⟩

end RefExpand
