import RefExpand.Proofs.Expand.ResolverChange

namespace RefExpand

/-!
# What is behind the gate stays behind it

Under a policy that neither lifts the gate nor probes, no form of expansion
depends on the withheld members: not on what they would do, not on the types
that a probe would find, and not on what others left in the cache of types.
-/

/-- From these traces both end with the same result, and leave the same behind. -/
structure Expansion.SameOutcome
    (left right : Expansion α)
    (before before' : Trace) : Prop where
  result :
    (left.runFrom before).1 = (right.runFrom before').1
  usage :
    (left.runFrom before).2.usage = (right.runFrom before').2.usage
  log :
    (left.runFrom before).2.log = (right.runFrom before').2.log
  calls :
    (left.runFrom before).2.calls = (right.runFrom before').2.calls

/-- Computations that agree outside the gate have the same outcome. -/
theorem Expansion.Agree.sameOutcome
    {left right : Expansion α}
    (agree : Expansion.Agree Trace.SameOutside left right)
    {before before' : Trace}
    (start : before.SameOutside before') :
    left.SameOutcome right before before' := by
  obtain ⟨result, after⟩ := agree before before' start
  exact { result, usage := after.usage, log := after.log, calls := after.calls }

namespace Expander

/-- The expander with another resolver. -/
def withResolver
    (expander : Expander)
    (resolver : Resolver) :
    Expander :=
  { expander with context := expander.context.withResolver resolver }

/-- From these traces every form of expansion has the same outcome. -/
structure SameOutcomes
    (left right : Expander)
    (before before' : Trace) : Prop where
  text :
    ∀ options expression,
      (left.text options expression).SameOutcome
        (right.text options expression) before before'
  plainText :
    ∀ options expression,
      (left.plainText options expression).SameOutcome
        (right.plainText options expression) before before'
  value :
    ∀ options expression,
      (left.value options expression).SameOutcome
        (right.value options expression) before before'
  texts :
    ∀ options expression,
      (left.texts options expression).SameOutcome
        (right.texts options expression) before before'
  items :
    ∀ {α : Type} options (maker : ItemMaker α) expression,
      (left.itemsWith options maker expression).SameOutcome
        (right.itemsWith options maker expression) before before'
  pairs :
    ∀ options expression,
      (left.pairs options expression).SameOutcome
        (right.pairs options expression) before before'
  singleVectorItems :
    ∀ {α : Type} options (maker : ItemMaker α) expression keepsPlaceholders,
      (left.singleVectorItems options maker expression keepsPlaceholders).SameOutcome
        (right.singleVectorItems options maker expression keepsPlaceholders) before before'
  vectorPairs :
    ∀ options vector keepsPlaceholders,
      (left.vectorPairs options vector keepsPlaceholders).SameOutcome
        (right.vectorPairs options vector keepsPlaceholders) before before'

variable {expander : Expander} {resolver : Resolver}

theorem expandMetadata_agree
    (expander : Expander)
    (resolver : Resolver)
    (options : ExpandOptions)
    (expression : Text) :
    Expansion.Agree Trace.SameOutside
      (expander.expandMetadata options expression)
      ((expander.withResolver resolver).expandMetadata options expression) := by
  dsimp only [expandMetadata, withResolver]
  split
  · cases expander.metadata with
    | none =>
        exact .throw _
    | some table =>
        exact MetadataPhase.text_agree { table, options, context := expander.context }
          resolver expression
  · exact .pure _

theorem expandProperties_agree
    (same : expander.context.resolver.SameOutside resolver)
    (options : ExpandOptions)
    (expression : Text) :
    Expansion.Agree Trace.SameOutside
      (expander.expandProperties options expression)
      ((expander.withResolver resolver).expandProperties options expression) := by
  have samePhase :
      (expander.propertyPhase options).context.resolver.SameOutside resolver :=
    same
  unfold expandProperties
  split
  · exact (Template.evaluate_agree samePhase true _).bind fun _ => .pure _
  · exact .pure _

theorem expandItems_agree
    (same : expander.context.resolver.SameOutside resolver)
    (options : ExpandOptions)
    (expression : Text) :
    Expansion.Agree Trace.SameOutside
      (expander.expandItems options expression)
      ((expander.withResolver resolver).expandItems options expression) := by
  have samePhase :
      (expander.itemPhase options).context.resolver.SameOutside resolver :=
    same
  unfold expandItems
  split
  · exact .ofExcept (ItemPhase.text_withResolver samePhase expression).symm
  · exact .pure _

theorem beforeItems_agree
    (same : expander.context.resolver.SameOutside resolver)
    (options : ExpandOptions)
    (expression : Text) :
    Expansion.Agree Trace.SameOutside
      (expander.beforeItems options expression)
      ((expander.withResolver resolver).beforeItems options expression) :=
  (expander.expandMetadata_agree resolver options expression).bind
    (expandProperties_agree same options)

theorem text_agree
    (same : expander.context.resolver.SameOutside resolver)
    (options : ExpandOptions)
    (expression : Text) :
    Expansion.Agree Trace.SameOutside
      (expander.text options expression)
      ((expander.withResolver resolver).text options expression) :=
  (beforeItems_agree same options expression).bind (expandItems_agree same options)

/-- The value of an expression agrees, whether it is a text or not. -/
theorem value_agree
    (same : expander.context.resolver.SameOutside resolver)
    (options : ExpandOptions)
    (expression : Text) :
    Expansion.Agree Trace.SameOutside
      (expander.value options expression)
      ((expander.withResolver resolver).value options expression) := by
  have samePhase :
      (expander.propertyPhase options).context.resolver.SameOutside resolver :=
    same
  unfold value
  refine (expander.expandMetadata_agree resolver options expression).bind fun expanded => ?_
  split
  · refine (Template.evaluate_agree samePhase true _).bind fun value => ?_
    -- Only a text goes on to the item phase.
    cases value with
    | str text =>
        exact (expandItems_agree same options text).bind fun _ => .pure _
    | _ =>
        exact .pure _
  · exact (expandItems_agree same options expanded).bind fun _ => .pure _

theorem single_agree
    (same : expander.context.resolver.SameOutside resolver)
    (options : ExpandOptions)
    (piece : Text)
    (keepsPlaceholders : Bool) :
    Expansion.Agree Trace.SameOutside
      (Expansion.ofExcept ((expander.itemPhase options).single piece keepsPlaceholders))
      (Expansion.ofExcept
        (((expander.withResolver resolver).itemPhase options).single piece
          keepsPlaceholders)) := by
  have samePhase :
      (expander.itemPhase options).context.resolver.SameOutside resolver :=
    same
  exact .ofExcept (ItemPhase.single_withResolver samePhase piece keepsPlaceholders).symm

theorem entries_agree
    (same : expander.context.resolver.SameOutside resolver)
    (options : ExpandOptions)
    (vector : ItemVector)
    (keepsPlaceholders : Bool) :
    Expansion.Agree Trace.SameOutside
      (Expansion.ofExcept ((expander.itemPhase options).entries vector keepsPlaceholders))
      (Expansion.ofExcept
        (((expander.withResolver resolver).itemPhase options).entries vector
          keepsPlaceholders)) := by
  have samePhase :
      (expander.itemPhase options).context.resolver.SameOutside resolver :=
    same
  exact .ofExcept (ItemPhase.entries_withResolver samePhase vector keepsPlaceholders).symm

/-- The results of the pieces of a list agree. -/
theorem pieces_agree
    (same : expander.context.resolver.SameOutside resolver)
    (options : ExpandOptions)
    (bare : Text → α)
    (ofVector : SingleVector → List α)
    (expression : Text) :
    Expansion.Agree Trace.SameOutside
      (expander.pieces options bare ofVector expression)
      ((expander.withResolver resolver).pieces options bare ofVector expression) := by
  unfold pieces
  refine (beforeItems_agree same options expression).bind fun expanded => ?_
  refine Expansion.Agree.bind (.mapM (fun piece => ?_) _) fun _ => .pure _
  refine (single_agree same options piece false).bind fun found => ?_
  cases found <;> exact .pure _

/-- From traces that are the same outside the gate every form has the same outcome. -/
theorem sameOutcomes_withResolver
    (same : expander.context.resolver.SameOutside resolver)
    {before before' : Trace}
    (start : before.SameOutside before') :
    expander.SameOutcomes (expander.withResolver resolver) before before' where
  text options expression :=
    (text_agree same options expression).sameOutcome start
  plainText options expression :=
    ((text_agree same options expression).bind fun _ => .pure _).sameOutcome start
  value options expression :=
    (value_agree same options expression).sameOutcome start
  texts options expression :=
    ((text_agree same options expression).bind fun _ => .pure _).sameOutcome start
  items options maker expression :=
    (pieces_agree same options maker.bare maker.ofVector expression).sameOutcome start
  pairs options expression :=
    (pieces_agree same options _ _ expression).sameOutcome start
  singleVectorItems options _ expression keepsPlaceholders :=
    ((single_agree same options expression keepsPlaceholders).bind fun _ =>
      .pure _).sameOutcome start
  vectorPairs options vector keepsPlaceholders :=
    ((entries_agree same options vector keepsPlaceholders).bind fun _ =>
      .pure _).sameOutcome start

/--
Under a policy that neither lifts the gate nor probes, no form of expansion
depends on what is behind the gate: other bodies there, another probe, and
whatever earlier calls with or without probes left in the cache of types make
no difference to the outcome.
-/
theorem outcomes_independent_of_withheld
    (expander : Expander)
    (gated : expander.context.resolver.policy.allowAll = false)
    (listedOnly : expander.context.resolver.policy.probesTypes = false)
    (bodies : WithheldBodies)
    (probe : TypeProbe)
    (earlier : List CacheCall)
    (before : Trace) :
    let catalog := expander.context.resolver.catalog
    let replaced := catalog.replaceWithheld bodies
    expander.SameOutcomes
      (expander.withResolver { expander.context.resolver with catalog := replaced, probe })
      { before with types := TypeCache.history catalog earlier }
      { before with types := TypeCache.history replaced earlier } := by
  intro catalog replaced
  have catalogs : catalog.SameOutside replaced :=
    catalog.replaceWithheld_sameOutside bodies
  have resolvers :
      expander.context.resolver.SameOutside
        { expander.context.resolver with catalog := replaced, probe } :=
    { catalog := catalogs, policy := rfl, gated, listedOnly }
  exact sameOutcomes_withResolver resolvers
    { usage := rfl
      log := rfl
      calls := rfl
      types := .history catalogs earlier }

/-- On an empty machine other members may all be called, be probed for, and be forgotten. -/
theorem outcomes_independent_of_withheld_on_empty_machine :
    let other : List ParameterType → Body := fun _ _ => .ok (.str "other".toList)
    let bodies : WithheldBodies :=
      { onType := fun _ _ => other, onValue := fun _ => other, probed := fun _ _ => other }
    let replaced := Catalog.standard.replaceWithheld bodies
    let earlier : List CacheCall :=
      [.resolve none "System.IO.Directory".toList, .clear,
        .resolve (some Catalog.additionalType?) SystemTypes.runtimeType.name]
    let expander : Expander := { context := .onEmptyMachine }
    expander.SameOutcomes
      (expander.withResolver
        { catalog := replaced, probe := replaced.additionalType? })
      { types := TypeCache.history Catalog.standard earlier }
      { types := TypeCache.history replaced earlier } :=
  outcomes_independent_of_withheld { context := .onEmptyMachine } rfl rfl _ _ _ {}

end Expander

/-- Of the listed standard types these are the members behind the gate. -/
theorem Catalog.standard_withheld :
    standard.types.flatMap (fun entry => entry.withheld.map fun name => (entry.name, name)) =
      [("System.Environment".toList, "GetEnvironmentVariables".toList),
        ("System.IO.Directory".toList, "GetCurrentDirectory".toList)] := by
  rfl

end RefExpand
