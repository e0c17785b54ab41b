import RefExpand.Expand.Expander
import RefExpand.Proofs.Call.CacheHistory
import RefExpand.Proofs.Expand.MetadataLookups

namespace RefExpand

/-!
# Changing the resolver

An expansion meets its resolver in two places only: where a link of a call is
run, and where a transform calls a member of texts. With resolvers that are the
same outside the gate these places agree, and so does all that is built on them.
-/

/-- Traces that differ in the types they remember, and there behind the gate only. -/
structure Trace.SameOutside
    (left right : Trace) : Prop where
  usage :
    left.usage = right.usage
  log :
    left.log = right.log
  calls :
    left.calls = right.calls
  types :
    left.types.SameOutside right.types

namespace Expansion.Agree

theorem noteUsage
    (name : Text)
    (usage : PropertyUsage) :
    Agree Trace.SameOutside (Expansion.noteUsage name usage)
      (Expansion.noteUsage name usage) :=
  fun _ _ start =>
    ⟨rfl, { start with usage := by simp only [runFrom_noteUsage, start.usage] }⟩

theorem noteMessage
    (message : LogMessage) :
    Agree Trace.SameOutside (Expansion.noteMessage message)
      (Expansion.noteMessage message) :=
  fun _ _ start =>
    ⟨rfl, { start with log := by simp only [runFrom_noteMessage, start.log] }⟩

theorem takeTurn :
    Agree Trace.SameOutside Expansion.takeTurn Expansion.takeTurn :=
  fun _ _ start =>
    ⟨by simp only [runFrom_takeTurn, start.calls],
      { start with calls := by simp only [runFrom_takeTurn, start.calls] }⟩

/-- A call on a type agrees: what the caches give is the same outside the gate. -/
theorem callStatic
    {left right : Resolver}
    (same : left.SameOutside right)
    (typeName name : Text)
    (operands : List Operand)
    (surroundings : Surroundings)
    (context : Text) :
    Agree Trace.SameOutside
      (Expansion.findType left typeName >>= fun found =>
        Expansion.ofExcept (left.callStatic found typeName name operands surroundings context))
      (Expansion.findType right typeName >>= fun found =>
        Expansion.ofExcept (right.callStatic found typeName name operands surroundings context)) := by
  intro before before' start
  have leftUnprobed : left.allowedProbe = none := by
    simp [Resolver.allowedProbe, same.listedOnly]
  have rightUnprobed : right.allowedProbe = none := by
    simp [Resolver.allowedProbe, ← same.policy, same.listedOnly]
  have found := start.types.resolve_unprobed same.catalog typeName
  have remembered := start.types.resolve same.catalog none none typeName
  simp only [runFrom_bind, runFrom_findType, runFrom_ofExcept, leftUnprobed, rightUnprobed]
  exact
    ⟨same.callStatic found typeName name operands surroundings context,
      { start with types := remembered }⟩

end Expansion.Agree

namespace ExpandContext

/-- The context with another resolver. -/
def withResolver
    (context : ExpandContext)
    (resolver : Resolver) :
    ExpandContext :=
  { context with resolver }

theorem callLink_agree
    {context : ExpandContext}
    {resolver : Resolver}
    (same : context.resolver.SameOutside resolver)
    (reference : Text)
    (receiver : Option Value)
    (link : CallLink)
    (operands : List Operand) :
    Expansion.Agree Trace.SameOutside
      (context.callLink reference receiver link operands)
      ((context.withResolver resolver).callLink reference receiver link operands) := by
  unfold callLink
  refine Expansion.Agree.takeTurn.bind fun turn => ?_
  cases link.target with
  | type typeName =>
      exact .callStatic same typeName link.name operands _ reference
  | property _ | result | index =>
      cases receiver with
      | none =>
          exact .throw _
      | some value =>
          exact .ofExcept (same.callInstance link.kind link.name value operands _ reference)

end ExpandContext

namespace PropertyPhase

/-- The property phase with another resolver. -/
def withResolver
    (phase : PropertyPhase)
    (resolver : Resolver) :
    PropertyPhase :=
  { phase with context := phase.context.withResolver resolver }

theorem lookup_agree
    (phase : PropertyPhase)
    (resolver : Resolver)
    (name : Text) :
    Expansion.Agree Trace.SameOutside
      (phase.lookup name) ((phase.withResolver resolver).lookup name) :=
  (Expansion.Agree.noteUsage name (phase.valueOf name).2).bind fun _ => .pure _

theorem receiver_agree
    (phase : PropertyPhase)
    (resolver : Resolver)
    (receiver : Option Text) :
    Expansion.Agree Trace.SameOutside
      (receiver.mapM phase.lookup)
      (receiver.mapM (phase.withResolver resolver).lookup) := by
  cases receiver with
  | none =>
      exact .pure none
  | some name =>
      exact (lookup_agree phase resolver name).bind fun _ => .pure _

theorem guarded_agree
    {phase : PropertyPhase}
    (resolver : Resolver)
    (written : Text)
    {left right : Expansion Value}
    (inner : Expansion.Agree Trace.SameOutside left right) :
    Expansion.Agree Trace.SameOutside
      (phase.guarded written left)
      ((phase.withResolver resolver).guarded written right) := by
  unfold guarded
  change
    Expansion.Agree _ _
      (if phase.options.contains .leaveOnError = true then _ else _)
  split
  · exact inner.orElseValue _
  · exact inner

end PropertyPhase

mutual

/-- A template agrees with itself. -/
theorem Template.evaluate_agree
    {phase : PropertyPhase}
    {resolver : Resolver}
    (same : phase.context.resolver.SameOutside resolver)
    (adjusts : Bool) :
    ∀ template : Template,
      Expansion.Agree Trace.SameOutside
        (template.evaluate phase adjusts)
        (template.evaluate (phase.withResolver resolver) adjusts)
  | .plain _ => .pure _
  | .mixed segments => (Segment.evaluateAll_agree same segments).bind fun _ => .pure _

theorem Segment.evaluateAll_agree
    {phase : PropertyPhase}
    {resolver : Resolver}
    (same : phase.context.resolver.SameOutside resolver) :
    ∀ segments : List Segment,
      Expansion.Agree Trace.SameOutside
        (Segment.evaluateAll phase segments)
        (Segment.evaluateAll (phase.withResolver resolver) segments)
  | [] => .pure _
  | segment :: rest =>
      (Segment.evaluate_agree same segment).bind fun _ =>
        (Segment.evaluateAll_agree same rest).bind fun _ => .pure _

theorem Segment.evaluate_agree
    {phase : PropertyPhase}
    {resolver : Resolver}
    (same : phase.context.resolver.SameOutside resolver) :
    ∀ segment : Segment,
      Expansion.Agree Trace.SameOutside
        (segment.evaluate phase) (segment.evaluate (phase.withResolver resolver))
  | .literal _ => .pure _
  | .reference written request =>
      (Request.evaluate_agree same written request).bind fun _ => .pure _

theorem Request.evaluate_agree
    {phase : PropertyPhase}
    {resolver : Resolver}
    (same : phase.context.resolver.SameOutside resolver)
    (written : Text) :
    ∀ request : Request,
      Expansion.Agree Trace.SameOutside
        (request.evaluate phase written)
        (request.evaluate (phase.withResolver resolver) written)
  | .nothing => .pure _
  | .cutInside _ _ => .throw _
  | .registry key => (Template.evaluate_agree same false key).bind fun _ => .pure _
  | .property name => phase.lookup_agree resolver name
  | .call receiver chain =>
      PropertyPhase.guarded_agree resolver written <|
        (phase.receiver_agree resolver receiver).bind fun value =>
          (CallChain.run_agree same written value chain).located _
  | .uncallable _ _ => PropertyPhase.guarded_agree resolver written (.throw _)
  | .malformed _ => PropertyPhase.guarded_agree resolver written (.throw _)

theorem CallChain.run_agree
    {phase : PropertyPhase}
    {resolver : Resolver}
    (same : phase.context.resolver.SameOutside resolver)
    (reference : Text)
    (receiver : Option Value) :
    ∀ chain : CallChain,
      Expansion.Agree Trace.SameOutside
        (chain.run phase reference receiver)
        (chain.run (phase.withResolver resolver) reference receiver)
  | .done => .pure _
  | .broken _ => .throw _
  | .link call arguments next =>
      (TemplateArgument.evaluateAll_agree same arguments).bind fun operands =>
        (ExpandContext.callLink_agree same reference receiver call operands).bind fun result =>
          CallChain.run_agree same reference (some result) next

theorem TemplateArgument.evaluateAll_agree
    {phase : PropertyPhase}
    {resolver : Resolver}
    (same : phase.context.resolver.SameOutside resolver) :
    ∀ arguments : List TemplateArgument,
      Expansion.Agree Trace.SameOutside
        (TemplateArgument.evaluateAll phase arguments)
        (TemplateArgument.evaluateAll (phase.withResolver resolver) arguments)
  | [] => .pure _
  | argument :: rest =>
      (TemplateArgument.evaluate_agree same argument).bind fun _ =>
        (TemplateArgument.evaluateAll_agree same rest).bind fun _ => .pure _

theorem TemplateArgument.evaluate_agree
    {phase : PropertyPhase}
    {resolver : Resolver}
    (same : phase.context.resolver.SameOutside resolver) :
    ∀ argument : TemplateArgument,
      Expansion.Agree Trace.SameOutside
        (argument.evaluate phase) (argument.evaluate (phase.withResolver resolver))
  | .null => .pure _
  | .out => .pure _
  | .template content => (Template.evaluate_agree same true content).bind fun _ => .pure _

end

namespace Pipeline

/-- The transforms of a vector with another resolver. -/
def withResolver
    (pipeline : Pipeline)
    (resolver : Resolver) :
    Pipeline :=
  { pipeline with context := pipeline.context.withResolver resolver }

theorem directoryNames_withResolver
    (pipeline : Pipeline)
    (resolver : Resolver)
    (known : List (Text × Option Text))
    (batch : List ItemPair) :
    (pipeline.withResolver resolver).directoryNames known batch =
      pipeline.directoryNames known batch := by
  induction batch generalizing known with
  | nil =>
      rfl
  | cons pair rest inductionHypothesis =>
      simp only [directoryNames, inductionHypothesis]
      rfl

theorem runList_withResolver
    (pipeline : Pipeline)
    (resolver : Resolver)
    (function : ListFunction)
    (arguments : List Text)
    (batch : List ItemPair) :
    (pipeline.withResolver resolver).runList function arguments batch =
      pipeline.runList function arguments batch := by
  cases function with
  | directoryName =>
      exact pipeline.directoryNames_withResolver resolver [] batch
  | _ =>
      rfl

variable {pipeline : Pipeline} {resolver : Resolver}

/-- A member of texts gives the same on a spec. -/
theorem callOnSpec_withResolver
    (same : pipeline.context.resolver.SameOutside resolver)
    (name : Text)
    (arguments : List Argument)
    (spec : Text) :
    (pipeline.withResolver resolver).callOnSpec name arguments spec =
      pipeline.callOnSpec name arguments spec := by
  unfold callOnSpec
  rw [same.callInstance]
  rfl

theorem run_withResolver
    (same : pipeline.context.resolver.SameOutside resolver)
    (step : TransformStep)
    (batch : List ItemPair) :
    (pipeline.withResolver resolver).run step batch = pipeline.run step batch := by
  cases step with
  | quoted body =>
      rfl
  | modifier modifier =>
      rfl
  | list function arguments =>
      exact pipeline.runList_withResolver resolver function arguments batch
  | member name arguments =>
      simp only [run, callOnSpec_withResolver same]
      rfl

theorem apply_withResolver
    (same : pipeline.context.resolver.SameOutside resolver)
    (transform : Transform)
    (batch : List ItemPair) :
    (pipeline.withResolver resolver).apply transform batch =
      pipeline.apply transform batch := by
  simp only [apply, run_withResolver same]
  rfl

theorem applyEach_withResolver
    (same : pipeline.context.resolver.SameOutside resolver)
    (transform : Transform)
    (batch : List ItemPair) :
    (pipeline.withResolver resolver).applyEach transform batch =
      pipeline.applyEach transform batch := by
  induction batch with
  | nil =>
      rfl
  | cons pair rest inductionHypothesis =>
      simp only [applyEach, apply_withResolver same, inductionHypothesis]

/-- The last transform gives the same, and stops at the same place. -/
theorem applyUntilFound_withResolver
    (same : pipeline.context.resolver.SameOutside resolver)
    (transform : Transform)
    (batch : List ItemPair) :
    (pipeline.withResolver resolver).applyUntilFound transform batch =
      pipeline.applyUntilFound transform batch := by
  simp only [applyUntilFound, applyEach_withResolver same, apply_withResolver same]

end Pipeline

namespace ItemPhase

/-- The item phase with another resolver. -/
def withResolver
    (phase : ItemPhase)
    (resolver : Resolver) :
    ItemPhase :=
  { phase with context := phase.context.withResolver resolver }

theorem runAll_withResolver
    {pipeline : Pipeline}
    {resolver : Resolver}
    (same : pipeline.context.resolver.SameOutside resolver)
    (transforms : List Transform)
    (batch : List ItemPair) :
    runAll (pipeline.withResolver resolver) transforms batch =
      runAll pipeline transforms batch := by
  simp only [runAll, Pipeline.apply_withResolver same]

variable {phase : ItemPhase} {resolver : Resolver}

theorem entries_withResolver
    (same : phase.context.resolver.SameOutside resolver)
    (vector : ItemVector)
    (keepsPlaceholders : Bool) :
    (phase.withResolver resolver).entries vector keepsPlaceholders =
      phase.entries vector keepsPlaceholders := by
  let pipeline : Pipeline :=
    { context := phase.context, keepsPlaceholders, expression := vector.written }
  have samePipeline : pipeline.context.resolver.SameOutside resolver := same
  have transforms :
      ∀ batch,
        (phase.withResolver resolver).runTransforms (pipeline.withResolver resolver)
            vector.transforms batch =
          phase.runTransforms pipeline vector.transforms batch := by
    intro batch
    simp only [runTransforms, runAll_withResolver samePipeline,
      Pipeline.applyUntilFound_withResolver samePipeline]
    rfl
  change
    (if _ then _ else do
      let batch ← _
      ((phase.withResolver resolver).runTransforms (pipeline.withResolver resolver)
        vector.transforms batch).mapError _) = _
  simp only [transforms]
  rfl

/-- Vectors are replaced with the same texts. -/
theorem replaceVectors_withResolver
    (same : phase.context.resolver.SameOutside resolver)
    (last : Text)
    (found : List (Text × ItemVector)) :
    (phase.withResolver resolver).replaceVectors last found =
      phase.replaceVectors last found := by
  induction found with
  | nil =>
      rfl
  | cons head rest inductionHypothesis =>
      simp only [replaceVectors, entries_withResolver same, inductionHypothesis]
      rfl

/-- The item phase gives the same text. -/
theorem text_withResolver
    (same : phase.context.resolver.SameOutside resolver)
    (expression : Text) :
    (phase.withResolver resolver).text expression = phase.text expression :=
  replaceVectors_withResolver same _ _

/-- An expression that is one vector gives the same entries. -/
theorem single_withResolver
    (same : phase.context.resolver.SameOutside resolver)
    (expression : Text)
    (keepsPlaceholders : Bool) :
    (phase.withResolver resolver).single expression keepsPlaceholders =
      phase.single expression keepsPlaceholders := by
  simp only [single, entries_withResolver same]
  rfl

end ItemPhase

namespace MetadataPhase

/-- The metadata phase with another resolver. -/
def withResolver
    (phase : MetadataPhase)
    (resolver : Resolver) :
    MetadataPhase :=
  { phase with context := phase.context.withResolver resolver }

theorem noteSelfReference_agree
    (phase : MetadataPhase)
    (resolver : Resolver)
    (reference : MetadataReference) :
    Expansion.Agree Trace.SameOutside
      (phase.noteSelfReference reference)
      ((phase.withResolver resolver).noteSelfReference reference) := by
  dsimp only [noteSelfReference, withResolver, ExpandContext.withResolver]
  cases phase.table.itemType.or phase.context.batchedItemType with
  | none =>
      exact .pure _
  | some current =>
      dsimp only
      split
      · exact .noteMessage _
      · exact .pure _

theorem replace_agree
    (phase : MetadataPhase)
    (resolver : Resolver)
    (reference : MetadataReference) :
    Expansion.Agree Trace.SameOutside
      (phase.replace reference) ((phase.withResolver resolver).replace reference) := by
  unfold replace
  change
    Expansion.Agree _
      _ (if phase.options.contains (gateOf reference.name) = true then _ else _)
  split
  · refine Expansion.Agree.bind (.ofExcept rfl) fun value => ?_
    exact (phase.noteSelfReference_agree resolver reference).bind fun _ => .pure _
  · exact .pure _

/-- The metadata phase agrees with itself. -/
theorem text_agree
    (phase : MetadataPhase)
    (resolver : Resolver)
    (expression : Text) :
    Expansion.Agree Trace.SameOutside
      (phase.text expression) ((phase.withResolver resolver).text expression) :=
  ItemVector.replaceAround_agree fun reference _ => phase.replace_agree resolver reference

end MetadataPhase

end RefExpand
