import RefExpand.Expand.Expander

namespace RefExpand

/-!
# The flag to stop does not reach the phases before the items

The metadata phase and the property phase ask for flags of their own. Under
options that also ask to stop at the first entry that is not empty they are the
same computations.
-/

namespace ExpandOptions

/-- The options, stopping at the first entry that is not empty. -/
def breaking
    (options : ExpandOptions) :
    ExpandOptions :=
  options.union .breakOnNotEmpty

/-- Flags that were added are not among the flags that others ask for. -/
theorem bits_and_union
    (options : ExpandOptions)
    {added asked : ExpandOptions}
    (apart : added.bits &&& asked.bits = 0) :
    (options.union added).bits &&& asked.bits = options.bits &&& asked.bits := by
  rw [union, BitVec.and_comm, BitVec.and_or_distrib_left, BitVec.and_comm asked.bits added.bits,
    apart, BitVec.and_comm asked.bits]
  exact BitVec.or_zero

theorem contains_breaking
    (options asked : ExpandOptions)
    (apart : breakOnNotEmpty.bits &&& asked.bits = 0) :
    options.breaking.contains asked = options.contains asked := by
  rw [contains, breaking, bits_and_union options apart, contains]

theorem intersects_breaking
    (options asked : ExpandOptions)
    (apart : breakOnNotEmpty.bits &&& asked.bits = 0) :
    options.breaking.intersects asked = options.intersects asked := by
  rw [intersects, breaking, bits_and_union options apart, intersects]

end ExpandOptions

namespace MetadataPhase

/-- The metadata phase, asked to stop. -/
def breaking
    (phase : MetadataPhase) :
    MetadataPhase :=
  { phase with options := phase.options.breaking }

theorem replace_breaking
    (phase : MetadataPhase)
    (reference : MetadataReference) :
    phase.breaking.replace reference = phase.replace reference := by
  have gate :
      phase.options.breaking.contains (gateOf reference.name) =
        phase.options.contains (gateOf reference.name) := by
    unfold gateOf
    split <;> exact phase.options.contains_breaking _ (by decide)
  have noted :
      phase.breaking.noteSelfReference reference = phase.noteSelfReference reference := by
    simp only [noteSelfReference, breaking, phase.options.contains_breaking
      .logSelfReference (by decide)]
  have cut :
      phase.options.breaking.contains .truncate = phase.options.contains .truncate :=
    phase.options.contains_breaking _ (by decide)
  unfold replace
  rw [noted]
  simp only [breaking, gate, cut]

theorem text_breaking
    (phase : MetadataPhase)
    (expression : Text) :
    phase.breaking.text expression = phase.text expression := by
  have sameReplace : phase.breaking.replace = phase.replace :=
    funext phase.replace_breaking
  rw [text, sameReplace, text]

end MetadataPhase

namespace PropertyPhase

/-- The property phase, asked to stop. -/
def breaking
    (phase : PropertyPhase) :
    PropertyPhase :=
  { phase with options := phase.options.breaking }

theorem guarded_breaking
    (phase : PropertyPhase)
    (written : Text)
    (action : Expansion Value) :
    phase.breaking.guarded written action = phase.guarded written action := by
  have leaves :
      phase.breaking.options.contains .leaveOnError =
        phase.options.contains .leaveOnError :=
    phase.options.contains_breaking _ (by decide)
  rw [guarded, leaves, guarded]

end PropertyPhase

mutual

theorem Template.evaluate_breaking
    (phase : PropertyPhase)
    (adjusts : Bool) :
    ∀ template : Template,
      template.evaluate phase.breaking adjusts = template.evaluate phase adjusts
  | .plain _ => rfl
  | .mixed segments => by
      rw [Template.evaluate, Segment.evaluateAll_breaking phase segments, Template.evaluate]

theorem Segment.evaluateAll_breaking
    (phase : PropertyPhase) :
    ∀ segments : List Segment,
      Segment.evaluateAll phase.breaking segments = Segment.evaluateAll phase segments
  | [] => rfl
  | segment :: rest => by
      rw [Segment.evaluateAll, Segment.evaluate_breaking phase segment,
        Segment.evaluateAll_breaking phase rest, Segment.evaluateAll]

theorem Segment.evaluate_breaking
    (phase : PropertyPhase) :
    ∀ segment : Segment,
      segment.evaluate phase.breaking = segment.evaluate phase
  | .literal _ => rfl
  | .reference written request => by
      rw [Segment.evaluate, Request.evaluate_breaking phase written request, Segment.evaluate]

theorem Request.evaluate_breaking
    (phase : PropertyPhase)
    (written : Text) :
    ∀ request : Request,
      request.evaluate phase.breaking written = request.evaluate phase written
  | .nothing => rfl
  | .cutInside _ _ => rfl
  | .registry key => by
      rw [Request.evaluate, Template.evaluate_breaking phase false key, Request.evaluate]
      rfl
  | .property _ => rfl
  | .call receiver chain => by
      rw [Request.evaluate, PropertyPhase.guarded_breaking, Request.evaluate]
      simp only [CallChain.run_breaking phase written _ chain]
      rfl
  | .uncallable _ _ => PropertyPhase.guarded_breaking phase written _
  | .malformed _ => PropertyPhase.guarded_breaking phase written _

theorem CallChain.run_breaking
    (phase : PropertyPhase)
    (reference : Text)
    (receiver : Option Value) :
    ∀ chain : CallChain,
      chain.run phase.breaking reference receiver = chain.run phase reference receiver
  | .done => rfl
  | .broken _ => rfl
  | .link call arguments next => by
      rw [CallChain.run, TemplateArgument.evaluateAll_breaking phase arguments, CallChain.run]
      simp only [CallChain.run_breaking phase reference _ next]
      rfl

theorem TemplateArgument.evaluateAll_breaking
    (phase : PropertyPhase) :
    ∀ arguments : List TemplateArgument,
      TemplateArgument.evaluateAll phase.breaking arguments =
        TemplateArgument.evaluateAll phase arguments
  | [] => rfl
  | argument :: rest => by
      rw [TemplateArgument.evaluateAll, TemplateArgument.evaluate_breaking phase argument,
        TemplateArgument.evaluateAll_breaking phase rest, TemplateArgument.evaluateAll]

theorem TemplateArgument.evaluate_breaking
    (phase : PropertyPhase) :
    ∀ argument : TemplateArgument,
      argument.evaluate phase.breaking = argument.evaluate phase
  | .null => rfl
  | .out => rfl
  | .template content => by
      rw [TemplateArgument.evaluate, Template.evaluate_breaking phase true content,
        TemplateArgument.evaluate]

end

namespace PropertyPhase

theorem text_breaking
    (phase : PropertyPhase)
    (expression : Text) :
    phase.breaking.text expression = phase.text expression := by
  rw [text, value, Template.evaluate_breaking, text, value]

end PropertyPhase

namespace Expander

/-- What comes before the items is the same. -/
theorem beforeItems_breaking
    (expander : Expander)
    (options : ExpandOptions)
    (expression : Text) :
    expander.beforeItems options.breaking expression =
      expander.beforeItems options expression := by
  have metadata :
      expander.expandMetadata options.breaking expression =
        expander.expandMetadata options expression := by
    unfold expandMetadata
    rw [options.intersects_breaking .metadata (by decide)]
    cases expander.metadata with
    | none =>
        rfl
    | some table =>
        have same :=
          MetadataPhase.text_breaking { table, options, context := expander.context } expression
        simp only [MetadataPhase.breaking] at same
        simp only [same]
  have properties :
      ∀ expanded,
        expander.expandProperties options.breaking expanded =
          expander.expandProperties options expanded := by
    intro expanded
    have same := PropertyPhase.text_breaking (expander.propertyPhase options) expanded
    simp only [PropertyPhase.breaking, propertyPhase] at same
    simp only [expandProperties, propertyPhase, same,
      options.contains_breaking .properties (by decide)]
  simp only [beforeItems, metadata, properties]

end Expander

end RefExpand
