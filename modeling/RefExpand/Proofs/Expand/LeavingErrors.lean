import RefExpand.Proofs.Expand.PropertyReads
import RefExpand.Proofs.Expand.SplitBodies

namespace RefExpand

/-!
# Leaving references as they are written

Asked to leave references that fail, the property phase ends with no error: each reference
catches what its call raises, at every depth. Catching changes nothing where nothing is
raised, so an expression that has a value without being asked has the same value, and its
run leaves the same trace. A halt is not caught.
-/

namespace ExpandOptions

theorem contains_union_self
    (options asked : ExpandOptions) :
    (options.union asked).contains asked = true := by
  have bits : (options.bits ||| asked.bits) &&& asked.bits = asked.bits := by
    ext i isBit
    rw [BitVec.getElem_and, BitVec.getElem_or]
    cases options.bits[i] <;> simp
  rw [contains, union, bits, beq_self_eq_true]

theorem contains_without_self
    (options : ExpandOptions)
    {asked : ExpandOptions}
    (some : asked.bits ≠ 0) :
    (options.without asked).contains asked = false := by
  have bits : (options.bits &&& ~~~asked.bits) &&& asked.bits = 0 := by
    rw [BitVec.and_assoc, BitVec.and_comm (~~~asked.bits)]
    simp
  rw [contains, without, bits, beq_eq_false_iff_ne]
  exact some.symm

end ExpandOptions

namespace Expansion

/-- Whenever the first computation gives a value, the second gives it too, with the same trace. -/
def ValuesKept
    (first second : Expansion α) :
    Prop :=
  ∀ before value after,
    first.runFrom before = (.ok value, after) →
      second.runFrom before = (.ok value, after)

namespace ValuesKept

variable {first second : Expansion α}

theorem refl
    (action : Expansion α) :
    ValuesKept action action :=
  fun _ _ _ run => run

/-- A failure is no value that would have to be kept. -/
theorem throw
    (failure : Failure)
    (second : Expansion α) :
    ValuesKept (MonadExcept.throw failure) second := by
  rintro before value after ⟨⟩

theorem bind
    {firstNext secondNext : α → Expansion β}
    (kept : ValuesKept first second)
    (nextKept : ∀ value, ValuesKept (firstNext value) (secondNext value)) :
    ValuesKept (first >>= firstNext) (second >>= secondNext) := by
  intro before value after run
  obtain ⟨found, middle, firstRun, nextRun⟩ := exists_of_runFrom_bind run
  rw [runFrom_bind, kept before found middle firstRun]
  exact nextKept found middle value after nextRun

theorem bind_pure
    (kept : ValuesKept first second)
    (make : α → β) :
    ValuesKept (first >>= fun value => Pure.pure (make value))
      (second >>= fun value => Pure.pure (make value)) :=
  kept.bind fun value => refl (Pure.pure (make value))

theorem located
    (kept : ValuesKept first second)
    (location : Location) :
    ValuesKept (Expansion.located location first) (Expansion.located location second) := by
  intro before value after run
  rw [runFrom_located] at run ⊢
  rcases firstRun : first.runFrom before with ⟨result, middle⟩
  rw [firstRun] at run
  cases result with
  | error failure =>
      cases run
  | ok found =>
      cases run
      rw [kept before _ _ firstRun]
      rfl

/-- A value in the place of errors is not needed where there is a value. -/
theorem orElseValue
    (kept : ValuesKept first second)
    (value : α) :
    ValuesKept first (second.orElseValue value) := by
  intro before found after run
  rw [runFrom_orElseValue, kept before found after run]

end ValuesKept

end Expansion

namespace PropertyPhase

/-- The phase, asked to leave the references that fail. -/
def leaving
    (phase : PropertyPhase) :
    PropertyPhase :=
  { phase with options := phase.options.union .leaveOnError }

/-- The phase, not asked to leave the references that fail. -/
def failing
    (phase : PropertyPhase) :
    PropertyPhase :=
  { phase with options := phase.options.without .leaveOnError }

theorem contains_leaving
    (phase : PropertyPhase) :
    phase.leaving.options.contains .leaveOnError = true :=
  phase.options.contains_union_self .leaveOnError

theorem contains_failing
    (phase : PropertyPhase) :
    phase.failing.options.contains .leaveOnError = false :=
  phase.options.contains_without_self (by decide)

/-- A guard that is up keeps the values of what it guards. -/
theorem guarded_keeps
    (phase : PropertyPhase)
    (written : Text)
    {first second : Expansion Value}
    (kept : Expansion.ValuesKept first second) :
    Expansion.ValuesKept
      (phase.failing.guarded written first)
      (phase.leaving.guarded written second) := by
  rw [guarded_eq_self phase.contains_failing, guarded, if_pos phase.contains_leaving]
  exact kept.orElseValue _

end PropertyPhase

mutual

/-- The value of a template is kept when the references in it may be left. -/
theorem Template.evaluate_keeps
    (phase : PropertyPhase)
    (adjusts : Bool) :
    ∀ template : Template,
      Expansion.ValuesKept
        (template.evaluate phase.failing adjusts)
        (template.evaluate phase.leaving adjusts)
  | .plain _ => .refl _
  | .mixed segments => (Segment.evaluateAll_keeps phase segments).bind_pure _

theorem Segment.evaluateAll_keeps
    (phase : PropertyPhase) :
    ∀ segments : List Segment,
      Expansion.ValuesKept
        (Segment.evaluateAll phase.failing segments)
        (Segment.evaluateAll phase.leaving segments)
  | [] => .refl _
  | segment :: rest =>
      (Segment.evaluate_keeps phase segment).bind fun _ =>
        (Segment.evaluateAll_keeps phase rest).bind_pure _

theorem Segment.evaluate_keeps
    (phase : PropertyPhase) :
    ∀ segment : Segment,
      Expansion.ValuesKept (segment.evaluate phase.failing) (segment.evaluate phase.leaving)
  | .literal _ => .refl _
  | .reference written request => (Request.evaluate_keeps phase written request).bind_pure _

theorem Request.evaluate_keeps
    (phase : PropertyPhase)
    (written : Text) :
    ∀ request : Request,
      Expansion.ValuesKept
        (request.evaluate phase.failing written)
        (request.evaluate phase.leaving written)
  | .nothing => .refl _
  | .cutInside _ _ => .refl _
  | .registry key => (Template.evaluate_keeps phase false key).bind_pure _
  | .property _ => .refl _
  | .call receiver chain => by
      rw [Request.evaluate, Request.evaluate]
      refine phase.guarded_keeps written (Expansion.ValuesKept.bind (.refl _) fun value => ?_)
      exact (CallChain.run_keeps phase written value chain).located _
  | .uncallable _ _ => by
      rw [Request.evaluate, Request.evaluate]
      exact phase.guarded_keeps written (.throw _ _)
  | .malformed _ => by
      rw [Request.evaluate, Request.evaluate]
      exact phase.guarded_keeps written (.throw _ _)

theorem CallChain.run_keeps
    (phase : PropertyPhase)
    (reference : Text)
    (receiver : Option Value) :
    ∀ chain : CallChain,
      Expansion.ValuesKept
        (chain.run phase.failing reference receiver)
        (chain.run phase.leaving reference receiver)
  | .done => .refl _
  | .broken _ => .refl _
  | .link _ arguments next =>
      (TemplateArgument.evaluateAll_keeps phase arguments).bind fun _ =>
        Expansion.ValuesKept.bind (.refl _) fun result =>
          CallChain.run_keeps phase reference (some result) next

theorem TemplateArgument.evaluateAll_keeps
    (phase : PropertyPhase) :
    ∀ arguments : List TemplateArgument,
      Expansion.ValuesKept
        (TemplateArgument.evaluateAll phase.failing arguments)
        (TemplateArgument.evaluateAll phase.leaving arguments)
  | [] => .refl _
  | argument :: rest =>
      (TemplateArgument.evaluate_keeps phase argument).bind fun _ =>
        (TemplateArgument.evaluateAll_keeps phase rest).bind_pure _

theorem TemplateArgument.evaluate_keeps
    (phase : PropertyPhase) :
    ∀ argument : TemplateArgument,
      Expansion.ValuesKept
        (argument.evaluate phase.failing)
        (argument.evaluate phase.leaving)
  | .null => .refl _
  | .out => .refl _
  | .template content => (Template.evaluate_keeps phase true content).bind_pure _

end

namespace PropertyPhase

/-- What a reference raises where references are left is a halt. -/
theorem Raises.eq_halt
    {phase : PropertyPhase}
    (leaves : phase.options.contains .leaveOnError = true)
    {inside : Text}
    {failure : Failure}
    (raises : phase.Raises inside failure) :
    ∃ breach, failure = .halt breach := by
  cases raises with
  | cutInside asks =>
      exact ⟨_, rfl⟩
  | call asks raised passes =>
      obtain ⟨breach, rfl⟩ := passes leaves
      exact ⟨breach, rfl⟩
  | uncallable asks passes =>
      rw [leaves] at passes
      cases passes
  | malformed asks passes =>
      rw [leaves] at passes
      cases passes

theorem leaving_ne_error
    (phase : PropertyPhase)
    (expression : Text)
    (before : Trace)
    (cause : ExpandError) :
    ((phase.leaving.value expression).runFrom before).1 ≠ .error (.error cause) := by
  intro fails
  obtain ⟨inside, -, raises⟩ := phase.leaving.value_raisesOnly expression before _ fails
  obtain ⟨breach, isHalt⟩ := raises.eq_halt phase.contains_leaving
  cases isHalt

/--
Asked to leave the references that fail, the property phase ends with no error, and keeps
the values, with their traces, of the runs that are not asked to. It gives no value only
where it halts: at a reference whose ninth byte ends inside a character, or in a call. An
expression that is cut into such a reference has no value.
-/
theorem leaving_is_conservative
    (phase : PropertyPhase)
    (expression : Text)
    (before : Trace) :
    (∀ cause, ((phase.leaving.value expression).runFrom before).1 ≠ .error (.error cause)) ∧
      (∀ value after,
        (phase.failing.value expression).runFrom before = (.ok value, after) →
          (phase.leaving.value expression).runFrom before = (.ok value, after)) ∧
      (∀ breach,
        ((phase.leaving.value expression).runFrom before).1 = .error (.halt breach) →
          ∃ inside,
            Stretch.StandsIn inside expression ∧
              ((Stretch.Splits inside ∧ breach = Request.split inside) ∨
                (Stretch.IsCall inside ∧ phase.context.resolver.Halts breach))) ∧
      ∀ inside,
        Stretch.reference inside ∈ Stretch.cut expression →
          Stretch.Splits inside →
          (phase.leaving.value expression).Fails := by
  refine ⟨phase.leaving_ne_error expression before, ?_, ?_, ?_⟩
  · exact Template.evaluate_keeps phase true (Template.read expression) before
  · exact fun breach => exists_of_halt
  · exact fun inside isReference splits => value_fails_of_splits isReference splits

/-- The value of a property is kept, and a body that is cut inside a character has none. -/
theorem leaving_is_conservative_of_accent :
    let phase : PropertyPhase :=
      { table := { entries := [("A".toList, "x".toList)] }
        options := .properties
        context := .onEmptyMachine }
    let after : Trace := { usage := [("A".toList, .found)] }
    let inside := "[System.é]::X()".toList
    (phase.failing.value "$(A)".toList).runFrom {} = (.ok (.str "x".toList), after) ∧
      (phase.leaving.value "$(A)".toList).runFrom {} = (.ok (.str "x".toList), after) ∧
      Stretch.Splits inside ∧
      (phase.leaving.value (Stretch.written inside)).Fails := by
  intro phase after inside
  have text : "$(A)".toList = Stretch.written "A".toList :=
    rfl
  have nested : Nested "A".toList :=
    .of_closes rfl
  have found :
      (phase.failing.value "$(A)".toList).runFrom {} = (.ok (.str "x".toList), after) := by
    rw [text, phase.failing.value_written nested, Request.read_of_isName rfl, Request.evaluate]
    rfl
  have splits : Stretch.Splits inside :=
    ⟨"[System.".toList, 'é', "]::X()".toList, rfl, by decide, by decide⟩
  have isReference : Stretch.reference inside ∈ Stretch.cut (Stretch.written inside) := by
    simp [Stretch.cut_written (.of_closes rfl : Nested inside)]
  have ofName := leaving_is_conservative phase "$(A)".toList {}
  have ofAccent := leaving_is_conservative phase (Stretch.written inside) {}
  exact ⟨found, ofName.2.1 _ _ found, splits, ofAccent.2.2.2 _ isReference splits⟩

/-- A call that should be left as it is written halts the run. -/
theorem not_every_reference_left :
    ¬ ∀ (phase : PropertyPhase) (expression : Text) (before : Trace),
        ∃ value, ((phase.leaving.value expression).runFrom before).1 = .ok value := by
  intro always
  let phase : PropertyPhase :=
    { table := {}
      options := .properties
      context := .onEmptyMachine }
  have splits : Stretch.Splits "[System.é]::X()".toList :=
    ⟨"[System.".toList, 'é', "]::X()".toList, rfl, by decide, by decide⟩
  have nested : Nested "[System.é]::X()".toList :=
    .of_closes rfl
  obtain ⟨value, isValue⟩ := always phase (Stretch.written "[System.é]::X()".toList) {}
  rw [value_written nested, Request.evaluate_of_splits splits] at isValue
  cases isValue

end PropertyPhase

end RefExpand
