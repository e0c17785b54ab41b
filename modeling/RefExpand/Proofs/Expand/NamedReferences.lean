import RefExpand.Proofs.Expand.PropertyFailures
import RefExpand.Proofs.Expand.PropertyReads
import RefExpand.Proofs.Expand.StretchRuns

namespace RefExpand

/-!
# The reference that an invalid function names

An invalid function names the text of the reference that failed. All that fails in a call
is given the reference as it is written, but for a first call that cannot be read: its text
is put together again from the body, without the blanks around it.
-/

namespace Request

/-- The inside of the reference that is named if the reference is an invalid function. -/
def namedInside
    (inside : Text) :
    Text :=
  match read inside with
  | .uncallable body _ => body
  | _ => inside

theorem namedInside_of_call
    {inside : Text}
    {receiver : Option Text}
    {chain : CallChain}
    (asks : read inside = .call receiver chain) :
    namedInside inside = inside := by
  rw [namedInside, asks]

theorem namedInside_of_uncallable
    {inside body : Text}
    {fault : CallFault}
    (asks : read inside = .uncallable body fault) :
    namedInside inside = body := by
  rw [namedInside, asks]

/-- A body that cannot be called is the inside of its reference without the blanks around it. -/
theorem trim_of_uncallable
    {inside body : Text}
    {fault : CallFault}
    (asks : read inside = .uncallable body fault) :
    body = inside.trim := by
  have reading := reading inside
  rw [asks] at reading
  cases reading
  rfl

/-- The reference is named as it is written, unless its first call cannot be read for it. -/
theorem namedInside_eq_self_iff
    (inside : Text) :
    namedInside inside = inside ↔
      ∀ body fault, read inside = .uncallable body fault → inside.trim = inside := by
  constructor
  · intro named body fault asks
    rw [← trim_of_uncallable asks, ← namedInside_of_uncallable asks, named]
  · intro trimmed
    unfold namedInside
    split
    · rename_i body fault asks
      rw [trim_of_uncallable asks, trimmed body fault asks]
    · rfl

end Request

namespace ExpandError

theorem kind_withLocation
    (error : ExpandError)
    (location : Location) :
    (error.withLocation location).kind = error.kind := by
  cases error <;> rfl

theorem partialExpression?_withLocation
    (error : ExpandError)
    (location : Location) :
    (error.withLocation location).partialExpression? = error.partialExpression? := by
  cases error <;> rfl

/-- An invalid function in a call names the expression of the call. -/
theorem OfCall.partialExpression?
    {context : Text}
    {error : ExpandError}
    (ofCall : error.OfCall context)
    (isInvalid : error.kind = .invalidFunction) :
    error.partialExpression? = some context := by
  cases ofCall with
  | invalid message =>
      rfl
  | unknown receiver member =>
      cases isInvalid
  | disallowed typeName member reason =>
      cases isInvalid

end ExpandError

theorem Stretch.written_injective :
    Function.Injective written := by
  intro first second same
  simpa [written] using same

namespace PropertyPhase

variable {phase : PropertyPhase}

/-- An invalid function names the reference that raises it, or its body put together again. -/
theorem Raises.partialExpression?
    {inside : Text}
    {error : ExpandError}
    (raises : phase.Raises inside (.error error))
    (isInvalid : error.kind = .invalidFunction) :
    error.partialExpression? = some (Stretch.written (Request.namedInside inside)) := by
  generalize isError : Failure.error error = failure at raises
  cases raises with
  | cutInside asks =>
      cases isError
  | call asks raised passes =>
      cases raised with
      | error ofCall =>
          cases isError
          rw [ExpandError.kind_withLocation] at isInvalid
          rw [ExpandError.partialExpression?_withLocation, ofCall.partialExpression? isInvalid,
            Request.namedInside_of_call asks]
      | halt halts =>
          cases isError
  | uncallable asks passes =>
      cases isError
      rw [Request.namedInside_of_uncallable asks]
      rfl
  | malformed asks passes =>
      cases isError
      cases isInvalid

/-- A reference that stands alone and whose first call cannot be read names its body. -/
theorem runFrom_uncallable
    (phase : PropertyPhase)
    (strict : phase.options.contains .leaveOnError = false)
    {inside body : Text}
    {fault : CallFault}
    (nested : Nested inside)
    (asks : Request.read inside = .uncallable body fault)
    (before : Trace) :
    (phase.value (Stretch.written inside)).runFrom before =
      (.error (phase.context.locate (.invalidFunction (Stretch.written body) fault.message)),
        before) := by
  rw [phase.value_written nested, asks, Request.evaluate, guarded_eq_self strict]
  rfl

/--
An invalid function names a reference that stands in the expression and failed: as it is
written, apart from the blanks around a body whose first call cannot be read. So it is
named as it is written exactly if the call was read, or no blanks are around the body.
-/
theorem invalid_function_names_reference
    (phase : PropertyPhase)
    (expression : Text)
    (before : Trace)
    {error : ExpandError}
    (fails : ((phase.value expression).runFrom before).1 = .error (.error error))
    (isInvalid : error.kind = .invalidFunction) :
    ∃ inside,
      Stretch.StandsIn inside expression ∧
        phase.Raises inside (.error error) ∧
        error.partialExpression? = some (Stretch.written (Request.namedInside inside)) ∧
        (error.partialExpression? = some (Stretch.written inside) ↔
          ∀ body fault,
            Request.read inside = .uncallable body fault → inside.trim = inside) := by
  obtain ⟨inside, stands, raises⟩ := phase.value_raisesOnly expression before _ fails
  have named := raises.partialExpression? isInvalid
  refine ⟨inside, stands, raises, named, ?_⟩
  rw [named, Option.some.injEq, Stretch.written_injective.eq_iff,
    Request.namedInside_eq_self_iff]

/-- A body without blanks around it is named with the reference as it is written. -/
theorem invalid_function_names_reference_without_blanks :
    let phase : PropertyPhase :=
      { table := {}
        options := .properties
        context := .onEmptyMachine }
    let error : ExpandError :=
      .located {} (.invalidFunction "$([Foo])" "expected \"[Type]::Member\"")
    ((phase.value "$([Foo])".toList).runFrom {}).1 = .error (.error error) ∧
      error.kind = .invalidFunction ∧
      ∃ inside,
        Stretch.StandsIn inside "$([Foo])" ∧
          phase.Raises inside (.error error) ∧
          error.partialExpression? = some (Stretch.written (Request.namedInside inside)) ∧
          (error.partialExpression? = some (Stretch.written inside) ↔
            ∀ body fault,
              Request.read inside = .uncallable body fault → inside.trim = inside) := by
  intro phase error
  have asks : Request.read "[Foo]".toList = .uncallable "[Foo]".toList .noStaticMember := by
    rw [Request.read]
    rfl
  have nested : Nested "[Foo]".toList :=
    .of_closes rfl
  have strict : ExpandOptions.properties.contains .leaveOnError = false :=
    rfl
  have text : "$([Foo])".toList = Stretch.written "[Foo]".toList :=
    rfl
  have fails : ((phase.value "$([Foo])".toList).runFrom {}).1 = .error (.error error) := by
    rw [text, phase.runFrom_uncallable strict nested asks]
    rfl
  exact ⟨fails, rfl, invalid_function_names_reference phase _ {} fails rfl⟩

/-- The blanks around a body that cannot be called are missing from the name. -/
theorem not_every_invalid_function_names_reference :
    ¬ ∀ (phase : PropertyPhase) (expression : Text) (before : Trace) (error : ExpandError),
        ((phase.value expression).runFrom before).1 = .error (.error error) →
          error.kind = .invalidFunction →
          ∃ inside,
            Stretch.StandsIn inside expression ∧
              error.partialExpression? = some (Stretch.written inside) := by
  intro always
  let phase : PropertyPhase :=
    { table := {}
      options := .properties
      context := .onEmptyMachine }
  let error : ExpandError :=
    .located {} (.invalidFunction "$([Foo])" "expected \"[Type]::Member\"")
  have asks : Request.read " [Foo] ".toList = .uncallable "[Foo]".toList .noStaticMember := by
    rw [Request.read]
    rfl
  have nested : Nested " [Foo] ".toList :=
    .of_closes rfl
  have strict : ExpandOptions.properties.contains .leaveOnError = false :=
    rfl
  have text : "$( [Foo] )".toList = Stretch.written " [Foo] ".toList :=
    rfl
  have fails : ((phase.value "$( [Foo] )".toList).runFrom {}).1 = .error (.error error) := by
    rw [text, phase.runFrom_uncallable strict nested asks]
    rfl
  obtain ⟨inside, stands, named⟩ := always phase _ {} error fails rfl
  have same : "$([Foo])".toList = Stretch.written inside :=
    Option.some.inj named
  have part := stands.isInfix
  rw [← same] at part
  simp [List.infix_cons_iff] at part

end PropertyPhase

end RefExpand
