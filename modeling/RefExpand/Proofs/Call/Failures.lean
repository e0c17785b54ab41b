import RefExpand.Expand.Properties
import RefExpand.Proofs.Expand.Failures

namespace RefExpand

/-!
# What a call fails with

A call that fails gives an error that names the expression it is called in, or a halt.
No error of a call carries a location; that is attached where the call is written.
-/

/-- An error of a call names the expression that the call is called in. -/
inductive ExpandError.OfCall
    (context : Text) :
    ExpandError → Prop where
  | invalid (message : Text) :
      OfCall context (.invalidFunction context message)
  | unknown (receiver member : Text) :
      OfCall context (.unknownFunction receiver member context)
  | disallowed (typeName member reason : Text) :
      OfCall context (.disallowedFunction typeName member context reason)

/-- Some call that the resolver resolves ends in a halt. -/
def Resolver.Halts
    (resolver : Resolver)
    (breach : Halt) :
    Prop :=
  (∃ found typeName name operands surroundings context,
      resolver.callStatic found typeName name operands surroundings context =
        .error (.halt breach)) ∨
    ∃ kind name receiver operands surroundings context,
      resolver.callInstance kind name receiver operands surroundings context =
        .error (.halt breach)

/-- What a call fails with: an error that names its expression, or a halt of its resolver. -/
inductive Resolver.Raises
    (resolver : Resolver)
    (context : Text) :
    Failure → Prop where
  | error {cause : ExpandError}
      (ofCall : cause.OfCall context) :
      Raises resolver context (.error cause)
  | halt {breach : Halt}
      (halts : resolver.Halts breach) :
      Raises resolver context (.halt breach)

/-- The errors among the failures of a call name its expression. -/
def Failure.OfCall
    (context : Text) :
    Failure → Prop :=
  ErrorsAre (ExpandError.OfCall context)

namespace Failure.OfCall

theorem ofCallError
    (cause : CallError)
    (context : Text) :
    OfCall context (cause.toFailure context) := by
  cases cause with
  | failed message =>
      exact ExpandError.OfCall.invalid _
  | badArgument index expected =>
      exact ExpandError.OfCall.invalid _
  | halted breach =>
      trivial

theorem ofBindFault
    (fault : BindFault)
    (receiver member context : Text) :
    OfCall context (fault.toFailure receiver member context) := by
  cases fault with
  | noMatch =>
      exact ExpandError.OfCall.unknown receiver member
  | ambiguous =>
      exact ExpandError.OfCall.invalid _
  | failed cause =>
      exact ofCallError cause context

end Failure.OfCall

namespace Resolver

section Calls

variable {resolver : Resolver} {context : Text}
variable {operands : List Operand} {surroundings : Surroundings}

theorem callMember_failsOnly
    {members : List Member}
    {receiverName name : Text}
    {receiver : Option Value}
    {byRank : Bool} :
    FailsOnly (Failure.OfCall context)
      (callMember members receiverName name context receiver surroundings operands byRank) := by
  unfold callMember
  split
  · exact .error (ExpandError.OfCall.unknown receiverName name)
  · exact .reworded (fun fault => .ofBindFault fault receiverName name context) _

theorem callStatic_failsOnly
    {found : Option TypeEntry}
    {typeName name : Text} :
    FailsOnly (Failure.OfCall context)
      (resolver.callStatic found typeName name operands surroundings context) := by
  cases found with
  | none =>
      exact .error (ExpandError.OfCall.disallowed typeName name _)
  | some entry =>
      have opened :
          FailsOnly (Failure.OfCall context)
            (resolver.callOpen entry name operands surroundings context) := by
        unfold callOpen
        dsimp only
        split
        · exact .reworded (fun cause => .ofCallError cause context) _
        · exact callMember_failsOnly
      unfold callStatic
      dsimp only
      split
      · exact opened.map _
      · exact .error (ExpandError.OfCall.disallowed typeName name _)

theorem callInstance_failsOnly
    {kind : MemberKind}
    {written : Text}
    {receiver : Value} :
    FailsOnly (Failure.OfCall context)
      (resolver.callInstance kind written receiver operands surroundings context) := by
  have onPlain (plain : Value) (name : Text) :
      FailsOnly (Failure.OfCall context)
        (resolver.callOnPlain plain name operands surroundings context) := by
    unfold callOnPlain
    split
    · exact .reworded (fun cause => .ofCallError cause context) _
    · exact callMember_failsOnly
  unfold callInstance
  dsimp only
  generalize (if kind = .indexer then indexerName (plainReceiver receiver) else written) = name
  split
  · exact .error (ExpandError.OfCall.invalid _)
  · split
    · exact .error (ExpandError.OfCall.disallowed _ _ _)
    · exact (onPlain _ name).map _

/-- A failure of a call is raised by the resolver, if it halts where the failure is a halt. -/
theorem Raises.ofCall
    {failure : Failure}
    (ofCall : failure.OfCall context)
    (halts : ∀ breach, failure = .halt breach → resolver.Halts breach) :
    resolver.Raises context failure := by
  cases failure with
  | error cause =>
      exact .error ofCall
  | halt breach =>
      exact .halt (halts breach rfl)

theorem callStatic_raises
    {found : Option TypeEntry}
    {typeName name : Text} :
    FailsOnly (resolver.Raises context)
      (resolver.callStatic found typeName name operands surroundings context) := by
  intro failure fails
  refine .ofCall (callStatic_failsOnly failure fails) fun breach isHalt => ?_
  subst isHalt
  exact .inl ⟨found, typeName, name, operands, surroundings, context, fails⟩

theorem callInstance_raises
    {kind : MemberKind}
    {written : Text}
    {receiver : Value} :
    FailsOnly (resolver.Raises context)
      (resolver.callInstance kind written receiver operands surroundings context) := by
  intro failure fails
  refine .ofCall (callInstance_failsOnly failure fails) fun breach isHalt => ?_
  subst isHalt
  exact .inr ⟨kind, written, receiver, operands, surroundings, context, fails⟩

end Calls

end Resolver

/-- Calling a link fails as a call in the reference does. -/
theorem ExpandContext.callLink_raisesOnly
    (context : ExpandContext)
    (reference : Text)
    (receiver : Option Value)
    (link : CallLink)
    (operands : List Operand) :
    (context.callLink reference receiver link operands).RaisesOnly
      (context.resolver.Raises reference) := by
  unfold callLink
  refine Expansion.RaisesOnly.bind (fun _ => .ok _) fun turn => ?_
  cases link.target with
  | type typeName =>
      refine Expansion.RaisesOnly.bind (fun _ => .ok _) fun found => ?_
      exact .ofExcept Resolver.callStatic_raises
  | property _ | result | index =>
      cases receiver with
      | none =>
          exact .throw (.error (.invalid _))
      | some value =>
          exact .ofExcept Resolver.callInstance_raises

end RefExpand
