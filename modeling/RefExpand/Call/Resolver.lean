import RefExpand.Call.Binding
import RefExpand.Call.Link
import RefExpand.Call.Policy
import RefExpand.Call.TypeCache

namespace RefExpand

/-!
# Resolving a call

A call on a type passes a gate: the type must be found, and the member must be
open, or the type intrinsic, or the policy lift the gate. A call on a value
passes a gate only for the member that tells its type. Then the common calls are
tried, and at last the overloads are bound. Text results are escaped, unless
the type says that they are already.
-/

/-- Who resolves calls. -/
structure Resolver where
  catalog : Catalog
  policy : CallPolicy := {}
  probe : TypeProbe

namespace DirectCall

/-- The operand of a common call on texts. -/
def textOperand? : Operand → Option Value
  | .value (.str text) => some (.str text)
  | .value .null => some .null
  | _ => none

/-- The operand of a common call on integers. -/
def integerOperand? : Operand → Option Value
  | .value (.int n) => some (.int n)
  | .value (.str text) =>
      ((Number.readInteger? text).filter fun n => Decimal.fitsInt32 n.toInt).map .int
  | _ => none

/-- The arguments that the operands are read as. -/
def arguments? (call : DirectCall) (operands : List Operand) : Option (List Value) :=
  match call.takes with
  | .texts => operands.mapM textOperand?
  | .integers => operands.mapM integerOperand?

/-- The common call of a name and its arguments, if it is one. -/
def find? (calls : List DirectCall) (name : Text) (operands : List Operand) :
    Option (DirectCall × List Value) := do
  let call ← calls.find? fun call =>
    call.member == name.lowerAscii && call.counts.contains operands.length
  let values ← call.arguments? operands
  return (call, values)

end DirectCall

/-- The failure that a call error is, in an expression. -/
def CallError.toFailure (cause : CallError) (context : Text) : Failure :=
  match cause with
  | .halted breach => .halt breach
  | cause => .error (.invalidFunction context cause.message)

/-- The failure that a bind fault is, for a member of a receiver in an expression. -/
def BindFault.toFailure (fault : BindFault) (receiver member context : Text) : Failure :=
  match fault with
  | .noMatch => .error (.unknownFunction receiver member context)
  | .ambiguous =>
      .error <| .invalidFunction context <|
        "the overloads of ".toList ++ ExpandError.quoted member ++ " disagree on the result".toList
  | .failed cause => cause.toFailure context

namespace Resolver

/-- Escape a text result, if results are to be escaped. -/
def finish (escapes : Bool) (result : Value) : Value :=
  match result with
  | .str text => if escapes then .str text.escape else .str text
  | other => other

/-- The probe, if the policy allows one. -/
def allowedProbe (resolver : Resolver) : Option TypeProbe :=
  if resolver.policy.probesTypes then some resolver.probe else none

/-- The member of the type may be called. -/
def permits (resolver : Resolver) (entry : TypeEntry) (member : Text) : Bool :=
  entry.isIntrinsic || entry.allows member || resolver.policy.allowAll

/-- Bind a member and put a fault in terms of the expression. -/
def callMember (members : List Member) (receiverName name context : Text)
    (receiver : Option Value) (surroundings : Surroundings) (operands : List Operand)
    (byRank : Bool) : Except Failure Value :=
  match Member.find? members name with
  | none => .error (.error (.unknownFunction receiverName name context))
  | some member =>
      (member.bind receiver surroundings operands byRank).mapError fun fault =>
        fault.toFailure receiverName name context

/-- Call a member of a type that was found and whose gate is open. -/
def callOpen (resolver : Resolver) (entry : TypeEntry) (name : Text) (operands : List Operand)
    (surroundings : Surroundings) (context : Text) : Except Failure Value :=
  let direct :=
    if Text.sameName name "new" then none
    else DirectCall.find? (resolver.catalog.directCallsOn entry.name) name operands
  match direct with
  | some (call, arguments) =>
      (call.body { arguments, surroundings }).mapError (·.toFailure context)
  | none =>
      callMember entry.members entry.name name context none surroundings operands
        (entry.isArithmetic name)

/-- Call a member of a type, if the type was found and the gate is open. -/
def callStatic (resolver : Resolver) (found : Option TypeEntry) (typeName name : Text)
    (operands : List Operand) (surroundings : Surroundings) (context : Text) :
    Except Failure Value :=
  match found with
  | none =>
      .error (.error (.disallowedFunction typeName name context "the type is not available"))
  | some entry =>
      if resolver.permits entry name then
        (resolver.callOpen entry name operands surroundings context).map
          (finish !(entry.returnsEscaped name))
      else
        .error <| .error <|
          .disallowedFunction typeName name context "the member is not in the allowlist"

/-- The plain form of a receiver. -/
def plainReceiver : Value → Value
  | .str text => .str text.unescape
  | other => other

/-- The name of the member that an indexer calls. -/
def indexerName : Value → Text
  | .str _ => "Chars"
  | _ => "get_Item"

/-- The common calls on a receiver. -/
def directCallsOnValue (resolver : Resolver) : Value → List DirectCall
  | .str _ => resolver.catalog.directTextCalls
  | _ => []

/-- Call a member of a plain receiver. -/
def callOnPlain (resolver : Resolver) (receiver : Value) (name : Text) (operands : List Operand)
    (surroundings : Surroundings) (context : Text) : Except Failure Value :=
  match DirectCall.find? (resolver.directCallsOnValue receiver) name operands with
  | some (call, arguments) =>
      (call.body { receiver := some receiver, arguments, surroundings }).mapError
        (·.toFailure context)
  | none =>
      callMember (resolver.catalog.membersOf receiver) receiver.typeName name context
        (some receiver) surroundings operands false

/-- Call a member of a value. -/
def callInstance (resolver : Resolver) (kind : MemberKind) (written : Text) (receiver : Value)
    (operands : List Operand) (surroundings : Surroundings) (context : Text) :
    Except Failure Value :=
  let receiver := plainReceiver receiver
  if receiver.isNull then
    .error (.error (.invalidFunction context "cannot call a member on a null value"))
  else
    let name := if kind = .indexer then indexerName receiver else written
    if Text.sameName name "GetType" && !resolver.policy.allowAll then
      .error <| .error <|
        .disallowedFunction receiver.typeName name context "type introspection is not allowed"
    else
      (resolver.callOnPlain receiver name operands surroundings context).map (finish true)

end Resolver

end RefExpand
