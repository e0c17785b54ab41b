import RefExpand.Call.Resolver
import RefExpand.Library.Standard
import RefExpand.Proofs.Number.Decimal

namespace RefExpand

/-!
# Arithmetic on decimal texts

The engine's own type has five operations on two integers. Given decimal texts
of 64-bit integers, each binds its overload for integers: three of them wrap to
64 bits, and two truncate toward zero and refuse what has no quotient.
-/

/-- The operations on two integers. -/
inductive IntegerOperation where
  | add
  | subtract
  | multiply
  | divide
  | modulo
  deriving Repr, DecidableEq

/-- Two integers as arguments. -/
def Invocation.ofIntegers
    (left right : Int64)
    (surroundings : Surroundings) :
    Invocation :=
  { arguments := [.int left, .int right], surroundings }

/-- The decimal text of an integer as an operand. -/
def Operand.decimal
    (n : Int64) :
    Operand :=
  .value (.str (Decimal.ofInt64 n))

/-- A decimal text is no number as it is, but it is converted to one. -/
theorem Operand.decimal_coerce?
    (n : Int64) :
    (decimal n).fits .long = false ∧ (decimal n).fits .float = false ∧
      (decimal n).coerce? .long = some (.int n) := by
  refine ⟨rfl, rfl, ?_⟩
  change (Number.readInteger? (Decimal.ofInt64 n)).map Value.int = some (.int n)
  rw [Number.readInteger?_ofInt64]
  rfl

namespace IntegerOperation

/-- The name under which the operation is called. -/
def name : IntegerOperation → String
  | .add => "Add"
  | .subtract => "Subtract"
  | .multiply => "Multiply"
  | .divide => "Divide"
  | .modulo => "Modulo"

/-- The result on integers of any size: reduced to signed 64 bits, or truncated. -/
def value : IntegerOperation → Int → Int → Int
  | .add, left, right => (left + right).bmod Int64.size
  | .subtract, left, right => (left - right).bmod Int64.size
  | .multiply, left, right => (left * right).bmod Int64.size
  | .divide, left, right => left.tdiv right
  | .modulo, left, right => left.tmod right

/-- A division by zero, or one whose quotient is too large by one. -/
def fails : IntegerOperation → Int → Int → Bool
  | .divide, left, right
  | .modulo, left, right => right == 0 || (left == Int64.minValue.toInt && right == -1)
  | _, _, _ => false

/-- The body of the overload for integers. -/
def onIntegers : IntegerOperation → Body
  | .add => Intrinsics.onIntegers (· + ·)
  | .subtract => Intrinsics.onIntegers (· - ·)
  | .multiply => Intrinsics.onIntegers (· * ·)
  | .divide => Intrinsics.dividing (· / ·)
  | .modulo => Intrinsics.dividing (· % ·)

/-- The body of the overload for doubles. -/
def onFloats : IntegerOperation → Body
  | .add => Intrinsics.onFloats (· + ·)
  | .subtract => Intrinsics.onFloats (· - ·)
  | .multiply => Intrinsics.onFloats (· * ·)
  | .divide => Intrinsics.onFloats (· / ·)
  | .modulo => Intrinsics.onFloats Number.remainder

/-- The operation is a member of the engine's own type, with these two overloads. -/
theorem find?_name
    (op : IntegerOperation) :
    Member.find? Intrinsics.entry.members op.name =
      some (Intrinsics.numeric op.name op.onIntegers op.onFloats) := by
  cases op <;> rfl

theorem isArithmetic_name
    (op : IntegerOperation) :
    Intrinsics.entry.isArithmetic op.name = true := by
  cases op <;> rfl

theorem directCall_name
    (op : IntegerOperation)
    (operands : List Operand) :
    DirectCall.find? (Catalog.standard.directCallsOn Intrinsics.entry.name) op.name operands =
      none := by
  cases op <;> rfl

theorem isName_name
    (op : IntegerOperation) :
    Text.isName op.name = true := by
  cases op <;> rfl

/-- The quotient does not exist, or is too large by one. -/
def NoQuotient
    (left right : Int64) :
    Prop :=
  right = 0 ∨ (left = Int64.minValue ∧ right = -1)

theorem noQuotient_iff
    {left right : Int64} :
    NoQuotient left right ↔
      (right.toInt == 0 || (left.toInt == Int64.minValue.toInt && right.toInt == -1)) = true := by
  have zero : right.toInt = 0 ↔ right = 0 :=
    Int64.toInt_inj (y := 0)
  have least : left.toInt = Int64.minValue.toInt ↔ left = Int64.minValue :=
    Int64.toInt_inj
  have minusOne : right.toInt = -1 ↔ right = -1 :=
    Int64.toInt_inj (y := -1)
  simp only [NoQuotient, Bool.or_eq_true, Bool.and_eq_true, beq_iff_eq, zero, least, minusOne]

section Division

variable {left right : Int64} (operation : Int64 → Int64 → Int64) (surroundings : Surroundings)

theorem dividing_eq :
    Intrinsics.dividing operation (.ofIntegers left right surroundings) =
      if right = 0 then
        .error (.failed "Attempted to divide by zero.")
      else if left = Int64.minValue ∧ right = -1 then
        .error Intrinsics.overflow
      else
        .ok (.int (operation left right)) := by
  simp only [Intrinsics.dividing, Invocation.integer, Invocation.argument,
    Invocation.ofIntegers]
  rfl

/-- A division without a quotient of 64 bits fails with a message. -/
theorem dividing_of_noQuotient
    (noQuotient : NoQuotient left right) :
    ∃ message,
      Intrinsics.dividing operation (.ofIntegers left right surroundings) =
        .error (.failed message) := by
  rw [dividing_eq]
  by_cases byZero : right = 0
  · exact ⟨_, if_pos byZero⟩
  · have tooLarge := noQuotient.resolve_left byZero
    rw [if_neg byZero, if_pos tooLarge]
    exact ⟨_, rfl⟩

/-- Every other division is carried out. -/
theorem dividing_of_quotient
    (quotient : ¬NoQuotient left right) :
    Intrinsics.dividing operation (.ofIntegers left right surroundings) =
      .ok (.int (operation left right)) := by
  rw [NoQuotient, not_or] at quotient
  rw [dividing_eq, if_neg quotient.1, if_neg quotient.2]

end Division

/-- The quotient truncates: the one case in which it would wrap is refused. -/
theorem toInt_div_of_quotient
    {left right : Int64}
    (quotient : ¬NoQuotient left right) :
    (left / right).toInt = left.toInt.tdiv right.toInt := by
  by_cases least : left = Int64.minValue
  · have notMinusOne : right ≠ -1 :=
      fun minusOne => quotient (.inr ⟨least, minusOne⟩)
    exact Int64.toInt_div_of_ne_right left right notMinusOne
  · exact Int64.toInt_div_of_ne_left left right least

/-- Where the operation has no result, the body fails with a message. -/
theorem onIntegers_of_fails
    {op : IntegerOperation}
    {left right : Int64}
    (fails : op.fails left.toInt right.toInt = true)
    (surroundings : Surroundings) :
    ∃ message,
      op.onIntegers (.ofIntegers left right surroundings) = .error (.failed message) := by
  cases op with
  | add | subtract | multiply =>
      cases fails
  | divide | modulo =>
      exact dividing_of_noQuotient _ surroundings (noQuotient_iff.mpr fails)

/-- Otherwise the body gives the result of the operation. -/
theorem onIntegers_of_not_fails
    {op : IntegerOperation}
    {left right : Int64}
    (succeeds : op.fails left.toInt right.toInt = false) :
    ∃ n : Int64,
      n.toInt = op.value left.toInt right.toInt ∧
        ∀ surroundings,
          op.onIntegers (.ofIntegers left right surroundings) = .ok (.int n) := by
  have quotient :
      (right.toInt == 0 || (left.toInt == Int64.minValue.toInt && right.toInt == -1)) = false →
        ¬NoQuotient left right := by
    intro apart
    rw [noQuotient_iff, apart]
    exact Bool.false_ne_true
  cases op with
  | add =>
      exact ⟨left + right, Int64.toInt_add left right, fun _ => rfl⟩
  | subtract =>
      exact ⟨left - right, Int64.toInt_sub left right, fun _ => rfl⟩
  | multiply =>
      exact ⟨left * right, Int64.toInt_mul left right, fun _ => rfl⟩
  | divide =>
      refine ⟨left / right, toInt_div_of_quotient (quotient succeeds), fun surroundings => ?_⟩
      exact dividing_of_quotient (· / ·) surroundings (quotient succeeds)
  | modulo =>
      refine ⟨left % right, Int64.toInt_mod left right, fun surroundings => ?_⟩
      exact dividing_of_quotient (· % ·) surroundings (quotient succeeds)

/-- Two decimal texts are bound to the overload for integers. -/
theorem bind_numeric
    (name : String)
    (integers floats : Body)
    (left right : Int64)
    (surroundings : Surroundings) :
    (Intrinsics.numeric name integers floats).bind none surroundings
        [.decimal left, .decimal right] true =
      (integers (.ofIntegers left right surroundings)).mapError .failed := by
  have narrowFirst :
      (Intrinsics.numeric name integers floats).candidates 2 true =
        [{ parameters := [.long, .long], body := integers },
          { parameters := [.float, .float], body := floats }] :=
    rfl
  obtain ⟨leftNotLong, leftNotFloat, leftConverted⟩ := Operand.decimal_coerce? left
  obtain ⟨-, -, rightConverted⟩ := Operand.decimal_coerce? right
  have converted :
      Operand.coerceAll? [.decimal left, .decimal right] [.long, .long] =
        some [.int left, .int right] := by
    simp [Operand.coerceAll?, leftConverted, rightConverted]
  have chosen :
      Overload.choose?
          [{ parameters := [.long, .long], body := integers },
            { parameters := [.float, .float], body := floats }]
          [.decimal left, .decimal right] =
        some ({ parameters := [.long, .long], body := integers }, [.int left, .int right]) := by
    simp [Overload.choose?, Overload.fits, Overload.takesTexts, Overload.arguments?,
      leftNotLong, leftNotFloat, converted]
  rw [Member.bind, List.length_cons, List.length_singleton, narrowFirst, chosen]
  rfl

/-- A call on the engine's own type runs the operation on the integers that are written. -/
theorem callStatic
    {resolver : Resolver}
    (isStandard : resolver.catalog = Catalog.standard)
    (op : IntegerOperation)
    (left right : Int64)
    (surroundings : Surroundings)
    (context : Text) :
    resolver.callStatic (some Intrinsics.entry) "MSBuild" op.name
        [.decimal left, .decimal right] surroundings context =
      ((op.onIntegers (.ofIntegers left right surroundings)).mapError (·.toFailure context)).map
        (Resolver.finish !(Intrinsics.entry.returnsEscaped op.name)) := by
  have permitted : resolver.permits Intrinsics.entry op.name = true :=
    rfl
  have called :
      resolver.callOpen Intrinsics.entry op.name
          [.decimal left, .decimal right] surroundings context =
        (op.onIntegers (.ofIntegers left right surroundings)).mapError
          (·.toFailure context) := by
    rw [Resolver.callOpen, isStandard, directCall_name, ite_self]
    dsimp only
    rw [Resolver.callMember, find?_name, isArithmetic_name]
    dsimp only
    rw [bind_numeric]
    cases op.onIntegers _ <;> rfl
  rw [Resolver.callStatic, permitted, if_pos rfl, called]

/-- Where the operation has a result, the call gives it. -/
theorem callStatic_of_not_fails
    {resolver : Resolver}
    (isStandard : resolver.catalog = Catalog.standard)
    {op : IntegerOperation}
    {left right : Int64}
    (succeeds : op.fails left.toInt right.toInt = false)
    (context : Text) :
    ∃ n : Int64,
      n.toInt = op.value left.toInt right.toInt ∧
        ∀ surroundings,
          resolver.callStatic (some Intrinsics.entry) "MSBuild" op.name
              [.decimal left, .decimal right] surroundings context =
            .ok (.int n) := by
  obtain ⟨n, isValue, gives⟩ := onIntegers_of_not_fails succeeds
  refine ⟨n, isValue, fun surroundings => ?_⟩
  rw [callStatic isStandard, gives surroundings]
  rfl

/-- Where it has none, the call is an invalid function. -/
theorem callStatic_of_fails
    {resolver : Resolver}
    (isStandard : resolver.catalog = Catalog.standard)
    {op : IntegerOperation}
    {left right : Int64}
    (fails : op.fails left.toInt right.toInt = true)
    (surroundings : Surroundings)
    (context : Text) :
    ∃ message,
      resolver.callStatic (some Intrinsics.entry) "MSBuild" op.name
          [.decimal left, .decimal right] surroundings context =
        .error (.error (.invalidFunction context message)) := by
  obtain ⟨message, refuses⟩ := onIntegers_of_fails fails surroundings
  refine ⟨message, ?_⟩
  rw [callStatic isStandard, refuses]
  rfl

end IntegerOperation

end RefExpand
