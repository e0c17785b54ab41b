import Mathlib.Data.List.Forall2
import RefExpand.Call.Catalog

namespace RefExpand

/-!
# Arguments of the right shape

A parameter type promises a shape. A body heeds its parameters if it asks its
arguments for no more than they promise: then it finds no argument of another
shape, and run on a value it does not find its receiver missing. What it may
fail with is a message of its own.
-/

/-- The value has the shape that a parameter promises; a text or an array may be null. -/
inductive Value.Suits : Value → ParameterType → Prop where
  | nullText : Suits .null .str
  | text (text : Text) : Suits (.str text) .str
  | int (n : Int64) : Suits (.int n) .int
  | long (n : Int64) : Suits (.int n) .long
  | enumeration (n : Int64) (enumType : EnumType) : Suits (.int n) (.enumeration enumType)
  | float (f : Float) : Suits (.float f) .float
  | bool (b : Bool) : Suits (.bool b) .bool
  | char (c : Char) : Suits (.char c) .char
  | nullChars : Suits .null .charArray
  | chars {items : List Value}
      (chars : ∀ item ∈ items, item.isChar = true) :
      Suits (.seq items) .charArray
  | version (v : Version) : Suits (.version v) .version
  | any (value : Value) : Suits value .any
  | out : Suits .null .out

/-- What a body says if it is run without the receiver that it asks for. -/
def CallError.missingReceiver : Text :=
  "instance member called without a receiver"

/-- An argument was of another shape, or the receiver of a member of a value was missing. -/
def CallError.isMisfit
    (onValue : Bool) :
    CallError → Bool
  | .badArgument _ _ => true
  | .failed message => onValue && message == missingReceiver
  | .halted _ => false

/-- What runs gives a value, or fails for another reason than a misfit. -/
def NoMisfit
    (onValue : Bool)
    (result : Except CallError α) :
    Prop :=
  ∀ cause, result = .error cause → cause.isMisfit onValue = false

/-- A message that does not begin like that of a missing receiver is another one. -/
theorem CallError.isMisfit_failed
    (onValue : Bool)
    {message : Text}
    (other : message.head? ≠ some 'i') :
    (failed message).isMisfit onValue = false := by
  have differs : message ≠ missingReceiver := by
    rintro rfl
    exact other rfl
  simp [isMisfit, differs]

namespace NoMisfit

variable {onValue : Bool} {α β ε : Type}

theorem ok
    (value : α) :
    NoMisfit onValue (.ok value) := by
  rintro cause ⟨⟩

theorem pure
    (value : α) :
    NoMisfit onValue (Pure.pure value : Except CallError α) :=
  ok value

theorem throw
    {cause : CallError}
    (other : cause.isMisfit onValue = false) :
    NoMisfit onValue (MonadExcept.throw cause : Except CallError α) := by
  rintro failure ⟨⟩
  exact other

theorem failed
    {message : Text}
    (other : message.head? ≠ some 'i') :
    NoMisfit onValue (MonadExcept.throw (.failed message) : Except CallError α) :=
  throw (CallError.isMisfit_failed onValue other)

/-- Where nothing is called on a value, no message tells of a missing receiver. -/
theorem failedOnType
    (message : Text) :
    NoMisfit false (MonadExcept.throw (.failed message) : Except CallError α) :=
  throw rfl

/-- Steps that all end without a misfit do so together. -/
theorem bind
    {result : Except CallError α}
    {next : α → Except CallError β}
    (first : NoMisfit onValue result)
    (later : ∀ value, NoMisfit onValue (next value)) :
    NoMisfit onValue (result >>= next) := by
  intro cause failure
  cases result with
  | error other =>
      cases failure
      exact first cause rfl
  | ok value =>
      exact later value cause failure

theorem map
    {result : Except CallError α}
    (noMisfit : NoMisfit onValue result)
    (change : α → β) :
    NoMisfit onValue (result.map change) := by
  intro cause failure
  cases result with
  | error other =>
      cases failure
      exact noMisfit cause rfl
  | ok value =>
      cases failure

theorem mapError
    {reword : ε → CallError}
    (other : ∀ failure, (reword failure).isMisfit onValue = false)
    (result : Except ε α) :
    NoMisfit onValue (result.mapError reword) := by
  intro cause failure
  cases result with
  | error found =>
      cases failure
      exact other found
  | ok value =>
      cases failure

theorem ite
    {condition : Prop}
    [Decidable condition]
    {first second : Except CallError α}
    (ifTrue : condition → NoMisfit onValue first)
    (ifFalse : ¬condition → NoMisfit onValue second) :
    NoMisfit onValue (if condition then first else second) := by
  split
  · exact ifTrue ‹_›
  · exact ifFalse ‹_›

theorem mapM
    {action : α → Except CallError β}
    {items : List α}
    (each : ∀ item ∈ items, NoMisfit onValue (action item)) :
    NoMisfit onValue (items.mapM action) := by
  induction items with
  | nil =>
      exact pure []
  | cons first rest inductionHypothesis =>
      have later :=
        inductionHypothesis fun item isMember => each item (List.mem_cons_of_mem _ isMember)
      rw [List.mapM_cons]
      exact bind (each first List.mem_cons_self) fun _ => bind later fun _ => pure _

end NoMisfit

/-- Any integer has the shape that the parameter promises. -/
def ParameterType.takesInteger : ParameterType → Bool
  | .int | .long | .enumeration _ => true
  | _ => false

/-- What all parameters promise, the one at a position promises. -/
theorem ParameterType.promised_of_all
    {parameters : List ParameterType}
    {test : ParameterType → Bool}
    (all : parameters.all test = true)
    {index : Nat} :
    parameters[index]?.all test = true := by
  cases found : parameters[index]? with
  | none =>
      rfl
  | some parameter =>
      exact List.all_eq_true.mp all parameter (List.mem_of_getElem? found)

/-- The call is what a body with these parameters is made for. -/
structure Invocation.Serves
    (onValue : Bool)
    (parameters : List ParameterType)
    (call : Invocation) : Prop where
  arguments :
    List.Forall₂ Value.Suits call.arguments parameters
  receiver :
    onValue = true → call.receiver.isSome = true

/-- The body asks for no more than its parameters promise. -/
def Body.Heeds
    (onValue : Bool)
    (parameters : List ParameterType)
    (body : Body) :
    Prop :=
  ∀ call : Invocation, call.Serves onValue parameters → NoMisfit onValue (body call)

namespace Invocation.Serves

variable {onValue : Bool} {parameters : List ParameterType} {call : Invocation}

theorem count
    (serves : call.Serves onValue parameters) :
    call.count = parameters.length :=
  serves.arguments.length_eq

/-- An argument that is given has the shape of a parameter that passes the test. -/
theorem exists_suits
    (serves : call.Serves onValue parameters)
    {index : Nat}
    {test : ParameterType → Bool}
    (promised : parameters[index]?.all test = true)
    (given : index < call.count) :
    ∃ parameter, test parameter = true ∧ (call.argument index).Suits parameter := by
  have inArguments : index < call.arguments.length :=
    given
  have inParameters : index < parameters.length :=
    serves.count ▸ given
  have suits := serves.arguments.get inArguments inParameters
  rw [List.getElem?_eq_getElem inParameters] at promised
  refine ⟨parameters[index], by simpa using promised, ?_⟩
  simpa [argument, List.getElem?_eq_getElem inArguments] using suits

/-- Where there is a parameter, an argument is given. -/
theorem given
    (serves : call.Serves onValue parameters)
    {index : Nat}
    {test : ParameterType → Bool}
    (promised : parameters[index]?.any test = true) :
    parameters[index]?.all test = true ∧ index < call.count := by
  rw [serves.count]
  cases found : parameters[index]? with
  | none =>
      rw [found] at promised
      cases promised
  | some parameter =>
      rw [found] at promised
      exact ⟨promised, (List.getElem?_eq_some_iff.mp found).1⟩

end Invocation.Serves

namespace Value.Suits

variable {value : Value} {parameter : ParameterType}

theorem exists_integer
    (takes : parameter.takesInteger = true)
    (suits : value.Suits parameter) :
    ∃ n, value = .int n := by
  cases suits with
  | int n | long n | enumeration n enumType =>
      exact ⟨n, rfl⟩
  | _ =>
      cases takes

end Value.Suits

namespace Invocation.Serves

variable {onValue : Bool} {parameters : List ParameterType} {call : Invocation} {index : Nat}

/-- A text parameter, or none at all, promises a text that may be null. -/
theorem optionalText
    (serves : call.Serves onValue parameters)
    (promised : parameters[index]?.all (· == .str) = true) :
    NoMisfit onValue (call.optionalText index) := by
  rw [Invocation.optionalText]
  by_cases isGiven : index < call.count
  · obtain ⟨parameter, isText, suits⟩ := serves.exists_suits promised isGiven
    rw [beq_iff_eq] at isText
    subst isText
    generalize call.argument index = value at suits
    cases suits <;> exact .ok _
  · have isNull : call.argument index = .null := by
      rw [argument, List.getD_eq_getElem?_getD, List.getElem?_eq_none (Nat.le_of_not_lt isGiven)]
      rfl
    rw [isNull]
    exact .ok _

theorem textOrEmpty
    (serves : call.Serves onValue parameters)
    (promised : parameters[index]?.all (· == .str) = true) :
    NoMisfit onValue (call.textOrEmpty index) := by
  exact .map (serves.optionalText promised) _

theorem text
    (serves : call.Serves onValue parameters)
    (promised : parameters[index]?.all (· == .str) = true) :
    NoMisfit onValue (call.text index) := by
  refine .bind (serves.optionalText promised) fun content => ?_
  cases content with
  | none =>
      exact .failed (by simp)
  | some text =>
      exact .pure text

/-- An argument that is given for an integer parameter is an integer. -/
theorem integerIfGiven
    (serves : call.Serves onValue parameters)
    (promised : parameters[index]?.all (·.takesInteger) = true)
    (isGiven : index < call.count) :
    NoMisfit onValue (call.integer index) := by
  obtain ⟨parameter, takes, suits⟩ := serves.exists_suits promised isGiven
  obtain ⟨n, isInteger⟩ := suits.exists_integer takes
  rw [Invocation.integer, isInteger]
  exact .ok n

theorem integer
    (serves : call.Serves onValue parameters)
    (promised : parameters[index]?.any (·.takesInteger) = true) :
    NoMisfit onValue (call.integer index) :=
  serves.integerIfGiven (serves.given promised).1 (serves.given promised).2

theorem natural
    (serves : call.Serves onValue parameters)
    (promised : parameters[index]?.all (·.takesInteger) = true)
    (isGiven : index < call.count)
    {message : Text}
    (other : message.head? ≠ some 'i') :
    NoMisfit onValue (call.natural index message) := by
  refine .bind (serves.integerIfGiven promised isGiven) fun n => ?_
  exact .ite (fun _ => .failed other) fun _ => .pure _

/-- An argument that is given for a parameter of one type has its shape. -/
theorem suitsIfGiven
    (serves : call.Serves onValue parameters)
    {parameter : ParameterType}
    (promised : parameters[index]?.all (· == parameter) = true)
    (isGiven : index < call.count) :
    (call.argument index).Suits parameter := by
  obtain ⟨other, same, suits⟩ := serves.exists_suits promised isGiven
  rwa [beq_iff_eq.mp same] at suits

theorem suits
    (serves : call.Serves onValue parameters)
    {parameter : ParameterType}
    (promised : parameters[index]?.any (· == parameter) = true) :
    (call.argument index).Suits parameter :=
  serves.suitsIfGiven (serves.given promised).1 (serves.given promised).2

theorem float
    (serves : call.Serves onValue parameters)
    (promised : parameters[index]?.any (· == .float) = true) :
    NoMisfit onValue (call.float index) := by
  have suits := serves.suits promised
  rw [Invocation.float]
  generalize call.argument index = value at suits
  cases suits
  exact .ok _

theorem bool
    (serves : call.Serves onValue parameters)
    (promised : parameters[index]?.any (· == .bool) = true) :
    NoMisfit onValue (call.bool index) := by
  have suits := serves.suits promised
  rw [Invocation.bool]
  generalize call.argument index = value at suits
  cases suits
  exact .ok _

theorem charIfGiven
    (serves : call.Serves onValue parameters)
    (promised : parameters[index]?.all (· == .char) = true)
    (isGiven : index < call.count) :
    NoMisfit onValue (call.char index) := by
  have suits := serves.suitsIfGiven promised isGiven
  rw [Invocation.char]
  generalize call.argument index = value at suits
  cases suits
  exact .ok _

/-- The items of an array are characters. -/
theorem charsIfGiven
    (serves : call.Serves onValue parameters)
    (promised : parameters[index]?.all (· == .charArray) = true)
    (isGiven : index < call.count) :
    NoMisfit onValue (call.chars index) := by
  have suits := serves.suitsIfGiven promised isGiven
  rw [Invocation.chars]
  generalize call.argument index = value at suits
  cases suits with
  | nullChars =>
      exact .ok _
  | chars areChars =>
      refine .mapM fun item isItem => ?_
      have isChar := areChars item isItem
      cases item <;> cases isChar
      exact .ok _

theorem version
    (serves : call.Serves onValue parameters)
    (promised : parameters[index]?.any (· == .version) = true) :
    NoMisfit onValue (call.version index) := by
  have suits := serves.suits promised
  rw [Invocation.version]
  generalize call.argument index = value at suits
  cases suits
  exact .ok _

theorem this
    (serves : call.Serves true parameters) :
    NoMisfit onValue call.this := by
  obtain ⟨receiver, isReceiver⟩ := Option.isSome_iff_exists.mp (serves.receiver rfl)
  rw [Invocation.this, isReceiver]
  exact .ok receiver

theorem thisText
    (serves : call.Serves true parameters) :
    NoMisfit onValue call.thisText := by
  refine .bind serves.this fun receiver => ?_
  cases receiver with
  | str text =>
      exact .pure text
  | _ =>
      exact .failed (by simp)

end Invocation.Serves

/-- Every overload of the member heeds its parameters. -/
def Member.Heeds
    (onValue : Bool)
    (member : Member) :
    Prop :=
  ∀ overload ∈ member.overloads, overload.body.Heeds onValue overload.parameters

namespace Member

variable {onValue : Bool} {name : String} {body : Body}

theorem heeds_overloads
    {name : Text}
    {overloads : List Overload} :
    Heeds onValue { name, overloads } ↔
      ∀ overload ∈ overloads, overload.body.Heeds onValue overload.parameters :=
  Iff.rfl

theorem heeds_single
    {parameters : List ParameterType} :
    (single name parameters body).Heeds onValue ↔ body.Heeds onValue parameters := by
  simp [Heeds, single]

theorem heeds_shared
    {parameterLists : List (List ParameterType)} :
    (shared name parameterLists body).Heeds onValue ↔
      ∀ parameters ∈ parameterLists, body.Heeds onValue parameters := by
  simp [Heeds, shared]

end Member

end RefExpand
