import RefExpand.Library.NumberTypes
import RefExpand.Proofs.Call.Shape

namespace RefExpand

/-!
# Types of numbers heed their parameters
-/

namespace NumberTypes

open Invocation (Serves)

variable {parameters : List ParameterType}

theorem heeds_onFloat
    (operation : Float → Float)
    (first : parameters[0]?.any (· == .float) = true) :
    (onFloat operation).Heeds false parameters :=
  fun _ serves => .bind (serves.float first) fun _ => .pure _

theorem heeds_onTwoFloats
    (operation : Float → Float → Float)
    (first : parameters[0]?.any (· == .float) = true)
    (second : parameters[1]?.any (· == .float) = true) :
    (onTwoFloats operation).Heeds false parameters :=
  fun _ serves => .bind (serves.float first) fun _ => .bind (serves.float second) fun _ => .pure _

theorem heeds_onTwoIntegers
    (operation : Int64 → Int64 → Int64)
    (first : parameters[0]?.any (·.takesInteger) = true)
    (second : parameters[1]?.any (·.takesInteger) = true) :
    (onTwoIntegers operation).Heeds false parameters :=
  fun _ serves =>
    .bind (serves.integer first) fun _ => .bind (serves.integer second) fun _ => .pure _

theorem heeds_absInteger
    (first : parameters[0]?.any (·.takesInteger) = true) :
    absInteger.Heeds false parameters := by
  intro call serves
  refine .bind (serves.integer first) fun n => ?_
  exact .ite (fun _ => .failedOnType _) fun _ => .pure _

theorem heeds_roundToDigits
    (first : parameters[0]?.any (· == .float) = true)
    (second : parameters[1]?.any (·.takesInteger) = true) :
    roundToDigits.Heeds false parameters := by
  intro call serves
  refine .bind (serves.integer second) fun digits => ?_
  exact .ite (fun _ => .failedOnType _) fun _ => .bind (serves.float first) fun f => .pure _

theorem heeds_signOfInteger
    (first : parameters[0]?.any (·.takesInteger) = true) :
    signOfInteger.Heeds false parameters :=
  fun _ serves => .bind (serves.integer first) fun _ => .pure _

theorem heeds_signOfFloat
    (first : parameters[0]?.any (· == .float) = true) :
    signOfFloat.Heeds false parameters := by
  intro call serves
  refine .bind (serves.float first) fun f => ?_
  exact .ite (fun _ => .failedOnType _) fun _ => .pure _

theorem heeds_converted :
    converted.Heeds false parameters :=
  fun _ _ => .ok _

theorem heeds_convertedText :
    convertedText.Heeds false parameters :=
  fun _ _ => .ok _

theorem heeds_reading
    (message : Text)
    (read? : Text → Option Value)
    (first : parameters[0]?.all (· == .str) = true) :
    (reading message read?).Heeds false parameters := by
  intro call serves
  refine .bind (serves.text first) fun text => ?_
  cases read? text with
  | some value =>
      exact .pure value
  | none =>
      exact .failedOnType message

theorem heeds_canRead
    (read? : Text → Option Value)
    (first : parameters[0]?.all (· == .str) = true) :
    (canRead read?).Heeds false parameters :=
  fun _ serves => .bind (serves.textOrEmpty first) fun _ => .pure _

theorem heeds_limit
    (name : String)
    (value : Value) :
    (limit name value).Heeds false :=
  Member.heeds_single.mpr fun _ _ => .ok value

theorem heeds_readers
    (message : Text)
    (read? : Text → Option Value) :
    ∀ member ∈ readers message read?, member.Heeds false := by
  unfold readers
  simp only [List.forall_mem_cons, Member.heeds_single, List.not_mem_nil, false_implies,
    implies_true, and_true]
  exact ⟨heeds_reading message read? rfl, heeds_canRead read? rfl⟩

theorem heeds_byKind
    {name : String}
    {count : Nat}
    {integers floats : Body}
    (onIntegers : integers.Heeds false (List.replicate count .long))
    (onFloats : floats.Heeds false (List.replicate count .float)) :
    (byKind name count integers floats).Heeds false := by
  unfold byKind
  simp only [List.forall_mem_cons, Member.heeds_overloads, List.not_mem_nil, false_implies,
    implies_true, and_true]
  exact ⟨onIntegers, onFloats⟩

theorem heeds_mathType :
    ∀ member ∈ mathType.members, member.Heeds false := by
  unfold mathType
  simp only [List.forall_mem_cons, Member.heeds_single, Member.heeds_overloads, List.not_mem_nil,
    false_implies, implies_true, and_true]
  exact
    ⟨heeds_byKind (heeds_absInteger rfl) (heeds_onFloat _ rfl),
      heeds_byKind (heeds_onTwoIntegers _ rfl rfl) (heeds_onTwoFloats _ rfl rfl),
      heeds_byKind (heeds_onTwoIntegers _ rfl rfl) (heeds_onTwoFloats _ rfl rfl),
      heeds_onFloat _ rfl,
      heeds_onFloat _ rfl,
      ⟨heeds_onFloat _ rfl, heeds_roundToDigits rfl rfl⟩,
      heeds_onTwoFloats _ rfl rfl,
      heeds_onFloat _ rfl,
      heeds_onFloat _ rfl,
      heeds_byKind (heeds_signOfInteger rfl) (heeds_signOfFloat rfl)⟩

theorem heeds_convertType :
    ∀ member ∈ convertType.members, member.Heeds false := by
  unfold convertType
  simp only [List.forall_mem_cons, Member.heeds_single, List.not_mem_nil, false_implies,
    implies_true, and_true]
  exact ⟨heeds_converted, heeds_converted, heeds_converted, heeds_converted, heeds_convertedText⟩

/-- The readers of a type, and two values that need no arguments. -/
theorem heeds_readers_append
    (message : Text)
    (read? : Text → Option Value)
    (largest least : Value) :
    ∀ member ∈ readers message read? ++ [limit "MaxValue" largest, limit "MinValue" least],
      member.Heeds false := by
  simp only [List.forall_mem_append, List.forall_mem_cons, List.not_mem_nil, false_implies,
    implies_true, and_true]
  exact ⟨heeds_readers message read?, heeds_limit _ _, heeds_limit _ _⟩

end NumberTypes

end RefExpand
