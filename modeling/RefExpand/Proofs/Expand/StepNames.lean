import RefExpand.Expand.Transform

namespace RefExpand

/-!
# What a transform is, by its name

A modifier comes before a function on the list, and a function on the list before
a member of texts. No two of the names are the same, not even up to case, so the
function that a name finds is the one that the transform runs.
-/

/-- A computation that succeeds succeeded in its first part, and then went on from there. -/
theorem exists_of_bind_eq_ok
    {action : Except ε α}
    {next : α → Except ε β}
    {result : β}
    (succeeded : (action >>= next) = .ok result) :
    ∃ value, action = .ok value ∧ next value = .ok result := by
  cases action with
  | error failure =>
      cases succeeded
  | ok value =>
      exact ⟨value, rfl, succeeded⟩

/-- What succeeds under another wording of its failures succeeds. -/
theorem eq_ok_of_mapError
    {result : Except ε α}
    {reword : ε → ε'}
    {value : α}
    (succeeded : result.mapError reword = .ok value) :
    result = .ok value := by
  cases result with
  | error failure =>
      cases succeeded
  | ok found =>
      cases succeeded
      rfl

theorem SpecModifier.mem_all
    (modifier : SpecModifier) :
    modifier ∈ all := by
  cases modifier <;> decide

theorem SpecModifier.sameName_of_ofName?
    {name : Text}
    {modifier : SpecModifier}
    (found : ofName? name = some modifier) :
    Text.sameName modifier.name name = true := by
  simpa using List.find?_some found

namespace ListFunction

theorem mem_all
    (function : ListFunction) :
    function ∈ all := by
  cases function <;> decide

theorem sameName_of_ofName?
    {name : Text}
    {function : ListFunction}
    (found : ofName? name = some function) :
    Text.sameName function.name name = true := by
  simpa using List.find?_some found

/-- No two functions share a name. -/
theorem eq_of_sameName
    {function other : ListFunction}
    {name : Text}
    (named : Text.sameName function.name name = true)
    (otherNamed : Text.sameName other.name name = true) :
    function = other := by
  have distinct :
      ∀ function ∈ all, ∀ other ∈ all,
        function.name.lowerAscii = other.name.lowerAscii → function = other := by
    decide
  rw [Text.sameName, beq_iff_eq] at named otherNamed
  exact distinct function (mem_all function) other (mem_all other) (named.trans otherNamed.symm)

/-- A function is found by its name. -/
theorem ofName?_eq_some_iff
    {name : Text}
    {function : ListFunction} :
    ofName? name = some function ↔ Text.sameName function.name name = true := by
  refine ⟨sameName_of_ofName?, fun named => ?_⟩
  cases found : ofName? name with
  | none =>
      rw [ofName?, List.find?_eq_none] at found
      exact absurd named (found function (mem_all function))
  | some other =>
      rw [eq_of_sameName (sameName_of_ofName? found) named]

/-- No modifier has the name of a function. -/
theorem ofName?_of_modifier
    {name : Text}
    {modifier : SpecModifier}
    (found : SpecModifier.ofName? name = some modifier) :
    ofName? name = none := by
  have apart :
      ∀ modifier ∈ SpecModifier.all, ∀ function ∈ all,
        modifier.name.lowerAscii ≠ function.name.lowerAscii := by
    decide
  have named := SpecModifier.sameName_of_ofName? found
  cases isFunction : ofName? name with
  | none =>
      rfl
  | some function =>
      have functionNamed := sameName_of_ofName? isFunction
      rw [Text.sameName, beq_iff_eq] at named functionNamed
      exact absurd (named.trans functionNamed.symm)
        (apart modifier modifier.mem_all function function.mem_all)

end ListFunction

/-- The function on the list that the step is. -/
def TransformStep.listFunction? : TransformStep → Option ListFunction
  | .list function _ => some function
  | _ => none

/-- What a transform does is the function on the list that its name finds, or none of them. -/
theorem Pipeline.listFunction?_of_step
    {pipeline : Pipeline}
    {transform : Transform}
    {step : TransformStep}
    (resolved : pipeline.step transform = .ok step) :
    transform.functionName?.bind ListFunction.ofName? = step.listFunction? := by
  obtain ⟨written, offset, kind⟩ := transform
  cases kind with
  | quoted body =>
      cases resolved
      rfl
  | function name arguments =>
      obtain ⟨operands, -, resolved⟩ := exists_of_bind_eq_ok resolved
      split at resolved
      · rename_i modifier isModifier
        obtain ⟨_, -, resolved⟩ := exists_of_bind_eq_ok resolved
        cases resolved
        exact ListFunction.ofName?_of_modifier isModifier
      · split at resolved
        · rename_i function isFunction
          obtain ⟨_, -, resolved⟩ := exists_of_bind_eq_ok resolved
          cases resolved
          exact isFunction
        · rename_i noFunction
          cases resolved
          exact noFunction

/-- A transform does what its step does. -/
theorem Pipeline.apply_of_step
    {pipeline : Pipeline}
    {transform : Transform}
    {step : TransformStep}
    (resolved : pipeline.step transform = .ok step)
    (batch : List ItemPair) :
    pipeline.apply transform batch = pipeline.run step batch := by
  rw [apply, resolved]
  rfl

end RefExpand
