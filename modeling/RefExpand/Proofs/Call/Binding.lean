import RefExpand.Call.Resolver
import RefExpand.Proofs.Call.Shape

namespace RefExpand

/-!
# Binding gives arguments of the right shape

An argument that fits a parameter has its shape, and so has one that was
converted to it. So whichever way an overload is chosen, its body is run on what
its parameters promise.
-/

namespace Value

variable {value converted : Value} {parameter : ParameterType}

theorem suits_of_fits
    (fits : value.fits parameter = true) :
    value.Suits parameter := by
  unfold Value.fits at fits
  split at fits
  · exact .any _
  · exact .text _
  · exact .nullText
  · exact .int _
  · exact .long _
  · exact .float _
  · exact .bool _
  · exact .char _
  · exact .chars (List.all_eq_true.mp fits)
  · exact .version _
  · cases fits

theorem suits_of_toChars?
    (converts : value.toChars? = some converted) :
    converted.Suits .charArray := by
  cases value with
  | null =>
      cases converts
      exact .nullChars
  | str text =>
      cases converts
      refine .chars fun item isItem => ?_
      obtain ⟨c, -, rfl⟩ := List.mem_map.mp isItem
      rfl
  | char c =>
      cases converts
      refine .chars fun item isItem => ?_
      rw [List.mem_singleton.mp isItem]
      rfl
  | seq items =>
      simp only [toChars?] at converts
      split at converts
      · rename_i areChars
        cases converts
        exact .chars (List.all_eq_true.mp areChars)
      · cases converts
  | _ =>
      cases converts

/-- What a value is converted to has the shape of the parameter. -/
theorem suits_of_coerce?
    (converts : value.coerce? parameter = some converted) :
    converted.Suits parameter := by
  cases parameter with
  | str =>
      cases value with
      | null =>
          cases converts
          exact .nullText
      | _ =>
          cases converts
          exact .text _
  | int =>
      obtain ⟨n, -, rfl⟩ := Option.map_eq_some_iff.mp converts
      exact .int n
  | long =>
      obtain ⟨n, -, rfl⟩ := Option.map_eq_some_iff.mp converts
      exact .long n
  | float =>
      obtain ⟨f, -, rfl⟩ := Option.map_eq_some_iff.mp converts
      exact .float f
  | bool =>
      obtain ⟨b, -, rfl⟩ := Option.map_eq_some_iff.mp converts
      exact .bool b
  | char =>
      obtain ⟨c, -, rfl⟩ := Option.map_eq_some_iff.mp converts
      exact .char c
  | charArray =>
      exact suits_of_toChars? converts
  | enumeration enumType =>
      obtain ⟨n, -, rfl⟩ := Option.map_eq_some_iff.mp converts
      exact .enumeration n enumType
  | version =>
      obtain ⟨v, -, rfl⟩ := Option.map_eq_some_iff.mp converts
      exact .version v
  | any =>
      cases converts
      exact .any _
  | out =>
      cases converts

end Value

namespace Operand

theorem suits_of_coerce?
    {operand : Operand}
    {parameter : ParameterType}
    {converted : Value}
    (converts : operand.coerce? parameter = some converted) :
    converted.Suits parameter := by
  unfold Operand.coerce? at converts
  split at converts
  · cases converts
    exact .out
  · cases converts
  · cases converts
  · exact Value.suits_of_coerce? converts

/-- Operands that are converted one by one suit their parameters one by one. -/
theorem suits_of_coerceAll?
    {operands : List Operand}
    {parameters : List ParameterType}
    {converted : List Value}
    (converts : coerceAll? operands parameters = some converted) :
    List.Forall₂ Value.Suits converted parameters := by
  induction operands generalizing parameters converted with
  | nil =>
      cases parameters with
      | nil =>
          cases converts
          exact .nil
      | cons parameter parameters =>
          cases converts
  | cons operand operands inductionHypothesis =>
      cases parameters with
      | nil =>
          cases converts
      | cons parameter parameters =>
          obtain ⟨first, atFirst, converts⟩ := Option.bind_eq_some_iff.mp converts
          obtain ⟨others, atOthers, converts⟩ := Option.bind_eq_some_iff.mp converts
          cases converts
          exact .cons (suits_of_coerce? atFirst) (inductionHypothesis atOthers)

/-- Operands that fit, with no placeholder among them, suit their parameters as they are. -/
theorem suits_of_fits
    {operands : List Operand}
    {parameters : List ParameterType}
    (sameLength : operands.length = parameters.length)
    (noOut : operands.any isOut = false)
    (fits :
      (operands.zip parameters).all (fun (operand, parameter) => operand.fits parameter) = true) :
    List.Forall₂ Value.Suits (operands.filterMap value?) parameters := by
  induction operands generalizing parameters with
  | nil =>
      rw [List.eq_nil_of_length_eq_zero sameLength.symm]
      exact .nil
  | cons operand operands inductionHypothesis =>
      cases parameters with
      | nil =>
          cases sameLength
      | cons parameter parameters =>
          cases operand with
          | out =>
              cases noOut
          | value content =>
              rw [List.zip_cons_cons, List.all_cons, Bool.and_eq_true] at fits
              have later :=
                inductionHypothesis (Nat.succ.inj sameLength) noOut fits.2
              have fitsHere : (value content).fits parameter = true :=
                fits.1
              refine .cons (Value.suits_of_fits ?_) later
              cases parameter with
              | out =>
                  cases fitsHere
              | _ =>
                  exact fitsHere

end Operand

namespace Overload

theorem insertByRank_perm
    (overload : Overload)
    (others : List Overload) :
    (insertByRank overload others).Perm (overload :: others) := by
  induction others with
  | nil =>
      rfl
  | cons first rest inductionHypothesis =>
      rw [insertByRank]
      split
      · rfl
      · exact (inductionHypothesis.cons first).trans (.swap overload first rest)

/-- Sorting by rank drops no overload and adds none. -/
theorem sortByRank_perm
    (overloads : List Overload) :
    (sortByRank overloads).Perm overloads := by
  induction overloads with
  | nil =>
      rfl
  | cons first rest inductionHypothesis =>
      exact (insertByRank_perm first _).trans (inductionHypothesis.cons first)

end Overload

theorem Member.mem_candidates
    {member : Member}
    {count : Nat}
    {byRank : Bool}
    {overload : Overload} :
    overload ∈ member.candidates count byRank ↔
      overload ∈ member.overloads ∧ overload.arity = count := by
  have inFound :
      overload ∈ member.overloads.filter (fun overload => overload.arity == count) ↔
        overload ∈ member.overloads ∧ overload.arity = count := by
    simp
  cases byRank with
  | false =>
      exact inFound
  | true =>
      exact (Overload.sortByRank_perm _).mem_iff.trans inFound

/-- A body failed because of an argument of another shape, or for want of its receiver. -/
def BindFault.isMisfit
    (onValue : Bool) :
    BindFault → Bool
  | .failed cause => cause.isMisfit onValue
  | .noMatch | .ambiguous => false

/-- However the member is called on the receiver, its bodies find what they ask for. -/
def Member.NeverMisfits
    (receiver : Option Value)
    (member : Member) :
    Prop :=
  ∀ surroundings operands byRank fault,
    member.bind receiver surroundings operands byRank = .error fault →
      fault.isMisfit receiver.isSome = false

namespace Overload

variable {overload : Overload} {candidates : List Overload} {operands : List Operand}
variable {arguments : List Value} {receiver : Option Value} {surroundings : Surroundings}

/-- Arguments that suit the parameters are what the overload is made for. -/
theorem run_noMisfit
    (heeds : overload.body.Heeds receiver.isSome overload.parameters)
    (suits : List.Forall₂ Value.Suits arguments overload.parameters)
    {fault : BindFault}
    (fails : overload.run receiver surroundings arguments = .error fault) :
    fault.isMisfit receiver.isSome = false := by
  rw [run] at fails
  cases result : overload.body { receiver, arguments, surroundings } with
  | error cause =>
      rw [result] at fails
      cases fails
      exact heeds _ ⟨suits, id⟩ cause result
  | ok value =>
      rw [result] at fails
      cases fails

/-- Whichever rule finds the overload, its arguments suit its parameters. -/
theorem suits_of_choose?
    (arity : ∀ candidate ∈ candidates, candidate.arity = operands.length)
    (noOut : operands.any Operand.isOut = false)
    (chosen : choose? candidates operands = some (overload, arguments)) :
    overload ∈ candidates ∧ List.Forall₂ Value.Suits arguments overload.parameters := by
  unfold choose? at chosen
  split at chosen
  · rename_i fitting isFirst
    cases chosen
    have isCandidate := List.mem_of_find?_eq_some isFirst
    have fits := List.find?_some isFirst
    exact ⟨isCandidate, Operand.suits_of_fits (arity _ isCandidate).symm noOut fits⟩
  · have byConversion {candidate : Overload}
        (converts :
          (candidate.arguments? operands).map (fun values => (candidate, values)) =
            some (overload, arguments)) :
        candidate = overload ∧ List.Forall₂ Value.Suits arguments overload.parameters := by
      obtain ⟨values, isConverted, same⟩ := Option.map_eq_some_iff.mp converts
      cases same
      exact ⟨rfl, Operand.suits_of_coerceAll? isConverted⟩
    rcases Option.or_eq_some_iff.mp chosen with asTexts | ⟨-, asFirst⟩
    · obtain ⟨candidate, isFirst, converts⟩ := Option.bind_eq_some_iff.mp asTexts
      obtain ⟨rfl, suits⟩ := byConversion converts
      exact ⟨List.mem_of_find?_eq_some isFirst, suits⟩
    · obtain ⟨candidate, isCandidate, converts⟩ := List.exists_of_findSome?_eq_some asFirst
      obtain ⟨rfl, suits⟩ := byConversion converts
      exact ⟨isCandidate, suits⟩

/-- With out placeholders every overload runs on what the operands are converted to. -/
theorem agree_noMisfit
    (heed : ∀ candidate ∈ candidates,
      candidate.body.Heeds receiver.isSome candidate.parameters)
    {agreed : Option Value}
    {fault : BindFault}
    (fails : agree receiver surroundings operands agreed candidates = .error fault) :
    fault.isMisfit receiver.isSome = false := by
  induction candidates generalizing agreed with
  | nil =>
      cases agreed <;> cases fails
      rfl
  | cons first rest inductionHypothesis =>
      have later :=
        @inductionHypothesis fun candidate isCandidate =>
          heed candidate (List.mem_cons_of_mem _ isCandidate)
      rw [agree] at fails
      cases converted : first.arguments? operands with
      | none =>
          rw [converted] at fails
          exact later fails
      | some values =>
          simp only [converted] at fails
          have suits := Operand.suits_of_coerceAll? converted
          cases result : first.run receiver surroundings values with
          | error cause =>
              rw [result] at fails
              cases fails
              exact run_noMisfit (heed first List.mem_cons_self) suits result
          | ok value =>
              rw [result] at fails
              cases agreed with
              | none =>
                  exact later fails
              | some previous =>
                  simp only [bind, Except.bind] at fails
                  split at fails
                  · exact later fails
                  · cases fails
                    rfl

end Overload

/-- A member whose overloads heed their parameters never misfits, however it is bound. -/
theorem Member.neverMisfits_of_heeds
    {member : Member}
    {receiver : Option Value}
    (heeds : member.Heeds receiver.isSome) :
    member.NeverMisfits receiver := by
  intro surroundings operands byRank fault fails
  have ofMember {overload : Overload}
      (isCandidate : overload ∈ member.candidates operands.length byRank) :
      overload.body.Heeds receiver.isSome overload.parameters ∧
        overload.arity = operands.length :=
    ⟨heeds overload (Member.mem_candidates.mp isCandidate).1,
      (Member.mem_candidates.mp isCandidate).2⟩
  rw [Member.bind] at fails
  by_cases noCandidate : (member.candidates operands.length byRank).isEmpty = true
  · rw [if_pos noCandidate] at fails
    cases fails
    rfl
  · rw [if_neg noCandidate] at fails
    cases anyOut : operands.any Operand.isOut with
    | true =>
        rw [if_pos anyOut] at fails
        exact Overload.agree_noMisfit (fun _ isCandidate => (ofMember isCandidate).1) fails
    | false =>
        rw [if_neg (Bool.eq_false_iff.mp anyOut)] at fails
        split at fails
        · rename_i overload values chosen
          obtain ⟨isCandidate, suits⟩ :=
            Overload.suits_of_choose? (fun _ isCandidate => (ofMember isCandidate).2) anyOut chosen
          exact Overload.run_noMisfit (ofMember isCandidate).1 suits fails
        · cases fails
          rfl

/-- What a common call promises its body for each argument. -/
def DirectArguments.parameter : DirectArguments → ParameterType
  | .texts => .str
  | .integers => .int

namespace DirectCall

/-- The body heeds as many parameters of the call's kind as it is recognised with. -/
def Heeds
    (onValue : Bool)
    (call : DirectCall) :
    Prop :=
  ∀ count ∈ call.counts,
    call.body.Heeds onValue (List.replicate count call.takes.parameter)

/-- Whichever of the common calls is recognised, its body finds what it asks for. -/
def NeverMisfit
    (receiver : Option Value)
    (calls : List DirectCall) :
    Prop :=
  ∀ name operands call arguments surroundings,
    find? calls name operands = some (call, arguments) →
      NoMisfit receiver.isSome (call.body { receiver, arguments, surroundings })

theorem suits_of_textOperand?
    {operand : Operand}
    {argument : Value}
    (reads : textOperand? operand = some argument) :
    argument.Suits .str := by
  unfold textOperand? at reads
  split at reads <;> cases reads
  · exact .text _
  · exact .nullText

theorem suits_of_integerOperand?
    {operand : Operand}
    {argument : Value}
    (reads : integerOperand? operand = some argument) :
    argument.Suits .int := by
  unfold integerOperand? at reads
  split at reads
  · cases reads
    exact .int _
  · obtain ⟨n, -, rfl⟩ := Option.map_eq_some_iff.mp reads
    exact .int n
  · cases reads

/-- Operands read one by one suit parameters of one type. -/
theorem suits_of_mapM
    {read? : Operand → Option Value}
    {parameter : ParameterType}
    (suits : ∀ {operand argument}, read? operand = some argument → argument.Suits parameter)
    {operands : List Operand}
    {arguments : List Value}
    (reads : operands.mapM read? = some arguments) :
    List.Forall₂ Value.Suits arguments (List.replicate operands.length parameter) := by
  induction operands generalizing arguments with
  | nil =>
      cases reads
      exact .nil
  | cons operand operands inductionHypothesis =>
      rw [List.mapM_cons] at reads
      obtain ⟨first, atFirst, reads⟩ := Option.bind_eq_some_iff.mp reads
      obtain ⟨others, atOthers, reads⟩ := Option.bind_eq_some_iff.mp reads
      cases reads
      exact .cons (suits atFirst) (inductionHypothesis atOthers)

theorem suits_of_arguments?
    {call : DirectCall}
    {operands : List Operand}
    {arguments : List Value}
    (reads : call.arguments? operands = some arguments) :
    List.Forall₂ Value.Suits arguments
      (List.replicate operands.length call.takes.parameter) := by
  unfold arguments? at reads
  split at reads
  · rename_i takesTexts
    rw [takesTexts]
    exact suits_of_mapM suits_of_textOperand? reads
  · rename_i takesIntegers
    rw [takesIntegers]
    exact suits_of_mapM suits_of_integerOperand? reads

/-- Common calls that heed what they promise never misfit. -/
theorem neverMisfit_of_heeds
    {receiver : Option Value}
    {calls : List DirectCall}
    (heed : ∀ call ∈ calls, call.Heeds receiver.isSome) :
    NeverMisfit receiver calls := by
  intro name operands call arguments surroundings recognised
  obtain ⟨found, isFirst, recognised⟩ := Option.bind_eq_some_iff.mp recognised
  obtain ⟨values, reads, recognised⟩ := Option.bind_eq_some_iff.mp recognised
  cases recognised
  have matched := List.find?_some isFirst
  rw [Bool.and_eq_true, List.contains_iff_mem] at matched
  exact
    heed _ (List.mem_of_find?_eq_some isFirst) _ matched.2 _
      ⟨suits_of_arguments? reads, id⟩

end DirectCall

end RefExpand
