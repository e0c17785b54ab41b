import RefExpand.Proofs.Call.Binding
import RefExpand.Proofs.Text.Name

namespace RefExpand

/-!
# Common calls stand for overloads

A common call is recognised by a name and a number of arguments alone. If it
mirrors the members, there is one overload of that name with as many parameters,
it has the same body, and its parameters are of the kind that the call reads its
arguments as. Given texts, nulls and placeholders, binding then ends at the same
body with the same arguments, and it does not matter whether the common calls
are tried first.
-/

namespace Operand

/-- What an argument is evaluated to: a text, null, or the out placeholder. -/
def isEvaluated : Operand → Bool
  | .value (.str _) | .value .null | .out => true
  | .value _ => false

/-- Operands that are read as texts are texts and nulls, and fit as they are. -/
theorem fits_of_texts
    {operands : List Operand}
    {arguments : List Value}
    (reads : operands.mapM DirectCall.textOperand? = some arguments) :
    operands.any isOut = false ∧ operands.filterMap value? = arguments ∧
      (operands.zip (List.replicate operands.length .str)).all
        (fun (operand, parameter) => operand.fits parameter) = true := by
  induction operands generalizing arguments with
  | nil =>
      cases reads
      exact ⟨rfl, rfl, rfl⟩
  | cons operand operands inductionHypothesis =>
      rw [List.mapM_cons] at reads
      obtain ⟨first, atFirst, reads⟩ := Option.bind_eq_some_iff.mp reads
      obtain ⟨others, atOthers, reads⟩ := Option.bind_eq_some_iff.mp reads
      cases reads
      obtain ⟨noOut, values, fits⟩ := inductionHypothesis atOthers
      unfold DirectCall.textOperand? at atFirst
      split at atFirst <;> cases atFirst
      all_goals
        refine ⟨noOut, ?_, fits⟩
        rw [← values]
        rfl

/-- Evaluated operands that are read as integers are texts, and are converted to the same integers. -/
theorem coerce?_of_integer
    {operand : Operand}
    {argument : Value}
    (evaluated : operand.isEvaluated = true)
    (reads : DirectCall.integerOperand? operand = some argument) :
    operand.isOut = false ∧ operand.fits .int = false ∧ operand.coerce? .int = some argument := by
  unfold DirectCall.integerOperand? at reads
  split at reads
  · cases evaluated
  · exact ⟨rfl, rfl, reads⟩
  · cases reads

theorem coerceAll?_of_integers
    {operands : List Operand}
    {arguments : List Value}
    (evaluated : ∀ operand ∈ operands, operand.isEvaluated = true)
    (reads : operands.mapM DirectCall.integerOperand? = some arguments) :
    operands.any isOut = false ∧
      coerceAll? operands (List.replicate operands.length .int) = some arguments := by
  induction operands generalizing arguments with
  | nil =>
      cases reads
      exact ⟨rfl, rfl⟩
  | cons operand operands inductionHypothesis =>
      rw [List.mapM_cons] at reads
      obtain ⟨first, atFirst, reads⟩ := Option.bind_eq_some_iff.mp reads
      obtain ⟨others, atOthers, reads⟩ := Option.bind_eq_some_iff.mp reads
      cases reads
      obtain ⟨noOut, -, converts⟩ := coerce?_of_integer (evaluated _ List.mem_cons_self) atFirst
      obtain ⟨noOutLater, convertsLater⟩ :=
        inductionHypothesis (fun other isMember => evaluated other (List.mem_cons_of_mem _ isMember))
          atOthers
      refine ⟨by rw [List.any_cons, noOut, noOutLater]; rfl, ?_⟩
      rw [List.length_cons, List.replicate_succ, coerceAll?, converts, convertsLater]
      rfl

end Operand

namespace Overload

variable {overload : Overload} {operands : List Operand}

/-- A lone overload that the operands fit is run on their values. -/
theorem choose?_singleton_of_fits
    (fits : overload.fits operands = true) :
    choose? [overload] operands = some (overload, operands.filterMap Operand.value?) := by
  rw [choose?, List.find?_singleton, if_pos fits]

/-- A lone overload to which the operands are converted is run on what they are converted to. -/
theorem choose?_singleton_of_converts
    {arguments : List Value}
    (notFits : overload.fits operands = false)
    (converts : overload.arguments? operands = some arguments) :
    choose? [overload] operands = some (overload, arguments) := by
  have unfit : ¬ overload.fits operands = true := by
    simp [notFits]
  rw [choose?, List.find?_singleton, if_neg unfit, List.find?_singleton]
  cases overload.takesTexts <;> simp [converts]

end Overload

/-- The body of a member's only overload with so many parameters is run, if it is chosen. -/
theorem Member.bind_of_alone
    {member : Member}
    {overload : Overload}
    {operands : List Operand}
    {arguments : List Value}
    (alone : member.candidates operands.length false = [overload])
    (noOut : operands.any Operand.isOut = false)
    (chosen : Overload.choose? [overload] operands = some (overload, arguments))
    (receiver : Option Value)
    (surroundings : Surroundings)
    (byRank : Bool) :
    member.bind receiver surroundings operands byRank =
      overload.run receiver surroundings arguments := by
  have aloneEither : member.candidates operands.length byRank = [overload] := by
    have found : member.overloads.filter (fun one => one.arity == operands.length) = [overload] :=
      alone
    cases byRank <;> rw [candidates, found] <;> rfl
  rw [bind, aloneEither, noOut, chosen]
  rfl

namespace DirectCall

variable {call : DirectCall} {operands : List Operand} {arguments : List Value}

/-- The overload that the call stands for, given so many arguments. -/
def overload
    (call : DirectCall)
    (count : Nat) :
    Overload :=
  { parameters := List.replicate count call.takes.parameter
    body := call.body }

/-- What the call reads its arguments as, its overload is run on. -/
theorem choose?_overload
    (evaluated : ∀ operand ∈ operands, operand.isEvaluated = true)
    (reads : call.arguments? operands = some arguments) :
    operands.any Operand.isOut = false ∧
      Overload.choose? [call.overload operands.length] operands =
        some (call.overload operands.length, arguments) := by
  unfold arguments? at reads
  split at reads
  · rename_i takesTexts
    obtain ⟨noOut, values, fits⟩ := Operand.fits_of_texts reads
    refine ⟨noOut, ?_⟩
    rw [← values]
    apply Overload.choose?_singleton_of_fits
    rw [Overload.fits, overload, takesTexts]
    exact fits
  · rename_i takesIntegers
    obtain ⟨noOut, converts⟩ := Operand.coerceAll?_of_integers evaluated reads
    refine ⟨noOut, ?_⟩
    cases operands with
    | nil =>
        cases reads
        exact Overload.choose?_singleton_of_fits rfl
    | cons operand operands =>
        -- The first operand is a text, and no integer as it stands.
        rw [List.mapM_cons] at reads
        obtain ⟨first, atFirst, -⟩ := Option.bind_eq_some_iff.mp reads
        have unfit := (Operand.coerce?_of_integer (evaluated _ List.mem_cons_self) atFirst).2.1
        apply Overload.choose?_singleton_of_converts
        · rw [Overload.fits, overload, takesIntegers, List.length_cons, List.replicate_succ,
            List.zip_cons_cons, List.all_cons]
          simp [DirectArguments.parameter, unfit]
        · rw [Overload.arguments?, overload, takesIntegers]
          exact converts

/-- The member of the call's name has one overload for each number of arguments: the call's own. -/
def Mirrors
    (members : List Member)
    (call : DirectCall) :
    Prop :=
  ∀ count ∈ call.counts,
    (Member.find? members call.member).map (·.candidates count false) =
      some [call.overload count]

/-- Where a call is recognised that mirrors the members, binding comes to its body. -/
theorem callMember_of_find?
    {calls : List DirectCall}
    {members : List Member}
    {name : Text}
    (mirror : ∀ call ∈ calls, call.member = name.lowerAscii → call.Mirrors members)
    (evaluated : ∀ operand ∈ operands, operand.isEvaluated = true)
    (recognised : find? calls name operands = some (call, arguments))
    (receiverName context : Text)
    (receiver : Option Value)
    (surroundings : Surroundings)
    (byRank : Bool) :
    Resolver.callMember members receiverName name context receiver surroundings operands byRank =
      (call.body { receiver, arguments, surroundings }).mapError (·.toFailure context) := by
  obtain ⟨found, isFirst, recognised⟩ := Option.bind_eq_some_iff.mp recognised
  obtain ⟨values, reads, recognised⟩ := Option.bind_eq_some_iff.mp recognised
  cases recognised
  have matched := List.find?_some isFirst
  rw [Bool.and_eq_true, beq_iff_eq, List.contains_iff_mem] at matched
  obtain ⟨sameName, counted⟩ := matched
  have sameMember : Member.find? members name = Member.find? members call.member := by
    have sameTest :
        (fun member : Member => Text.sameName member.name name) =
          fun member => Text.sameName member.name call.member := by
      funext member
      rw [sameName]
      exact Text.sameName_congr_right (Text.sameName_lowerAscii name) member.name
    rw [Member.find?, Member.find?, sameTest]
  have mirrors : call.Mirrors members :=
    mirror call (List.mem_of_find?_eq_some isFirst) sameName
  obtain ⟨member, isMember, alone⟩ := Option.map_eq_some_iff.mp (mirrors _ counted)
  obtain ⟨noOut, chosen⟩ := choose?_overload evaluated reads
  rw [Resolver.callMember, sameMember, isMember]
  dsimp only
  rw [Member.bind_of_alone alone noOut chosen, Overload.run, overload]
  dsimp only
  cases call.body { receiver, arguments, surroundings } <;> rfl

end DirectCall

/-- The catalog without its common calls: all that is called is bound. -/
def Catalog.withoutDirectCalls (catalog : Catalog) : Catalog :=
  { catalog with directTypeCalls := [], directTextCalls := [] }

namespace Resolver

variable {operands : List Operand}

/-- The resolver that looks at no common calls. -/
def withoutDirectCalls (resolver : Resolver) : Resolver :=
  { resolver with catalog := resolver.catalog.withoutDirectCalls }

/-- Where the member is mirrored, a call on a type gives the same without the common calls. -/
theorem callStatic_withoutDirectCalls
    (resolver : Resolver)
    {entry : TypeEntry}
    {name : Text}
    (mirror :
      ∀ call ∈ resolver.catalog.directCallsOn entry.name,
        call.member = name.lowerAscii → call.Mirrors entry.members)
    (evaluated : ∀ operand ∈ operands, operand.isEvaluated = true)
    (typeName : Text)
    (surroundings : Surroundings)
    (context : Text) :
    resolver.withoutDirectCalls.callStatic (some entry) typeName name operands surroundings
        context =
      resolver.callStatic (some entry) typeName name operands surroundings context := by
  have sameOpen :
      resolver.withoutDirectCalls.callOpen entry name operands surroundings context =
        resolver.callOpen entry name operands surroundings context := by
    have unrecognised :
        (if Text.sameName name "new" then none
          else DirectCall.find? (resolver.withoutDirectCalls.catalog.directCallsOn entry.name)
            name operands) = none := by
      split <;> rfl
    rw [callOpen, callOpen, unrecognised]
    dsimp only
    split
    · rename_i call arguments recognised
      split at recognised
      · cases recognised
      · exact DirectCall.callMember_of_find? mirror evaluated recognised _ _ _ _ _
    · rfl
  rw [callStatic, callStatic, sameOpen]
  rfl

/-- On a value whose members are mirrored, a call gives the same without the common calls. -/
theorem callInstance_withoutDirectCalls
    (resolver : Resolver)
    (mirror :
      ∀ receiver, ∀ call ∈ resolver.directCallsOnValue receiver,
        call.Mirrors (resolver.catalog.membersOf receiver))
    (evaluated : ∀ operand ∈ operands, operand.isEvaluated = true)
    (kind : MemberKind)
    (written : Text)
    (receiver : Value)
    (surroundings : Surroundings)
    (context : Text) :
    resolver.withoutDirectCalls.callInstance kind written receiver operands surroundings context =
      resolver.callInstance kind written receiver operands surroundings context := by
  have onPlain (plain : Value) (name : Text) :
      resolver.withoutDirectCalls.callOnPlain plain name operands surroundings context =
        resolver.callOnPlain plain name operands surroundings context := by
    have unrecognised :
        DirectCall.find? (resolver.withoutDirectCalls.directCallsOnValue plain) name operands =
          none := by
      cases plain <;> rfl
    rw [callOnPlain, callOnPlain, unrecognised]
    dsimp only
    split
    · rename_i call arguments recognised
      exact
        DirectCall.callMember_of_find? (fun call isMember _ => mirror plain call isMember) evaluated
          recognised _ _ _ _ _
    · rfl
  simp only [callInstance, onPlain]
  rfl

end Resolver

end RefExpand
