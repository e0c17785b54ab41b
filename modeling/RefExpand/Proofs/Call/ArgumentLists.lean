import RefExpand.Call.Link
import RefExpand.Expand.Transform
import RefExpand.Proofs.Expand.Failures
import RefExpand.Proofs.Scan.Commas
import RefExpand.Proofs.Scan.VectorGrammar
import RefExpand.Proofs.Scan.WindowParens

namespace RefExpand

/-!
# Argument lists that are delimited can be cut

The scanners that look for the end of an argument list agree on where it ends, and
what they delimit is a nested text, which is cut at its commas without a fault. So
the faults of an argument list are met behind an opening bracket only.
-/

theorem closeAt?_append
    (before back : Text) :
    closeAt? (before ++ '(' :: back) (before.utf8Size + 1) =
      (closeParen? back).map fun span =>
        (before.utf8Size + 1 + span.inside.utf8Size, span) := by
  have behindOpening := Text.dropBytes_append (before ++ ['(']) back
  rw [Text.utf8Size_append, List.append_assoc] at behindOpening
  change Text.dropBytes (before.utf8Size + 1) (before ++ '(' :: back) = back at behindOpening
  rw [closeAt?, behindOpening]

/-- An argument list ends in a window where its parenthesis is closed, before the window ends. -/
theorem argumentsEnd?_append
    (before back : Text)
    (finish : Nat) :
    argumentsEnd? (before ++ '(' :: back) before.utf8Size finish =
      ((closeAt? (before ++ '(' :: back) (before.utf8Size + 1)).filter (·.1 < finish)).map
        (·.1 + 1) := by
  rw [argumentsEnd?, Place.between, Text.dropBytes_append, Place.readParens?_parenthesis,
    closeAt?_append]
  cases closeParen? back with
  | none =>
      rfl
  | some span =>
      rw [Option.map_some, Option.bind_some, Option.map_some, Place.ifWithin, Option.filter_some]
      by_cases fits : before.utf8Size + 1 + span.inside.utf8Size < finish
      · have fitsBehind : span.parts.1.utf8Size < finish - before.utf8Size - 1 := by
          change span.inside.utf8Size < _
          omega
        have behind :
            before.utf8Size + (span.inside.utf8Size + 2) =
              before.utf8Size + 1 + span.inside.utf8Size + 1 := by
          omega
        rw [if_pos fitsBehind, if_pos (decide_eq_true fits)]
        exact congrArg some behind
      · have beyond : ¬span.parts.1.utf8Size < finish - before.utf8Size - 1 := by
          change ¬span.inside.utf8Size < _
          omega
        rw [if_neg beyond, if_neg (by simpa using fits)]
        rfl

/-- What stands between the parentheses is what the search for the end passes over. -/
theorem window_of_closeAt?
    {before back : Text}
    {close : Nat}
    {span : ClosedSpan}
    (closed : closeAt? (before ++ '(' :: back) (before.utf8Size + 1) = some (close, span)) :
    (before ++ '(' :: back).window (before.utf8Size + 1) close = span.inside ∧
      Nested span.inside := by
  rw [closeAt?_append] at closed
  obtain ⟨found, closedBack, same⟩ := Option.map_eq_some_iff.mp closed
  obtain ⟨rfl, rfl⟩ := Prod.mk.inj same
  refine ⟨?_, .of_closeParen? closedBack⟩
  have slice := Text.window_append (before ++ ['(']) found.inside (')' :: found.rest)
  rw [← closeParen?_eq_append closedBack, Text.utf8Size_append, List.append_assoc] at slice
  exact slice

theorem Argument.exists_parseAll
    {content : Text}
    (nested : Nested content) :
    ∃ arguments, parseAll content = .ok arguments := by
  obtain ⟨pieces, cut⟩ := nested.exists_splitCommas
  rw [parseAll]
  split
  · exact ⟨_, rfl⟩
  · rw [cut]
    exact ⟨_, rfl⟩

/-- A fault that is not one of an argument list. -/
def CallFault.OutsideArguments
    (cause : CallFault) :
    Prop :=
  ∀ fault, cause ≠ .badArguments fault

namespace CallLink

/-- The argument list of a method has no fault: it was delimited. -/
theorem readMethod_failsOnly
    (name parens : Text) :
    FailsOnly CallFault.OutsideArguments (readMethod name parens) := by
  unfold readMethod
  split
  · exact .error nofun
  · rename_i inside rest delimited
    obtain ⟨arguments, parsed⟩ :=
      Argument.exists_parseAll (readParens?_eq_some_iff.mp delimited).2
    have read : readArguments inside = .ok arguments := by
      rw [readArguments, parsed]
      rfl
    rw [read]
    exact .ok _

theorem readMember_failsOnly
    (front parens : Text) :
    FailsOnly CallFault.OutsideArguments (readMember front parens) := by
  have checked (member : WrittenMember) :
      FailsOnly CallFault.OutsideArguments
        (if member.name.isEmpty then Except.error CallFault.noMemberName
        else if !mayContinue member.remainder then Except.error CallFault.textAfterCall
        else pure member) := by
    split
    · exact .error nofun
    · split
      · exact .error nofun
      · exact .ok _
  unfold readMember
  dsimp only
  split
  · exact checked _
  · exact (readMethod_failsOnly front parens).bind checked

/-- Only an indexer has an argument list with a fault, and only a chained link is one. -/
theorem readTrimmed_failsOnly
    (chained : Bool)
    (expression : Text) :
    FailsOnly (fun cause => cause.OutsideArguments ∨ chained = true ∧ expression.head? = some '[')
      (readTrimmed chained expression) := by
  have outside (cause : CallFault) (isOutside : cause.OutsideArguments) :
      cause.OutsideArguments ∨ chained = true ∧ expression.head? = some '[' :=
    .inl isOutside
  unfold readTrimmed
  dsimp only
  split
  · exact .error (.inl nofun)
  · split
    · split
      · exact .error (.inl nofun)
      · exact ((readMember_failsOnly _ _).map _).mono outside
    · rename_i notStatic
      split
      · rename_i bracket
        intro cause _
        refine .inr ⟨?_, by simpa using bracket⟩
        -- A first link that begins with a bracket is read as a call on a type.
        cases chained with
        | true =>
            rfl
        | false =>
            obtain ⟨tail, rfl⟩ : ∃ tail, expression = '[' :: tail :=
              List.head?_eq_some_iff.mp (by simpa using bracket)
            exact absurd rfl notStatic
      · split
        · exact .error (.inl nofun)
        · split
          · exact .error (.inl nofun)
          · exact ((readMember_failsOnly _ _).map _).mono outside

/-- A link whose argument list has a fault is an indexer. -/
theorem indexer_of_badArguments
    {chained : Bool}
    {body : Text}
    {fault : SplitFault}
    (failed : read chained body = .error (.badArguments fault)) :
    chained = true ∧ body.trim.head? = some '[' := by
  rcases readTrimmed_failsOnly chained body.trim _ failed with outside | indexer
  · exact absurd rfl (outside fault)
  · exact indexer

end CallLink

/-- What is reported of a step is what the step does. -/
theorem StepForm.exists_of_mem_capturedAll
    {before : Text}
    {steps : List StepForm}
    {transform : Transform}
    (isMember : transform ∈ capturedAll before steps) :
    ∃ step ∈ steps, transform.kind = step.transform.kind := by
  induction steps generalizing before with
  | nil =>
      cases isMember
  | cons step later inductionHypothesis =>
      rcases List.mem_cons.mp isMember with rfl | inLater
      · exact ⟨step, List.mem_cons_self, rfl⟩
      · obtain ⟨other, isStep, same⟩ := inductionHypothesis inLater
        exact ⟨other, List.mem_cons_of_mem _ isStep, same⟩

namespace ItemVector

/-- The argument list of a function that was read in a vector is nested. -/
theorem nested_of_read?
    {text rest : Text}
    {vector : ItemVector}
    (read : read? text = some (vector, rest)) :
    ∀ transform ∈ vector.transforms, ∀ name arguments,
      transform.kind = .function name arguments → Nested arguments := by
  obtain ⟨form, -, rfl⟩ := read?_eq_some_iff.mp read
  intro transform isMember name arguments isFunction
  obtain ⟨step, -, same⟩ := StepForm.exists_of_mem_capturedAll isMember
  rw [isFunction] at same
  cases written : step.transform with
  | quoted body noQuote =>
      rw [written] at same
      cases same
  | call name' named gap arguments' nested =>
      rw [written] at same
      cases same
      exact nested

end ItemVector

namespace Pipeline

/-- A failure that is not worded like a fault of an argument list. -/
def OutsideArguments
    (pipeline : Pipeline)
    (cause : ExpandError) :
    Prop :=
  ∀ name fault, cause ≠ pipeline.misuse name (SplitFault.message fault)

theorem checkArity_failsOnly
    (pipeline : Pipeline)
    (name : Text)
    (arguments : List Argument)
    (arity : Nat) :
    FailsOnly pipeline.OutsideArguments (pipeline.checkArity name arguments arity) := by
  unfold checkArity
  split
  · exact .ok _
  · refine .error fun other fault same => ?_
    injection same with _ _ wording
    cases fault <;> cases wording

/-- A function with a nested argument list may get only the number of its arguments wrong. -/
theorem step_failsOnly
    (pipeline : Pipeline)
    {transform : Transform}
    (nested : ∀ name arguments, transform.kind = .function name arguments → Nested arguments) :
    FailsOnly pipeline.OutsideArguments (pipeline.step transform) := by
  unfold step
  split
  · exact .ok _
  · rename_i name written isFunction
    obtain ⟨arguments, parsed⟩ := Argument.exists_parseAll (nested name written isFunction)
    rw [parsed]
    refine .bind (.ok arguments) fun arguments => ?_
    split
    · exact .bind (pipeline.checkArity_failsOnly _ _ _) fun _ => .ok _
    · split
      · exact .bind (pipeline.checkArity_failsOnly _ _ _) fun _ => .ok _
      · exact .ok _

end Pipeline

/--
The search for the end of an argument list in a window finds the parenthesis that the
search in all of the text finds, if that lies in the window. What is delimited is cut at
its commas without a fault, so only indexers have argument lists with faults.
-/
theorem delimited_arguments_are_cut :
    (∀ (before back : Text) (finish : Nat),
      let expression := before ++ '(' :: back
      let opening := before.utf8Size
      argumentsEnd? expression opening finish =
          ((closeAt? expression (opening + 1)).filter (·.1 < finish)).map (·.1 + 1) ∧
        (∀ close span, closeAt? expression (opening + 1) = some (close, span) →
          ∃ pieces, splitCommas (expression.window (opening + 1) close) = .ok pieces) ∧
        ∀ behind, argumentsEnd? expression opening finish = some behind →
          ∃ pieces, splitCommas (expression.window (opening + 1) (behind - 1)) = .ok pieces) ∧
    (∀ chained body fault, CallLink.read chained body = .error (.badArguments fault) →
      chained = true ∧ body.trim.head? = some '[') ∧
    ∀ text vector rest, ItemVector.read? text = some (vector, rest) →
      ∀ transform ∈ vector.transforms, ∀ pipeline name fault,
        Pipeline.step pipeline transform ≠
          .error (pipeline.misuse name (SplitFault.message fault)) := by
  refine ⟨fun before back finish => ?_, fun _ _ _ => CallLink.indexer_of_badArguments, ?_⟩
  · have cut (close : Nat) (span : ClosedSpan)
        (closed : closeAt? (before ++ '(' :: back) (before.utf8Size + 1) = some (close, span)) :
        ∃ pieces,
          splitCommas ((before ++ '(' :: back).window (before.utf8Size + 1) close) =
            .ok pieces := by
      obtain ⟨inside, nested⟩ := window_of_closeAt? closed
      rw [inside]
      exact nested.exists_splitCommas
    refine ⟨argumentsEnd?_append before back finish, cut, fun behind ends => ?_⟩
    rw [argumentsEnd?_append] at ends
    obtain ⟨⟨close, span⟩, closed, rfl⟩ := Option.map_eq_some_iff.mp ends
    exact cut close span (Option.eq_some_of_filter_eq_some closed)
  · intro text vector rest read transform isMember pipeline name fault failed
    have nested := ItemVector.nested_of_read? read transform isMember
    exact pipeline.step_failsOnly nested _ failed name fault rfl

/-- Quoted delimiters in a call and in an item function, and an indexer that is cut short. -/
theorem delimited_arguments_with_quoted_delimiters :
    let expression : Text := "F('(,', $(X(\")\", `'`)), a) b"
    let transform : Transform :=
      { written := "F('a,)')", offset := 5, kind := .function "F" "'a,)'" }
    argumentsEnd? expression 1 26 = some 26 ∧
      (∃ pieces, splitCommas (expression.window 2 25) = .ok pieces) ∧
      (Text.trim "[$(X]").head? = some '[' ∧
      ∀ pipeline : Pipeline,
        pipeline.step transform ≠
          .error (pipeline.misuse "F" (SplitFault.message .openQuote)) := by
  intro expression transform
  have lists := delimited_arguments_are_cut.1 "F" "'(,', $(X(\")\", `'`)), a) b" 26
  have ends : argumentsEnd? expression 1 26 = some 26 := by
    decide +kernel
  have indexer :=
    delimited_arguments_are_cut.2.1 true "[$(X]" .openParenthesis (by decide +kernel)
  have read :
      ItemVector.read? "@(A->F('a,)'))" =
        some ({ written := "@(A->F('a,)'))", itemType := "A", transforms := [transform],
                separator := none }, []) := by
    decide +kernel
  refine ⟨ends, lists.2.2 26 ends, indexer.2, fun pipeline => ?_⟩
  exact delimited_arguments_are_cut.2.2 _ _ _ read transform List.mem_cons_self pipeline "F"
    .openQuote

end RefExpand
