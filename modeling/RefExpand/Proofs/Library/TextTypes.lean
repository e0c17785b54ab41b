import RefExpand.Library.TextTypes
import RefExpand.Proofs.Library.TextMembers

namespace RefExpand

/-!
# Types of texts, characters and patterns heed their parameters
-/

namespace TextTypes

open Invocation (Serves)
open TextMembers (noMisfit_ignoresCaseAt)

variable {parameters : List ParameterType} {call : Invocation}

theorem heeds_repeated
    (first : parameters[0]?.any (· == .char) = true)
    (second : parameters[1]?.any (·.takesInteger) = true) :
    repeated.Heeds false parameters := by
  intro call serves
  obtain ⟨charPromised, charGiven⟩ := serves.given first
  obtain ⟨countPromised, countGiven⟩ := serves.given second
  refine .bind (serves.natural countPromised countGiven (by simp)) fun count => ?_
  exact .bind (serves.charIfGiven charPromised charGiven) fun c => .pure _

theorem heeds_ofChars
    (first : parameters[0]?.any (· == .charArray) = true) :
    ofChars.Heeds false parameters := by
  intro call serves
  obtain ⟨promised, isGiven⟩ := serves.given first
  exact .bind (serves.charsIfGiven promised isGiven) fun chars => .pure _

theorem heeds_isNullOrEmpty
    (first : parameters[0]?.all (· == .str) = true) :
    isNullOrEmpty.Heeds false parameters :=
  fun _ serves => .bind (serves.optionalText first) fun _ => .pure _

theorem heeds_isNullOrBlank
    (first : parameters[0]?.all (· == .str) = true) :
    isNullOrBlank.Heeds false parameters :=
  fun _ serves => .bind (serves.optionalText first) fun _ => .pure _

theorem heeds_concat
    (texts : parameters.all (· == .str) = true) :
    concat.Heeds false parameters :=
  fun _ serves =>
    .bind (.mapM fun _ _ => serves.textOrEmpty (ParameterType.promised_of_all texts)) fun _ =>
      .pure _

theorem heeds_copy
    (first : parameters[0]?.all (· == .str) = true) :
    copy.Heeds false parameters :=
  fun _ serves => .bind (serves.text first) fun _ => .pure _

theorem heeds_equals
    (first : parameters[0]?.all (· == .str) = true)
    (second : parameters[1]?.all (· == .str) = true)
    (third : parameters[2]?.all (·.takesInteger) = true) :
    equals.Heeds false parameters := by
  intro call serves
  refine .bind (noMisfit_ignoresCaseAt serves third) fun ignoreCase => ?_
  refine .bind (serves.optionalText first) fun left => ?_
  refine .bind (serves.optionalText second) fun right => ?_
  cases left <;> cases right <;> exact .pure _

theorem heeds_compareBy
    (first : parameters[0]?.all (· == .str) = true)
    (second : parameters[1]?.all (· == .str) = true)
    (third : parameters[2]?.all (·.takesInteger) = true) :
    compareBy.Heeds false parameters := by
  intro call serves
  refine .bind (noMisfit_ignoresCaseAt serves third) fun ignoreCase => ?_
  exact .bind (serves.textOrEmpty first) fun left =>
    .bind (serves.textOrEmpty second) fun right => .pure _

theorem heeds_compareIgnoring
    (first : parameters[0]?.all (· == .str) = true)
    (second : parameters[1]?.all (· == .str) = true)
    (third : parameters[2]?.any (· == .bool) = true) :
    compareIgnoring.Heeds false parameters := by
  intro call serves
  refine .bind (serves.textOrEmpty first) fun left => ?_
  refine .bind (serves.textOrEmpty second) fun right => ?_
  exact .bind (serves.bool third) fun ignoreCase => .pure _

theorem heeds_join
    (first : parameters[0]?.all (· == .str) = true) :
    join.Heeds false parameters :=
  fun _ serves => .bind (serves.textOrEmpty first) fun _ => .pure _

theorem noMisfit_formatValue
    (value : Value)
    (pattern : Option Text) :
    NoMisfit false (Composite.formatValue value pattern) := by
  unfold Composite.formatValue
  split
  · exact .ok _
  · exact .ok _
  · exact .map (.mapError (fun _ => rfl) _) _

theorem noMisfit_fillItem
    (arguments : List Value)
    (item : Composite.FormatItem) :
    NoMisfit false (Composite.fillItem arguments item) := by
  rw [Composite.fillItem]
  split
  · exact .failedOnType _
  · exact .bind (noMisfit_formatValue _ _) fun text => .pure _

/-- A composite format fails with messages only, whatever fills it. -/
theorem noMisfit_format
    (arguments : List Value)
    (text : Text) :
    NoMisfit false (Composite.format arguments text) := by
  fun_induction Composite.format arguments text with
  | case1 =>
      exact .ok []
  | case2 rest inductionHypothesis =>
      exact inductionHypothesis.map _
  | case3 rest inductionHypothesis =>
      exact inductionHypothesis.map _
  | case4 | case5 | case6 =>
      exact .failedOnType _
  | case7 rest _ inner after _ item _ inductionHypothesis =>
      refine .bind (noMisfit_fillItem arguments item) fun filled => ?_
      exact .bind inductionHypothesis fun tail => .pure _
  | case8 c rest _ _ _ _ inductionHypothesis =>
      exact inductionHypothesis.map _

theorem heeds_format
    (first : parameters[0]?.all (· == .str) = true) :
    format.Heeds false parameters :=
  fun _ serves =>
    .bind (serves.text first) fun _ => .bind (noMisfit_format _ _) fun _ => .pure _

/-- One character, or a position in a text. -/
theorem noMisfit_charArgument
    (serves : call.Serves false parameters)
    (shapes : parameters = [.char] ∨ parameters = [.str, .int]) :
    NoMisfit false (charArgument call) := by
  rcases shapes with rfl | rfl
  · refine .ite (fun _ => serves.charIfGiven rfl (by simp [serves.count])) fun several => ?_
    exact absurd serves.count several
  · refine .ite (fun one => ?_) fun _ => ?_
    · rw [serves.count] at one
      cases one
    · refine .bind (serves.text rfl) fun text => ?_
      refine .bind (serves.natural rfl (by simp [serves.count]) (by simp)) fun index => ?_
      cases text[index]? with
      | some c =>
          exact .pure c
      | none =>
          exact .failedOnType _

theorem heeds_charTest
    (name : String)
    (test : Char → Bool) :
    (charTest name test).Heeds false := by
  refine Member.heeds_shared.mpr fun parameters isListed call serves => ?_
  have shapes : parameters = [.char] ∨ parameters = [.str, .int] := by
    simpa using isListed
  exact .bind (noMisfit_charArgument serves shapes) fun c => .pure _

theorem noMisfit_patternArgument
    (serves : call.Serves false parameters)
    (second : parameters[1]?.all (· == .str) = true) :
    NoMisfit false (patternArgument call) :=
  .bind (serves.text second) fun _ => .mapError (fun _ => rfl) _

theorem heeds_isMatch
    (first : parameters[0]?.all (· == .str) = true)
    (second : parameters[1]?.all (· == .str) = true) :
    isMatch.Heeds false parameters :=
  fun _ serves =>
    .bind (noMisfit_patternArgument serves second) fun _ =>
      .bind (serves.text first) fun _ => .pure _

theorem heeds_replaceMatches
    (first : parameters[0]?.all (· == .str) = true)
    (second : parameters[1]?.all (· == .str) = true)
    (third : parameters[2]?.all (· == .str) = true) :
    replaceMatches.Heeds false parameters := by
  intro call serves
  refine .bind (noMisfit_patternArgument serves second) fun written => ?_
  exact .bind (serves.text first) fun text => .bind (serves.textOrEmpty third) fun other => .pure _

theorem heeds_escapePattern
    (first : parameters[0]?.all (· == .str) = true) :
    escapePattern.Heeds false parameters :=
  fun _ serves => .bind (serves.text first) fun _ => .pure _

theorem heeds_firstMatch
    (first : parameters[0]?.all (· == .str) = true)
    (second : parameters[1]?.all (· == .str) = true) :
    firstMatch.Heeds false parameters :=
  fun _ serves =>
    .bind (noMisfit_patternArgument serves second) fun _ =>
      .bind (serves.text first) fun _ => .pure _

theorem heeds_splitAtMatches
    (first : parameters[0]?.all (· == .str) = true)
    (second : parameters[1]?.all (· == .str) = true) :
    splitAtMatches.Heeds false parameters :=
  fun _ serves =>
    .bind (noMisfit_patternArgument serves second) fun _ =>
      .bind (serves.text first) fun _ => .pure _

theorem heeds_textType :
    ∀ member ∈ textType.members, member.Heeds false := by
  unfold textType someTexts
  simp only [List.forall_mem_cons, Member.heeds_single, Member.heeds_shared,
    Member.heeds_overloads, List.not_mem_nil, false_implies, implies_true, and_true]
  exact
    ⟨⟨heeds_repeated rfl rfl, heeds_ofChars rfl⟩,
      heeds_isNullOrEmpty rfl,
      heeds_isNullOrBlank rfl,
      ⟨heeds_concat rfl, heeds_concat rfl, heeds_concat rfl⟩,
      heeds_copy rfl,
      ⟨heeds_equals rfl rfl rfl, heeds_equals rfl rfl rfl⟩,
      ⟨heeds_compareBy rfl rfl rfl, heeds_compareIgnoring rfl rfl rfl,
        heeds_compareBy rfl rfl rfl⟩,
      ⟨heeds_join rfl, heeds_join rfl, heeds_join rfl⟩,
      ⟨heeds_format rfl, heeds_format rfl, heeds_format rfl⟩⟩

theorem heeds_charType :
    ∀ member ∈ charType.members, member.Heeds false := by
  unfold charType
  simp only [List.forall_mem_cons, List.not_mem_nil, false_implies, implies_true, and_true]
  exact
    ⟨heeds_charTest _ _, heeds_charTest _ _, heeds_charTest _ _, heeds_charTest _ _,
      heeds_charTest _ _, heeds_charTest _ _⟩

theorem heeds_patternType :
    ∀ member ∈ patternType.members, member.Heeds false := by
  unfold patternType
  simp only [List.forall_mem_cons, Member.heeds_single, List.not_mem_nil, false_implies,
    implies_true, and_true]
  exact
    ⟨heeds_isMatch rfl rfl,
      heeds_replaceMatches rfl rfl rfl,
      heeds_escapePattern rfl,
      heeds_firstMatch rfl rfl,
      heeds_splitAtMatches rfl rfl⟩

end TextTypes

end RefExpand
