import RefExpand.Text.Casing

namespace RefExpand

/-!
# Lower case, character by character

Two characters keep lower case from being a map over the characters: the dotted capital
`İ` becomes two characters, and a capital sigma looks at the letters around it. A text
without the one, in which no letter stands before the other, is put into lower case
character by character, and so is each part of it.
-/

namespace Unicode

theorem simpleLower_sigma :
    simpleLower 'Σ' = 'σ' := by
  decide +kernel

theorem lowerChar_of_ne
    {c : Char}
    (plain : c ≠ 'İ') :
    lowerChar c = [simpleLower c] := by
  rw [lowerChar, beq_false_of_ne plain]
  rfl

theorem length_lowerChar
    (c : Char) :
    (lowerChar c).length = 1 + if c = 'İ' then 1 else 0 := by
  by_cases isDotted : c = 'İ'
  · subst isDotted
    rfl
  · rw [lowerChar_of_ne isDotted, if_neg isDotted]
    rfl

/-- A cased character that comes next also comes next in a longer text. -/
theorem meetsCased_append
    {front : Text}
    (meets : meetsCased front = true)
    (back : Text) :
    meetsCased (front ++ back) = true := by
  unfold meetsCased at meets ⊢
  cases next : front.dropWhile isCaseIgnorable with
  | nil =>
      rw [next] at meets
      cases meets
  | cons c rest =>
      rw [next] at meets
      rw [List.dropWhile_append, next]
      exact meets

end Unicode

namespace Text

open Unicode

/-- No `İ` occurs, and no capital sigma with a letter before it, case-ignorable characters aside. -/
structure HasSteadyCase (text : Text) : Prop where
  noDotted : 'İ' ∉ text
  sigmaLeads : ∀ front back, text = front ++ 'Σ' :: back → meetsCased front.reverse = false

variable {text : Text}

theorem hasSteadyCase_iff :
    text.HasSteadyCase ↔
      'İ' ∉ text ∧
        ∀ n < text.length, text[n]? = some 'Σ' → meetsCased (text.take n).reverse = false := by
  constructor
  · rintro ⟨noDotted, sigmaLeads⟩
    refine ⟨noDotted, fun n _ isSigma => sigmaLeads (text.take n) (text.drop (n + 1)) ?_⟩
    obtain ⟨within, isThere⟩ := List.getElem?_eq_some_iff.mp isSigma
    rw [← isThere, List.getElem_cons_drop, List.take_append_drop]
  · rintro ⟨noDotted, sigmaLeads⟩
    refine ⟨noDotted, ?_⟩
    rintro front back rfl
    simpa using sigmaLeads front.length (by simp) (by simp)

instance : Decidable text.HasSteadyCase :=
  decidable_of_iff' _ hasSteadyCase_iff

theorem lowerAfter_sigma
    (before rest : Text) :
    lowerAfter before ('Σ' :: rest) =
      (if meetsCased before && !meetsCased rest then 'ς' else 'σ') ::
        lowerAfter ('Σ' :: before) rest := by
  cases changes : meetsCased before && !meetsCased rest <;> simp [lowerAfter, changes]

theorem lowerAfter_cons_of_ne
    {c : Char}
    (other : c ≠ 'Σ')
    (before rest : Text) :
    lowerAfter before (c :: rest) = lowerChar c ++ lowerAfter (c :: before) rest := by
  rw [lowerAfter, beq_false_of_ne other]
  rfl

theorem HasSteadyCase.ofInfix
    {part : Text}
    (steady : text.HasSteadyCase)
    (isPart : part <:+: text) :
    part.HasSteadyCase := by
  obtain ⟨before, after, rfl⟩ := isPart
  refine ⟨fun isMember => steady.noDotted ?_, ?_⟩
  · simp [isMember]
  · rintro front back rfl
    have unmet := steady.sigmaLeads (before ++ front) (back ++ after) (by simp)
    rw [List.reverse_append] at unmet
    rw [← Bool.not_eq_true] at unmet ⊢
    exact fun meets => unmet (meetsCased_append meets _)

theorem lowerAfter_eq_map
    {before : Text}
    (noDotted : 'İ' ∉ text)
    (sigmaLeads :
      ∀ front back, text = front ++ 'Σ' :: back → meetsCased (front.reverse ++ before) = false) :
    lowerAfter before text = text.map simpleLower := by
  induction text generalizing before with
  | nil =>
      rfl
  | cons c rest inductionHypothesis =>
      rw [List.mem_cons, not_or] at noDotted
      have later : lowerAfter (c :: before) rest = rest.map simpleLower := by
        refine inductionHypothesis noDotted.2 ?_
        rintro front back rfl
        simpa using sigmaLeads (c :: front) back rfl
      rw [List.map_cons, ← later]
      by_cases isSigma : c = 'Σ'
      · subst isSigma
        have unmet : meetsCased before = false :=
          sigmaLeads [] rest rfl
        rw [lowerAfter_sigma, unmet, simpleLower_sigma]
        rfl
      · rw [lowerAfter_cons_of_ne isSigma, lowerChar_of_ne (Ne.symm noDotted.1)]
        rfl

/-- A text of steady case is put into lower case character by character. -/
theorem HasSteadyCase.lower_eq_map
    (steady : text.HasSteadyCase) :
    text.lower = text.map simpleLower := by
  refine lowerAfter_eq_map steady.noDotted fun front back shape => ?_
  rw [List.append_nil]
  exact steady.sigmaLeads front back shape

/-- The lower case of a text is that of its beginning, and then that of what follows it. -/
theorem exists_lowerAfter_append
    (before front back : Text) :
    ∃ lowered,
      lowerAfter before (front ++ back) = lowered ++ lowerAfter (front.reverse ++ before) back ∧
        lowered.length = front.length + front.count 'İ' := by
  induction front generalizing before with
  | nil =>
      exact ⟨[], rfl, rfl⟩
  | cons c rest inductionHypothesis =>
      obtain ⟨lowered, shape, size⟩ := inductionHypothesis (c :: before)
      rw [List.cons_append, List.reverse_cons, List.append_assoc rest.reverse, List.length_cons,
        List.count_cons]
      by_cases isSigma : c = 'Σ'
      · subst isSigma
        rw [lowerAfter_sigma, shape]
        exact ⟨_ :: lowered, rfl, by rw [List.length_cons, size, if_neg (by decide)]; omega⟩
      · rw [lowerAfter_cons_of_ne isSigma, shape, ← List.append_assoc]
        refine ⟨_, rfl, ?_⟩
        rw [List.length_append, size, length_lowerChar]
        simp only [beq_iff_eq]
        omega

theorem length_lowerAfter
    (before text : Text) :
    (lowerAfter before text).length = text.length + text.count 'İ' := by
  obtain ⟨lowered, shape, size⟩ := exists_lowerAfter_append before text []
  rw [List.append_nil, lowerAfter, List.append_nil] at shape
  rw [shape, size]

/-- Each `İ` makes the lower case of a text longer by one character. -/
theorem length_lower
    (text : Text) :
    text.lower.length = text.length + text.count 'İ' :=
  length_lowerAfter [] text

/-- The lower case of a capital sigma in a text, between what stands before and behind it. -/
theorem exists_lower_sigma
    (front back : Text) :
    ∃ before after,
      (front ++ 'Σ' :: back).lower =
          before ++
            (if meetsCased front.reverse && !meetsCased back then 'ς' else 'σ') :: after ∧
        before.length = front.length + front.count 'İ' ∧
        after.length = back.length + back.count 'İ' := by
  obtain ⟨lowered, shape, size⟩ := exists_lowerAfter_append [] front ('Σ' :: back)
  refine ⟨lowered, lowerAfter ('Σ' :: front.reverse) back, ?_, size, length_lowerAfter _ _⟩
  rw [lower, shape, List.append_nil, lowerAfter_sigma]

end Text

end RefExpand
