import RefExpand.Proofs.Text.Blank
import RefExpand.Text.Name

namespace RefExpand

/-!
# Reading names

A name is read as a whole where it ends: in front of a character that cannot
continue it, and in front of an arrow, whose dash could.
-/

namespace Text

/-- The codes of the letters. -/
theorem isAlpha_iff
    {c : Char} :
    c.isAlpha = true ↔
      (65 ≤ c.toNat ∧ c.toNat ≤ 90) ∨ (97 ≤ c.toNat ∧ c.toNat ≤ 122) := by
  have eitherCase :
      c.isAlpha =
        (decide (c.val ≥ 'A'.val ∧ c.val ≤ 'Z'.val) || (c.val ≥ 'a'.val && c.val ≤ 'z'.val)) :=
    rfl
  have code : c.val.toNat = c.toNat :=
    rfl
  simp only [eitherCase, Bool.or_eq_true, Bool.and_eq_true,
    decide_eq_true_eq, UInt32.le_iff_toNat_le, ge_iff_le, code]
  rfl

theorem isDigit_iff
    {c : Char} :
    c.isDigit = true ↔ 48 ≤ c.toNat ∧ c.toNat ≤ 57 := by
  have code : c.val.toNat = c.toNat :=
    rfl
  simp only [Char.isDigit, Bool.and_eq_true, decide_eq_true_eq, UInt32.le_iff_toNat_le,
    ge_iff_le, code]
  rfl

/-- The codes of the characters that may continue a name. -/
theorem isNameContinue_iff
    {c : Char} :
    isNameContinue c = true ↔
      (65 ≤ c.toNat ∧ c.toNat ≤ 90) ∨ (97 ≤ c.toNat ∧ c.toNat ≤ 122) ∨ c.toNat = 95 ∨
        (48 ≤ c.toNat ∧ c.toNat ≤ 57) ∨ c.toNat = 45 := by
  simp only [isNameContinue, isNameStart, Bool.or_eq_true, beq_iff_eq, isAlpha_iff,
    isDigit_iff, ← Char.toNat_inj]
  simp
  omega

theorem isBlank_of_isNameContinue
    {c : Char}
    (continues : isNameContinue c = true) :
    isBlank c = false := by
  rw [isNameContinue_iff] at continues
  simp only [isBlank, Bool.or_eq_false_iff, Bool.and_eq_false_iff,
    decide_eq_false_iff_not, beq_eq_false_iff_ne]
  omega

theorem isNameContinue_of_isNameStart
    {c : Char}
    (starts : isNameStart c = true) :
    isNameContinue c = true := by
  simp [isNameContinue, starts]

/-- A tail that is read to the end holds nothing but continuations of a name. -/
theorem continues_of_takeNameTail
    {text : Text}
    (toEnd : (takeNameTail text).2 = []) :
    ∀ c ∈ text, isNameContinue c = true := by
  induction text with
  | nil =>
      simp
  | cons c rest inductionHypothesis =>
      simp only [takeNameTail] at toEnd
      split at toEnd
      · rename_i taken
        simp only [Bool.and_eq_true] at taken
        intro d isMember
        rcases List.mem_cons.mp isMember with rfl | inRest
        · exact taken.1
        · exact inductionHypothesis toEnd d inRest
      · cases toEnd

/-- What is read as a name is made of continuations of a name. -/
theorem continues_of_mem_takeNameTail
    {text : Text} :
    ∀ c ∈ (takeNameTail text).1, isNameContinue c = true := by
  induction text with
  | nil =>
      simp [takeNameTail]
  | cons c rest inductionHypothesis =>
      simp only [takeNameTail]
      split
      · rename_i taken
        simp only [Bool.and_eq_true] at taken
        intro d isMember
        rcases List.mem_cons.mp isMember with rfl | inTail
        · exact taken.1
        · exact inductionHypothesis d inTail
      · simp

theorem continues_of_mem_takeName
    {text : Text} :
    ∀ c ∈ (takeName text).1, isNameContinue c = true := by
  cases text with
  | nil =>
      simp [takeName]
  | cons c rest =>
      simp only [takeName]
      split
      · rename_i starts
        intro d isMember
        rcases List.mem_cons.mp isMember with rfl | inTail
        · exact isNameContinue_of_isNameStart starts
        · exact continues_of_mem_takeNameTail d inTail
      · simp

/-- A name begins with what may begin one and goes on with what may continue one. -/
theorem exists_cons_of_isName
    {name : Text}
    (named : name.isName = true) :
    ∃ first rest,
      name = first :: rest ∧ isNameStart first = true ∧
        ∀ c ∈ rest, isNameContinue c = true := by
  cases name with
  | nil =>
      cases named
  | cons first rest =>
      simp only [isName, takeName, List.isEmpty_cons, Bool.not_false, Bool.true_and,
        List.isEmpty_iff] at named
      split at named
      · rename_i starts
        exact ⟨first, rest, rfl, starts, continues_of_takeNameTail named⟩
      · cases named

theorem ne_nil_of_isName
    {name : Text}
    (named : name.isName = true) :
    name ≠ [] := by
  obtain ⟨first, rest, rfl, -⟩ := exists_cons_of_isName named
  exact List.cons_ne_nil first rest

theorem continues_of_isName
    {name : Text}
    (named : name.isName = true) :
    ∀ c ∈ name, isNameContinue c = true := by
  obtain ⟨first, rest, rfl, starts, continues⟩ := exists_cons_of_isName named
  intro c isMember
  rcases List.mem_cons.mp isMember with rfl | inRest
  · exact isNameContinue_of_isNameStart starts
  · exact continues c inRest

theorem ne_of_isNameContinue
    {c d : Char}
    (continues : isNameContinue c = true)
    (stops : isNameContinue d = false) :
    c ≠ d := by
  rintro rfl
  rw [continues] at stops
  cases stops

/-- What cannot continue a name does not stand in one. -/
theorem not_mem_of_isName
    {name : Text}
    (named : name.isName = true)
    {c : Char}
    (stops : isNameContinue c = false) :
    c ∉ name := by
  intro isMember
  exact ne_of_isNameContinue (continues_of_isName named c isMember) stops rfl

theorem trim_of_isName
    {name : Text}
    (named : name.isName = true) :
    trim name = name := by
  exact trim_of_not_blank fun c isMember =>
    isBlank_of_isNameContinue (continues_of_isName named c isMember)

/-- A name that stands in front of this text ends there; an arrow is left alone. -/
inductive EndsName : Text → Prop where
  | nil : EndsName []
  | stop {c : Char}
      (stops : isNameContinue c = false)
      (noArrow : c ≠ '>')
      (rest : Text) :
      EndsName (c :: rest)
  | arrow (rest : Text) : EndsName ('-' :: '>' :: rest)

/-- A tail is read up to where the name ends. -/
theorem takeNameTail_append_of_ends
    {tail rest : Text}
    (continues : ∀ c ∈ tail, isNameContinue c = true)
    (ends : EndsName rest) :
    takeNameTail (tail ++ rest) = (tail, rest) := by
  induction tail with
  | nil =>
      cases ends with
      | nil =>
          rfl
      | stop stops noArrow rest =>
          simp [takeNameTail, stops]
      | arrow rest =>
          simp [takeNameTail]
  | cons c tail inductionHypothesis =>
      have later :=
        inductionHypothesis fun d isMember => continues d (List.mem_cons_of_mem _ isMember)
      have noArrowHere : (tail ++ rest).head? ≠ some '>' := by
        cases tail with
        | nil =>
            cases ends with
            | nil | arrow =>
                simp
            | stop stops noArrow rest =>
                simpa using noArrow
        | cons d tail =>
            intro isArrow
            have isContinue := continues d (by simp)
            rw [List.cons_append, List.head?_cons, Option.some.injEq] at isArrow
            rw [isArrow] at isContinue
            exact absurd isContinue (by decide)
      have taken :
          (isNameContinue c && !(c == '-' && (tail ++ rest).head? == some '>')) = true := by
        rw [continues c List.mem_cons_self, beq_eq_false_iff_ne.mpr noArrowHere,
          Bool.and_false]
        rfl
      rw [List.cons_append, takeNameTail, if_pos taken, later]

/-- A name is read up to where it ends. -/
theorem takeName_append_of_ends
    {name rest : Text}
    (named : name.isName = true)
    (ends : EndsName rest) :
    takeName (name ++ rest) = (name, rest) := by
  obtain ⟨first, tail, rfl, starts, continues⟩ := exists_cons_of_isName named
  rw [List.cons_append, takeName, takeNameTail_append_of_ends continues ends]
  simp [starts]

/-- What is read at the beginning of a text is a name, unless it is empty. -/
theorem isName_of_takeName
    {text name rest : Text}
    (taken : takeName text = (name, rest))
    (nonempty : name ≠ []) :
    name.isName = true := by
  cases text with
  | nil =>
      exact absurd (Prod.mk.inj taken).1.symm nonempty
  | cons c text =>
      simp only [takeName] at taken
      split at taken
      · rename_i starts
        obtain ⟨rfl, -⟩ := Prod.mk.inj taken
        have continues : ∀ d ∈ (takeNameTail text).1, isNameContinue d = true :=
          continues_of_mem_takeNameTail
        have toEnd := takeNameTail_append_of_ends continues .nil
        rw [List.append_nil] at toEnd
        simp [isName, takeName, starts, toEnd]
      · exact absurd (Prod.mk.inj taken).1.symm nonempty

theorem takeName_of_isName
    {name : Text}
    (named : name.isName = true) :
    takeName name = (name, []) := by
  have toEnd := takeName_append_of_ends named .nil
  rwa [List.append_nil] at toEnd

theorem ink_of_isName
    {name : Text}
    (named : name.isName = true)
    (rest : Text) :
    ∀ c ∈ (name ++ rest).head?, isAsciiBlank c = false := by
  obtain ⟨first, tail, rfl, starts, -⟩ := exists_cons_of_isName named
  have notBlank : isBlank first = false :=
    isBlank_of_isNameContinue (isNameContinue_of_isNameStart starts)
  simpa using isAsciiBlank_of_isBlank notBlank

theorem sameName_iff
    {left right : Text} :
    sameName left right = true ↔ left.lowerAscii = right.lowerAscii := by
  simp [sameName]

/-- Comparing with names that are the same gives the same answer. -/
theorem sameName_congr_right
    {left right : Text}
    (same : sameName left right = true)
    (other : Text) :
    sameName other left = sameName other right := by
  simp only [sameName, sameName_iff.mp same]

theorem toNat_toLower
    (c : Char) :
    c.toLower.toNat =
      if 65 ≤ c.toNat ∧ c.toNat ≤ 90 then c.toNat + 32 else c.toNat := by
  have code : c.val.toNat = c.toNat :=
    rfl
  unfold Char.toLower
  split
  · rename_i isUpper
    simp only [UInt32.le_iff_toNat_le, ge_iff_le, code] at isUpper
    have upper : 65 ≤ c.toNat ∧ c.toNat ≤ 90 :=
      isUpper
    rw [if_pos upper]
    change (c.val + 32).toNat = c.toNat + 32
    rw [UInt32.toNat_add, code]
    change (c.toNat + 32) % 2 ^ 32 = _
    omega
  · rename_i notUpper
    simp only [UInt32.le_iff_toNat_le, ge_iff_le, code] at notUpper
    rw [if_neg]
    exact notUpper

theorem toLower_toLower
    (c : Char) :
    c.toLower.toLower = c.toLower := by
  rw [← Char.toNat_inj, toNat_toLower c.toLower, toNat_toLower c]
  by_cases isUpper : 65 ≤ c.toNat ∧ c.toNat ≤ 90
  · rw [if_pos isUpper, if_neg (by omega)]
  · rw [if_neg isUpper, if_neg isUpper]

/-- A text is the same name as its lower-case form. -/
theorem sameName_lowerAscii
    (text : Text) :
    sameName text text.lowerAscii = true := by
  rw [sameName_iff, lowerAscii, lowerAscii, List.map_map]
  exact List.map_congr_left fun c _ => (toLower_toLower c).symm

/-- A character that is no letter is the same as no other up to case. -/
theorem eq_of_toLower_eq
    {c d : Char}
    (unlettered : d.isAlpha = false)
    (same : c.toLower = d.toLower) :
    c = d := by
  have codes := congrArg Char.toNat same
  rw [toNat_toLower, toNat_toLower] at codes
  rw [← Bool.not_eq_true, isAlpha_iff] at unlettered
  rw [← Char.toNat_inj]
  split at codes <;> split at codes <;> omega

/-- Texts that are the same up to case hold the same characters that are no letters. -/
theorem mem_of_sameName
    {left right : Text}
    (same : sameName left right = true)
    {c : Char}
    (unlettered : c.isAlpha = false)
    (isMember : c ∈ right) :
    c ∈ left := by
  have lowered : c.toLower ∈ left.lowerAscii := by
    rw [sameName_iff.mp same]
    exact List.mem_map_of_mem isMember
  obtain ⟨d, isInLeft, sameLower⟩ := List.mem_map.mp lowered
  rwa [eq_of_toLower_eq unlettered sameLower] at isInLeft

end Text

end RefExpand
