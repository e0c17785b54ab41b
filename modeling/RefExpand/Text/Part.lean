import RefExpand.Text.Blank

namespace RefExpand

/-!
# Proper parts

A proper part of a text is a stretch of it that is shorter. Readers that recur
on proper parts end, and everything they read was written in the first text.
-/

/-- A stretch of `whole` that is shorter than it. -/
def ProperPart (part whole : Text) : Prop :=
  part <:+: whole ∧ part.length < whole.length

namespace ProperPart

theorem trans {first second third : Text}
    (inner : ProperPart first second) (outer : ProperPart second third) :
    ProperPart first third :=
  ⟨inner.1.trans outer.1, Nat.lt_trans inner.2 outer.2⟩

theorem ofInfix {first second third : Text}
    (inner : first <:+: second) (outer : ProperPart second third) :
    ProperPart first third :=
  ⟨inner.trans outer.1, Nat.lt_of_le_of_lt inner.length_le outer.2⟩

theorem inInfix {first second third : Text}
    (inner : ProperPart first second) (outer : second <:+: third) :
    ProperPart first third :=
  ⟨inner.1.trans outer, Nat.lt_of_lt_of_le inner.2 outer.length_le⟩

/-- A stretch with at least one character before or after it is a proper part. -/
theorem between (before part after : Text) (some : 0 < before.length + after.length) :
    ProperPart part (before ++ part ++ after) := by
  refine ⟨List.infix_append before part after, ?_⟩
  simp only [List.length_append]
  omega

end ProperPart

namespace Text

theorem breakAt?_eq_append
    {p : Char → Bool} {text before after : Text}
    (found : breakAt? p text = some (before, after)) :
    ∃ c, p c = true ∧ text = before ++ c :: after := by
  induction text generalizing before with
  | nil => cases found
  | cons c rest inductionHypothesis =>
      simp only [breakAt?] at found
      split at found
      · rename_i isHere
        simp only [Option.some.injEq, Prod.mk.injEq] at found
        obtain ⟨rfl, rfl⟩ := found
        exact ⟨c, isHere, rfl⟩
      · simp only [Option.map_eq_some_iff, Prod.mk.injEq, Prod.exists] at found
        obtain ⟨earlier, later, inRest, rfl, rfl⟩ := found
        obtain ⟨d, isD, rfl⟩ := inductionHypothesis inRest
        exact ⟨d, isD, rfl⟩

/-- A text is cut at the first character of the class. -/
theorem of_mem_breakAt?
    {p : Char → Bool}
    {text before after : Text}
    (found : breakAt? p text = some (before, after)) :
    ∀ c ∈ before, p c = false := by
  induction text generalizing before with
  | nil =>
      cases found
  | cons c rest inductionHypothesis =>
      simp only [breakAt?] at found
      split at found
      · simp only [Option.some.injEq, Prod.mk.injEq] at found
        simp [← found.1]
      · rename_i notHere
        simp only [Option.map_eq_some_iff, Prod.mk.injEq, Prod.exists] at found
        obtain ⟨earlier, later, inRest, rfl, rfl⟩ := found
        intro d isMember
        rcases List.mem_cons.mp isMember with rfl | inEarlier
        · exact Bool.not_eq_true _ ▸ notHere
        · exact inductionHypothesis inRest d inEarlier

/-- What stands before the first character of a class is cut off there. -/
theorem breakAt?_append_cons
    {p : Char → Bool}
    {front : Text}
    (absent : ∀ c ∈ front, p c = false)
    {stop : Char}
    (found : p stop = true)
    (rest : Text) :
    breakAt? p (front ++ stop :: rest) = some (front, rest) := by
  induction front with
  | nil =>
      simp [breakAt?, found]
  | cons c front inductionHypothesis =>
      have later :=
        inductionHypothesis fun d isMember => absent d (List.mem_cons_of_mem _ isMember)
      rw [List.cons_append, breakAt?, absent c List.mem_cons_self, later]
      rfl

theorem trim_length_le (text : Text) : text.trim.length ≤ text.length :=
  (trim_isInfix text).length_le

end Text

end RefExpand
