import RefExpand.Proofs.Text.Escaping

namespace RefExpand

/-!
# The shape of escaped text

Escaped text can be told by its looks: of the reserved characters it shows percent signs
only, and at each of them the upper-case triple of a reserved character begins. A text
that looks so is the escaped form of what it is read as. Other texts are read as well,
and what they are read as has an escaped form that differs from them.
-/

namespace Text

/-- The escaped forms of the nine reserved characters. -/
def triples : List Text :=
  ["%25", "%2A", "%3F", "%40", "%24", "%28", "%29", "%3B", "%27"]

/-- The text shows no reserved character but percent signs, and each begins a triple. -/
structure IsEscaped (text : Text) : Prop where
  clear : ∀ c ∈ ['*', '?', '@', '$', '(', ')', ';', '\''], c ∉ text
  opens : ∀ before after, text = before ++ '%' :: after →
    ∃ triple ∈ triples, triple <+: '%' :: after

theorem triples_eq :
    triples = ['%', '*', '?', '@', '$', '(', ')', ';', '\''].map escapeChar :=
  rfl

theorem mem_triples_iff
    {triple : Text} :
    triple ∈ triples ↔ ∃ c, isReserved c = true ∧ escapeChar c = triple := by
  simp only [triples_eq, List.mem_map, isReserved_iff]

/-- A percent sign can only stand at the beginning of an escaped character. -/
theorem eq_nil_of_escapeChar_eq_append
    {c : Char}
    {before after : Text}
    (shape : escapeChar c = before ++ '%' :: after) :
    before = [] ∧ isReserved c = true := by
  cases reserved : isReserved c with
  | true =>
      obtain ⟨high, low, triple, -, highPlain, lowPlain, -⟩ := escapeChar_of_isReserved reserved
      rw [triple] at shape
      cases before with
      | nil =>
          exact ⟨rfl, rfl⟩
      | cons first before =>
          have inDigits : '%' ∈ [high, low] := by
            rw [(List.cons.inj shape).2]
            exact List.mem_append_right before List.mem_cons_self
          rcases List.mem_cons.mp inDigits with isHigh | isLow
          · subst isHigh
            cases highPlain
          · rw [← List.mem_singleton.mp isLow] at lowPlain
            cases lowPlain
  | false =>
      have isMember : '%' ∈ [c] := by
        rw [← escapeChar_of_not_isReserved reserved, shape]
        exact List.mem_append_right before List.mem_cons_self
      rw [← List.mem_singleton.mp isMember] at reserved
      cases reserved

theorem not_mem_escapeChar
    {c : Char}
    (isShown : c ∈ ['*', '?', '@', '$', '(', ')', ';', '\''])
    (d : Char) :
    c ∉ escapeChar d := by
  have reserved : isReserved c = true :=
    isReserved_iff.mpr (List.mem_cons_of_mem _ isShown)
  have noPercent : c ≠ '%' := by
    rintro rfl
    revert isShown
    decide
  simpa [escape] using not_mem_escape reserved noPercent [d]

/-- What stands behind an escaped character decides whether the whole looks escaped. -/
theorem isEscaped_escapeChar_append
    (c : Char)
    (rest : Text) :
    IsEscaped (escapeChar c ++ rest) ↔ IsEscaped rest := by
  constructor
  · intro escaped
    constructor
    · intro d isShown inRest
      exact escaped.clear d isShown (List.mem_append_right _ inRest)
    · intro before after shape
      refine escaped.opens (escapeChar c ++ before) after ?_
      rw [shape, List.append_assoc]
  · intro escaped
    constructor
    · intro d isShown isMember
      rcases List.mem_append.mp isMember with inFirst | inRest
      · exact not_mem_escapeChar isShown c inFirst
      · exact escaped.clear d isShown inRest
    · intro before after shape
      rcases List.append_eq_append_iff.mp shape with
        ⟨between, -, isRest⟩ | ⟨inFirst, isFirst, isAfter⟩
      · exact escaped.opens between after isRest
      · cases inFirst with
        | nil =>
            exact escaped.opens [] after isAfter.symm
        | cons sign digits =>
            obtain ⟨rfl, rfl⟩ := List.cons.inj isAfter
            obtain ⟨rfl, reserved⟩ := eq_nil_of_escapeChar_eq_append isFirst
            exact ⟨'%' :: digits, mem_triples_iff.mpr ⟨c, reserved, isFirst⟩, rest, rfl⟩

theorem isEscaped_nil :
    IsEscaped [] where
  clear := fun _ _ => List.not_mem_nil
  opens := by
    intro before after shape
    exact absurd (List.append_eq_nil_iff.mp shape.symm).2 (List.cons_ne_nil _ _)

theorem isEscaped_escape
    (text : Text) :
    IsEscaped (escape text) := by
  induction text with
  | nil =>
      exact isEscaped_nil
  | cons c rest inductionHypothesis =>
      rw [escape_cons, isEscaped_escapeChar_append]
      exact inductionHypothesis

/-- What looks escaped begins with an escaped character. -/
theorem IsEscaped.exists_escapeChar
    {first : Char}
    {rest : Text}
    (escaped : IsEscaped (first :: rest)) :
    ∃ c later, first :: rest = escapeChar c ++ later := by
  cases reserved : isReserved first with
  | true =>
      rcases List.mem_cons.mp (isReserved_iff.mp reserved) with rfl | isShown
      · obtain ⟨triple, isTriple, later, shape⟩ := escaped.opens [] rest rfl
        obtain ⟨c, -, rfl⟩ := mem_triples_iff.mp isTriple
        exact ⟨c, later, shape.symm⟩
      · exact absurd List.mem_cons_self (escaped.clear first isShown)
  | false =>
      refine ⟨first, rest, ?_⟩
      rw [escapeChar_of_not_isReserved reserved]
      rfl

theorem escapeChar_ne_nil
    (c : Char) :
    escapeChar c ≠ [] := by
  simpa [escape] using escape_ne_nil (List.cons_ne_nil c [])

/-- What looks escaped is the escaped form of a text. -/
theorem IsEscaped.exists_escape
    {text : Text}
    (escaped : IsEscaped text) :
    ∃ original, escape original = text := by
  -- The induction goes from one escaped character to the next, which may be three on.
  induction size : text.length using Nat.strongRecOn generalizing text with
  | ind count inductionHypothesis =>
      cases text with
      | nil =>
          exact ⟨[], rfl⟩
      | cons first rest =>
          obtain ⟨c, later, shape⟩ := escaped.exists_escapeChar
          have shorter : later.length < count := by
            have positive := List.length_pos_iff.mpr (escapeChar_ne_nil c)
            rw [← size, shape, List.length_append]
            omega
          rw [shape, isEscaped_escapeChar_append] at escaped
          obtain ⟨original, isLater⟩ := inductionHypothesis later.length shorter escaped rfl
          refine ⟨c :: original, ?_⟩
          rw [escape_cons, isLater, shape]

/-- A text survives reading and escaping exactly if it looks escaped. -/
theorem escape_unescape_eq_self_iff
    {text : Text} :
    escape (unescape text) = text ↔ IsEscaped text := by
  constructor
  · intro kept
    rw [← kept]
    exact isEscaped_escape _
  · intro escaped
    obtain ⟨original, rfl⟩ := escaped.exists_escape
    rw [unescape_escape]

/--
Escaping is a lossless code. Every text is read back from its escaped form, which looks
escaped; the texts that look escaped are those that survive reading and escaping. So no
two texts have one escaped form, and to read and escape twice is to do it once.
-/
theorem escaping_is_lossless :
    (∀ text, unescape (escape text) = text ∧ IsEscaped (escape text)) ∧
      (∀ text, escape (unescape text) = text ↔ IsEscaped text) ∧
      Function.Injective escape ∧
      ∀ text, escape (unescape (escape (unescape text))) = escape (unescape text) := by
  refine ⟨?_, ?_, escape_injective, ?_⟩
  · intro text
    exact ⟨unescape_escape text, isEscaped_escape text⟩
  · intro text
    exact escape_unescape_eq_self_iff
  · intro text
    rw [unescape_escape]

/-- A digit in lower case and a sign without digits are read, and come back in another form. -/
example :
    escape (unescape "%3b100%") = ("%3B100%25" : Text) := by
  decide

end Text

end RefExpand
