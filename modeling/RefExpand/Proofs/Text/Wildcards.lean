import Mathlib.Data.List.Infix
import RefExpand.Proofs.Text.Escaping

namespace RefExpand

/-!
# Characters that come out of triples

Reading a text back leaves its reserved characters where they stand and adds those
that it holds in escaped form, one for each triple. So a text is read back with
the wildcards that it shows, and no others, exactly if it holds none that is
escaped.
-/

namespace Text

/-- How often a text holds the escaped form of a character, its digits in either case. -/
def escapedCount (wanted : Char) (text : Text) : Nat :=
  text.upperAscii.tails.countP (escapeChar wanted).isPrefixOf

theorem toNat_toUpper
    (c : Char) :
    c.toUpper.toNat =
      if 97 ≤ c.toNat ∧ c.toNat ≤ 122 then c.toNat - 32 else c.toNat := by
  have code : c.val.toNat = c.toNat :=
    rfl
  unfold Char.toUpper
  split
  · rename_i isLower
    simp only [UInt32.le_iff_toNat_le, code] at isLower
    have lower : 97 ≤ c.toNat ∧ c.toNat ≤ 122 :=
      isLower
    rw [if_pos lower]
    -- The code wraps around: what is added is the complement of 32.
    change (c.val + 4294967264).toNat = c.toNat - 32
    rw [UInt32.toNat_add, code]
    change (c.toNat + 4294967264) % 2 ^ 32 = _
    omega
  · rename_i notLower
    simp only [UInt32.le_iff_toNat_le, code] at notLower
    rw [if_neg]
    exact notLower

theorem toNat_hexDigit :
    ∀ n < 16, (hexDigit n).toNat = if n < 10 then n + 48 else n + 55 := by
  decide

/-- A digit of a value is the upper-case one, up to case. -/
theorem hexValue?_eq_some_iff
    {c : Char}
    {n : Nat} :
    hexValue? c = some n ↔ n < 16 ∧ c.toUpper = hexDigit n := by
  have inRange (first last : Char) :
      (first ≤ c ∧ c ≤ last) ↔ first.toNat ≤ c.toNat ∧ c.toNat ≤ last.toNat :=
    Iff.rfl
  have digits : '0'.toNat = 48 ∧ '9'.toNat = 57 := by decide
  have lower : 'a'.toNat = 97 ∧ 'f'.toNat = 102 := by decide
  have upper : 'A'.toNat = 65 ∧ 'F'.toNat = 70 := by decide
  simp only [hexValue?, inRange, digits, lower, upper]
  constructor
  · intro isValue
    have small : n < 16 := by
      grind
    refine ⟨small, ?_⟩
    rw [← Char.toNat_inj, toNat_toUpper, toNat_hexDigit n small]
    grind
  · rintro ⟨small, isDigit⟩
    rw [← Char.toNat_inj, toNat_toUpper, toNat_hexDigit n small] at isDigit
    grind

/-- A triple stands for a reserved character if it is its escaped form, up to case. -/
theorem decodeTriple?_eq_some_iff
    {wanted : Char}
    (reserved : isReserved wanted = true)
    {high low : Char} :
    decodeTriple? high low = some wanted ↔ ['%', high.toUpper, low.toUpper] = escapeChar wanted := by
  have small : wanted.toNat < 256 := by
    have ascii : ∀ c ∈ ['%', '*', '?', '@', '$', '(', ')', ';', '\''], c.toNat < 256 :=
      forall_mem_of_all rfl
    exact ascii wanted (isReserved_iff.mp reserved)
  have digits :
      (['%', high.toUpper, low.toUpper] = escapeChar wanted) ↔
        hexValue? high = some (wanted.toNat / 16) ∧ hexValue? low = some (wanted.toNat % 16) := by
    rw [hexValue?_eq_some_iff, hexValue?_eq_some_iff, escapeChar, if_pos reserved]
    simp only [List.cons.injEq, and_true, true_and]
    constructor
    · rintro ⟨isHigh, isLow⟩
      exact ⟨⟨by omega, isHigh⟩, by omega, isLow⟩
    · rintro ⟨⟨-, isHigh⟩, -, isLow⟩
      exact ⟨isHigh, isLow⟩
  rw [digits]
  constructor
  · intro decoded
    simp only [decodeTriple?, Option.bind_eq_bind, Option.bind_eq_some_iff] at decoded
    obtain ⟨h, isHigh, l, isLow, isWanted⟩ := decoded
    have highSmall := (hexValue?_eq_some_iff.mp isHigh).1
    have lowSmall := (hexValue?_eq_some_iff.mp isLow).1
    have code : wanted.toNat = 16 * h + l := by
      have valid : (16 * h + l).isValidChar :=
        .inl (by omega)
      rw [← Option.some.inj isWanted, Char.ofNat, dif_pos valid]
      rfl
    rw [isHigh, isLow, code]
    constructor
    · rw [show (16 * h + l) / 16 = h by omega]
    · rw [show (16 * h + l) % 16 = l by omega]
  · rintro ⟨isHigh, isLow⟩
    have code : 16 * (wanted.toNat / 16) + wanted.toNat % 16 = wanted.toNat := by
      omega
    simp [decodeTriple?, isHigh, isLow, code, Char.ofNat_toNat]

theorem eq_percent_of_toUpper
    {c : Char}
    (raised : c.toUpper = '%') :
    c = '%' := by
  have percent : '%'.toNat = 37 := by decide
  rw [← Char.toNat_inj, toNat_toUpper, percent] at raised
  rw [← Char.toNat_inj, percent]
  grind

/-- A text begins with the escaped form of a character if it begins with a triple for it. -/
theorem escapeChar_isPrefixOf_iff
    {wanted : Char}
    (reserved : isReserved wanted = true)
    {text : Text} :
    (escapeChar wanted).isPrefixOf text.upperAscii = true ↔
      ∃ high low rest,
        text = '%' :: high :: low :: rest ∧ decodeTriple? high low = some wanted := by
  obtain ⟨digit, digit', shape, -⟩ := escapeChar_of_isReserved reserved
  constructor
  · intro begins
    rw [shape, List.isPrefixOf_iff_prefix] at begins
    obtain ⟨later, whole⟩ := begins
    rcases text with _ | ⟨sign, _ | ⟨high, _ | ⟨low, rest⟩⟩⟩
    · simp [upperAscii] at whole
    · simp [upperAscii] at whole
    · simp [upperAscii] at whole
    · simp only [upperAscii, List.map_cons, List.cons_append, List.cons.injEq] at whole
      obtain ⟨isPercent, isHigh, isLow, -⟩ := whole
      refine ⟨high, low, rest, by rw [eq_percent_of_toUpper isPercent.symm], ?_⟩
      rw [decodeTriple?_eq_some_iff reserved, shape, isHigh, isLow]
  · rintro ⟨high, low, rest, rfl, decoded⟩
    rw [decodeTriple?_eq_some_iff reserved] at decoded
    rw [← decoded, List.isPrefixOf_iff_prefix]
    exact ⟨upperAscii rest, rfl⟩

theorem escapedCount_cons
    (wanted c : Char)
    (rest : Text) :
    escapedCount wanted (c :: rest) =
      escapedCount wanted rest +
        if (escapeChar wanted).isPrefixOf (upperAscii (c :: rest)) then 1 else 0 := by
  simp only [escapedCount, upperAscii, List.map_cons, List.tails_cons, List.countP_cons]

/-- Only a percent sign can begin an escaped form. -/
theorem escapedCount_cons_of_ne
    {wanted c : Char}
    (reserved : isReserved wanted = true)
    (other : c ≠ '%')
    (rest : Text) :
    escapedCount wanted (c :: rest) = escapedCount wanted rest := by
  rw [escapedCount_cons, if_neg, Nat.add_zero]
  rw [escapeChar_isPrefixOf_iff reserved]
  rintro ⟨high, low, later, shape, -⟩
  exact other (List.cons.inj shape).1

/-- The digits of a triple are neither reserved characters nor percent signs. -/
theorem isReserved_of_hexValue?
    {c : Char}
    {n : Nat}
    (isDigit : hexValue? c = some n) :
    isReserved c = false := by
  have isSome : (hexValue? c).isSome = true := by
    rw [isDigit]
    rfl
  exact @isReserved_eq_false (fun d => (hexValue? d).isSome) (forall_mem_of_all rfl) c isSome

theorem isReserved_of_decodeTriple?
    {high low c : Char}
    (decoded : decodeTriple? high low = some c) :
    isReserved high = false ∧ isReserved low = false := by
  simp only [decodeTriple?, Option.bind_eq_bind, Option.bind_eq_some_iff] at decoded
  obtain ⟨h, isHigh, l, isLow, -⟩ := decoded
  exact ⟨isReserved_of_hexValue? isHigh, isReserved_of_hexValue? isLow⟩

theorem ne_of_isReserved
    {c d : Char}
    (plain : isReserved c = false)
    (reserved : isReserved d = true) :
    c ≠ d := by
  rintro rfl
  rw [plain] at reserved
  cases reserved

/--
Reading a text back gives each reserved character as often as the text shows it,
and once more for each time the text holds its escaped form.
-/
theorem count_unescape
    {wanted : Char}
    (reserved : isReserved wanted = true)
    (noPercent : wanted ≠ '%')
    (text : Text) :
    (unescape text).count wanted = text.count wanted + escapedCount wanted text := by
  fun_induction unescape text with
  | case1 high low rest c decoded inductionHypothesis =>
      obtain ⟨highPlain, lowPlain⟩ := isReserved_of_decodeTriple? decoded
      have percent : isReserved '%' = true :=
        rfl
      -- The digits are not counted, and no escaped form begins at one of them.
      have shown : ('%' :: high :: low :: rest).count wanted = rest.count wanted := by
        simp only [List.count_cons_of_ne noPercent.symm,
          List.count_cons_of_ne (ne_of_isReserved highPlain reserved),
          List.count_cons_of_ne (ne_of_isReserved lowPlain reserved)]
      have behind : escapedCount wanted (high :: low :: rest) = escapedCount wanted rest := by
        rw [escapedCount_cons_of_ne reserved (ne_of_isReserved highPlain percent),
          escapedCount_cons_of_ne reserved (ne_of_isReserved lowPlain percent)]
      have here :
          (escapeChar wanted).isPrefixOf (upperAscii ('%' :: high :: low :: rest)) = true ↔
            c = wanted := by
        rw [escapeChar_isPrefixOf_iff reserved]
        constructor
        · rintro ⟨_, _, _, shape, isWanted⟩
          cases shape
          exact Option.some.inj (decoded.symm.trans isWanted)
        · rintro rfl
          exact ⟨high, low, rest, rfl, decoded⟩
      rw [shown, escapedCount_cons, behind, List.count_cons, inductionHypothesis]
      simp only [beq_iff_eq, here, Nat.add_assoc]
  | case2 high low rest undecoded inductionHypothesis =>
      have opensNothing :
          ¬ (escapeChar wanted).isPrefixOf (upperAscii ('%' :: high :: low :: rest)) = true := by
        rw [escapeChar_isPrefixOf_iff reserved]
        rintro ⟨_, _, _, shape, isWanted⟩
        cases shape
        rw [undecoded] at isWanted
        cases isWanted
      rw [List.count_cons_of_ne noPercent.symm, List.count_cons_of_ne noPercent.symm,
        inductionHypothesis, escapedCount_cons _ '%', if_neg opensNothing, Nat.add_zero]
  | case3 c rest noTriple inductionHypothesis =>
      have opensNothing :
          ¬ (escapeChar wanted).isPrefixOf (upperAscii (c :: rest)) = true := by
        rw [escapeChar_isPrefixOf_iff reserved]
        rintro ⟨high, low, later, shape, -⟩
        obtain ⟨isPercent, isRest⟩ := List.cons.inj shape
        exact noTriple high low later isPercent isRest
      rw [List.count_cons, List.count_cons, inductionHypothesis, escapedCount_cons,
        if_neg opensNothing]
      omega
  | case4 =>
      obtain ⟨high, low, shape, -⟩ := escapeChar_of_isReserved reserved
      simp [escapedCount, upperAscii, shape]

theorem isSome_dropBeginning?
    (beginning text : Text) :
    (dropBeginning? beginning text).isSome = beginning.isPrefixOf text := by
  fun_induction dropBeginning? beginning text with
  | case1 => simp
  | case2 => simp
  | case3 _ _ _ inductionHypothesis => simp [inductionHypothesis]
  | case4 _ _ _ _ differs => simp [List.isPrefixOf, differs]

/-- A text holds a part if the part begins at one of its places. -/
theorem holds_eq_any_tails
    (needle text : Text) :
    holds needle text = text.tails.any needle.isPrefixOf := by
  induction text with
  | nil =>
      cases needle <;> rfl
  | cons c rest inductionHypothesis =>
      rw [List.tails_cons, List.any_cons, ← inductionHypothesis, ← isSome_dropBeginning?, holds,
        breakOn?]
      cases dropBeginning? needle (c :: rest) with
      | none => simp [holds]
      | some after => rfl

theorem escapedCount_eq_zero_iff
    {wanted : Char}
    {text : Text} :
    escapedCount wanted text = 0 ↔ holds (escapeChar wanted) text.upperAscii = false := by
  rw [escapedCount, List.countP_eq_zero, holds_eq_any_tails, List.any_eq_false]

/-- No wildcard is escaped if neither has its escaped form in the text. -/
theorem hasEscapedWildcards_eq_false_iff
    {text : Text} :
    hasEscapedWildcards text = false ↔
      escapedCount '*' text = 0 ∧ escapedCount '?' text = 0 := by
  rw [escapedCount_eq_zero_iff, escapedCount_eq_zero_iff, ← Bool.or_eq_false_iff]
  rfl

end Text

end RefExpand
