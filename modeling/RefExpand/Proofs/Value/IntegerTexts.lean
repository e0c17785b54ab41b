import RefExpand.Proofs.Number.FixedTexts
import RefExpand.Proofs.Text.Pieces
import RefExpand.Value.NumberPattern

namespace RefExpand

/-!
# Integers under patterns

A row of zeros and the letter `D` show all digits of an integer. The letters `N` and `F`
show those of the double nearest to it: `N` in groups of three from the right, and both
with nothing but zeros behind the point. So they keep the digits of exactly the integers
that a double can have as its value.
-/

namespace NumberPattern

open Number

/-- Digits and the groups that they stand in: three in every group behind the first. -/
def GroupedByThree (digits grouped : Text) : Prop :=
  ∃ first others, digits = first ++ List.flatten others ∧
    grouped = first ++ others.flatMap (',' :: ·) ∧
    (1 ≤ first.length ∧ first.length ≤ 3) ∧ ∀ group ∈ others, group.length = 3

/-- A pattern for integers: a letter with its precision, or a zero with more behind it. -/
inductive IntegerPattern where
  | padded (precision : Fin 65536)
  | grouped (precision : Fin 65536)
  | fixed (precision : Fin 65536)
  | zeros (more : Nat)

namespace IntegerPattern

/-- A pattern as it is written. -/
def text : IntegerPattern → Text
  | .padded precision => 'D' :: Decimal.ofNat precision
  | .grouped precision => 'N' :: Decimal.ofNat precision
  | .fixed precision => 'F' :: Decimal.ofNat precision
  | .zeros more => List.replicate (more + 1) '0'

/-- The pattern shows the double nearest to an integer. -/
def viaDouble : IntegerPattern → Bool
  | .padded _ | .zeros _ => false
  | .grouped _ | .fixed _ => true

/-- The natural number that is left of one under a pattern. -/
def kept (pattern : IntegerPattern) (n : Nat) : Nat :=
  if pattern.viaDouble then nearestWhole n else n

/-- The text of an integer under a pattern. -/
def shown (pattern : IntegerPattern) (negative : Bool) (n : Nat) : Text :=
  let digits := Decimal.ofNat (pattern.kept n)
  signText negative ++
    match pattern with
    | .padded precision => Decimal.padZeros precision digits
    | .grouped precision => group digits ++ zeroFraction precision
    | .fixed precision => digits ++ zeroFraction precision
    | .zeros more => Decimal.padZeros (more + 1) digits

end IntegerPattern

/-- A text without the separators of its groups. -/
def withoutSeparators (text : Text) : Text :=
  text.filter (· != ',')

/-- A text without its fraction, if that is nothing but zeros. -/
def withoutZeroFraction (text : Text) : Text :=
  match Text.breakAt? (· == '.') text with
  | some (whole, fraction) => if fraction.all (· == '0') then whole else text
  | none => text

/-- Digits without the zeros in front of another digit. -/
def withoutZeros : Text → Text
  | '0' :: digit :: digits => withoutZeros (digit :: digits)
  | digits => digits

/-- A number without the zeros in front of another digit, with its sign. -/
def withoutLeadingZeros : Text → Text
  | '-' :: digits => '-' :: withoutZeros digits
  | digits => withoutZeros digits

/-- What is left of a text without separators, a fraction of zeros, and leading zeros. -/
def plain (text : Text) : Text :=
  withoutLeadingZeros (withoutZeroFraction (withoutSeparators text))

theorem breakAt?_zeroFraction
    {front : Text}
    (noPoint : '.' ∉ front)
    (places : Nat) :
    Text.breakAt? (· == '.') (front ++ zeroFraction places) =
      if places = 0 then none else some (front, List.replicate places '0') := by
  have free := Text.free_of_not_mem noPoint
  rw [zeroFraction]
  split
  · rw [List.append_nil]
    exact Text.breakAt?_of_free free
  · exact Text.breakAt?_append_cons free rfl _

theorem groupThousands_of_whole
    (negative : Bool)
    {unsigned : Text}
    (noSign : ∀ digits, unsigned ≠ '-' :: digits)
    (noPoint : Text.breakAt? (· == '.') unsigned = none) :
    groupThousands (signText negative ++ unsigned) = signText negative ++ group unsigned := by
  cases negative with
  | false =>
      change groupThousands unsigned = group unsigned
      rewrite [groupThousands, noPoint]
      · rfl
      · exact noSign
  | true =>
      change groupThousands ('-' :: unsigned) = '-' :: group unsigned
      rewrite [groupThousands, noPoint]
      rfl

theorem groupThousands_of_fraction
    (negative : Bool)
    {unsigned whole fraction : Text}
    (noSign : ∀ digits, unsigned ≠ '-' :: digits)
    (cut : Text.breakAt? (· == '.') unsigned = some (whole, fraction)) :
    groupThousands (signText negative ++ unsigned) =
      signText negative ++ (group whole ++ '.' :: fraction) := by
  cases negative with
  | false =>
      change groupThousands unsigned = group whole ++ '.' :: fraction
      rewrite [groupThousands, cut]
      · rfl
      · exact noSign
  | true =>
      change groupThousands ('-' :: unsigned) = '-' :: (group whole ++ '.' :: fraction)
      rewrite [groupThousands, cut]
      rfl

theorem groupThousands_eq
    (negative : Bool)
    (n places : Nat) :
    groupThousands (signText negative ++ (Decimal.ofNat n ++ zeroFraction places)) =
      signText negative ++ (group (Decimal.ofNat n) ++ zeroFraction places) := by
  have noSign (digits : Text) : Decimal.ofNat n ++ zeroFraction places ≠ '-' :: digits :=
    Decimal.ofNat_append_ne_cons rfl n _ digits
  have cut := breakAt?_zeroFraction (Decimal.not_mem_ofNat (c := '.') rfl n) places
  by_cases noPlace : places = 0
  · rw [if_pos noPlace] at cut
    rw [groupThousands_of_whole negative noSign cut, zeroFraction, if_pos noPlace, List.append_nil,
      List.append_nil]
  · rw [if_neg noPlace] at cut
    rw [groupThousands_of_fraction negative noSign cut, zeroFraction, if_neg noPlace]

theorem padInteger_eq
    (width : Nat)
    (n : Int) :
    padInteger width n =
      signText (n < 0) ++ Decimal.padZeros width (Decimal.ofNat n.natAbs) := by
  rw [padInteger, signText]
  simp only [decide_eq_true_eq]
  split <;> rfl

theorem readPrecision?_ofNat
    {precision : Nat}
    (inRange : precision < UInt64.size) :
    readPrecision? (Decimal.ofNat precision) = some (some precision) := by
  have present : (Decimal.ofNat precision).isEmpty = false := by
    simp [Decimal.ofNat_ne_nil]
  rw [readPrecision?, present, if_neg Bool.false_ne_true, Decimal.readNat64?_ofNat,
    if_pos inRange]
  rfl

/-- A letter and a precision are read as they are written. -/
theorem formatNumber_letter
    {letter : Char}
    (isLetter : letter.isAlpha = true)
    (oneByte : letter.utf8Size = 1)
    (precision : Fin 65536)
    (value : Value) :
    value.formatNumber (letter :: Decimal.ofNat precision) =
      .ok (byLetter letter (some precision) value) := by
  have noBlank : ∀ c ∈ letter :: Decimal.ofNat precision, isBlank c = false := by
    intro c isMember
    apply Text.isBlank_of_isNameContinue
    rcases List.mem_cons.mp isMember with rfl | isDigit
    · simp [Text.isNameContinue, Text.isNameStart, isLetter]
    · exact Decimal.isNameContinue_of_mem_ofInt (n := precision) isDigit
  have noZero : (letter :: Decimal.ofNat precision).all (· == '0') = false := by
    rw [List.all_cons, Bool.and_eq_false_iff, beq_eq_false_iff_ne]
    left
    rintro rfl
    cases isLetter
  have inRange : precision.val < UInt64.size :=
    precision.isLt.trans (by decide)
  rw [Value.formatNumber, Text.trim_of_not_blank noBlank]
  dsimp only
  rw [noZero, if_neg Bool.false_ne_true, if_neg (not_not_intro oneByte),
    readPrecision?_ofNat inRange]
  rfl

theorem formatNumber_zeros
    (more : Nat)
    (value : Value) :
    value.formatNumber (List.replicate (more + 1) '0') = .ok (byZeros (more + 1) value) := by
  have noBlank : ∀ c ∈ List.replicate (more + 1) '0', isBlank c = false := by
    intro c isMember
    rw [List.eq_of_mem_replicate isMember]
    rfl
  have allZeros : ('0' :: List.replicate more '0').all (· == '0') = true := by
    rw [← List.replicate_succ, List.all_replicate]
    rfl
  rw [Value.formatNumber, Text.trim_of_not_blank noBlank, List.replicate_succ]
  dsimp only
  rw [if_pos allZeros, List.length_replicate]

/-- Every pattern for integers applies to every integer. -/
theorem formatNumber_integer
    (pattern : IntegerPattern)
    (v : Int64) :
    (Value.int v).formatNumber pattern.text =
      .ok (some (pattern.shown (v.toInt < 0) v.toInt.natAbs)) := by
  cases pattern with
  | padded precision =>
      rw [IntegerPattern.text, formatNumber_letter rfl rfl, byLetter, Option.getD_some,
        padInteger_eq]
      rfl
  | grouped precision =>
      rw [IntegerPattern.text, formatNumber_letter rfl rfl, byLetter, Option.getD_some,
        fixedText_floatOfInt, groupThousands_eq]
      rfl
  | fixed precision =>
      rw [IntegerPattern.text, formatNumber_letter rfl rfl, byLetter, Option.getD_some,
        fixedText_floatOfInt]
      rfl
  | zeros more =>
      rw [IntegerPattern.text, formatNumber_zeros, byZeros, padInteger_eq]
      rfl

section Plain

theorem withoutSeparators_of_not_mem
    {text : Text}
    (noComma : ',' ∉ text) :
    withoutSeparators text = text := by
  rw [withoutSeparators, List.filter_eq_self]
  intro c isMember
  rw [bne_iff_ne]
  rintro rfl
  exact noComma isMember

theorem withoutSeparators_append
    (front rest : Text) :
    withoutSeparators (front ++ rest) = withoutSeparators front ++ withoutSeparators rest :=
  List.filter_append front rest

/-- Grouping puts nothing but separators into a text. -/
theorem withoutSeparators_groupTail
    (text : Text) :
    withoutSeparators (groupTail text) = withoutSeparators text := by
  induction text with
  | nil =>
      rfl
  | cons c rest inductionHypothesis =>
      unfold withoutSeparators at inductionHypothesis ⊢
      rw [groupTail]
      split
      · rw [List.filter_cons_of_neg (by decide), List.filter_cons, List.filter_cons,
          inductionHypothesis]
      · rw [List.filter_cons, List.filter_cons, inductionHypothesis]

theorem withoutSeparators_group
    (text : Text) :
    withoutSeparators (group text) = withoutSeparators text := by
  cases text with
  | nil =>
      rfl
  | cons c rest =>
      have inner := withoutSeparators_groupTail rest
      unfold withoutSeparators at inner ⊢
      rw [group, List.filter_cons, List.filter_cons, inner]

theorem withoutZeroFraction_append
    {front : Text}
    (noPoint : '.' ∉ front)
    (places : Nat) :
    withoutZeroFraction (front ++ zeroFraction places) = front := by
  rw [withoutZeroFraction, breakAt?_zeroFraction noPoint]
  by_cases noPlace : places = 0
  · rw [if_pos noPlace, zeroFraction, if_pos noPlace]
    exact List.append_nil front
  · have allZeros : (List.replicate places '0').all (· == '0') = true := by
      rw [List.all_replicate]
      exact if_neg noPlace
    rw [if_neg noPlace]
    exact if_pos allZeros

theorem withoutZeros_replicate
    (count : Nat)
    {digits : Text}
    (present : digits ≠ []) :
    withoutZeros (List.replicate count '0' ++ digits) = withoutZeros digits := by
  induction count with
  | zero =>
      rfl
  | succ count inductionHypothesis =>
      have more : List.replicate count '0' ++ digits ≠ [] :=
        List.append_ne_nil_of_right_ne_nil _ present
      obtain ⟨digit, rest, shape⟩ := List.exists_cons_of_ne_nil more
      rw [List.replicate_succ, List.cons_append, shape, withoutZeros, ← shape]
      exact inductionHypothesis

theorem withoutZeros_ofNat
    (n : Nat) :
    withoutZeros (Decimal.ofNat n) = Decimal.ofNat n := by
  rcases n.eq_zero_or_pos with rfl | positive
  · rfl
  · have noZero := Decimal.head?_ofNat_ne_zero positive
    rw [withoutZeros]
    intro digit rest shape
    rw [shape] at noZero
    exact noZero rfl

theorem withoutLeadingZeros_signText
    (negative : Bool)
    {digits : Text}
    (noMinus : '-' ∉ digits) :
    withoutLeadingZeros (signText negative ++ digits) =
      signText negative ++ withoutZeros digits := by
  cases negative with
  | true =>
      rfl
  | false =>
      change withoutLeadingZeros digits = withoutZeros digits
      rw [withoutLeadingZeros]
      rintro rest rfl
      exact noMinus List.mem_cons_self

/-- A text is plain when its separators, its fraction of zeros and leading zeros are gone. -/
theorem plain_eq
    {body : Text}
    {zeros n : Nat}
    (isBody : withoutSeparators body = List.replicate zeros '0' ++ Decimal.ofNat n)
    (negative : Bool)
    (places : Nat) :
    plain (signText negative ++ (body ++ zeroFraction places)) =
      signText negative ++ Decimal.ofNat n := by
  have digit {c : Char} (isMember : c ∈ List.replicate zeros '0' ++ Decimal.ofNat n) :
      c.isDigit = true := by
    rcases List.mem_append.mp isMember with isZero | isDigit
    · rw [List.eq_of_mem_replicate isZero]
      rfl
    · exact Decimal.isDigit_of_mem_ofNat isDigit
  have noPoint : '.' ∉ signText negative ++ (List.replicate zeros '0' ++ Decimal.ofNat n) := by
    rw [List.mem_append, not_or]
    exact ⟨by cases negative <;> decide, fun isMember => absurd (digit isMember) (by decide)⟩
  have noMinus : '-' ∉ List.replicate zeros '0' ++ Decimal.ofNat n :=
    fun isMember => absurd (digit isMember) (by decide)
  have noComma : ',' ∉ signText negative ∧ ',' ∉ zeroFraction places := by
    refine ⟨by cases negative <;> decide, ?_⟩
    rw [zeroFraction]
    split
    · exact List.not_mem_nil
    · rw [List.mem_cons, not_or]
      exact ⟨by decide, fun isMember => absurd (List.eq_of_mem_replicate isMember) (by decide)⟩
  rw [plain, withoutSeparators_append, withoutSeparators_append, isBody,
    withoutSeparators_of_not_mem noComma.1, withoutSeparators_of_not_mem noComma.2,
    ← List.append_assoc, withoutZeroFraction_append noPoint, withoutLeadingZeros_signText _ noMinus,
    withoutZeros_replicate _ (Decimal.ofNat_ne_nil n), withoutZeros_ofNat]

end Plain

/-- The digits in front of the first separator are those left over by groups of three. -/
theorem exists_groups_of_groupTail
    (digits : Text) :
    ∃ first others, digits = first ++ List.flatten others ∧
      groupTail digits = first ++ others.flatMap (',' :: ·) ∧
      first.length = digits.length % 3 ∧ ∀ group ∈ others, group.length = 3 := by
  induction digits with
  | nil =>
      exact ⟨[], [], rfl, rfl, rfl, by simp⟩
  | cons c rest inductionHypothesis =>
      obtain ⟨first, others, isRest, isTail, left, three⟩ := inductionHypothesis
      rw [groupTail, isTail]
      split
      · rename_i isFull
        refine ⟨[], (c :: first) :: others, ?_, rfl, ?_, ?_⟩
        · rw [isRest]
          rfl
        · exact isFull.symm
        · rw [List.forall_mem_cons, List.length_cons]
          exact ⟨by omega, three⟩
      · rename_i notFull
        refine ⟨c :: first, others, ?_, rfl, ?_, three⟩
        · rw [isRest]
          rfl
        · rw [List.length_cons, List.length_cons]
          omega

theorem groupedByThree_group
    {digits : Text}
    (present : digits ≠ []) :
    GroupedByThree digits (group digits) := by
  obtain ⟨c, rest, rfl⟩ := List.exists_cons_of_ne_nil present
  obtain ⟨first, others, isRest, isTail, left, three⟩ := exists_groups_of_groupTail rest
  refine ⟨c :: first, others, ?_, ?_, ?_, three⟩
  · rw [isRest]
    rfl
  · rw [group, isTail]
    rfl
  · rw [List.length_cons]
    omega

/-- A sign and digits are the text of an integer, unless they are those of a negative zero. -/
theorem signText_append_ofNat
    {negative : Bool}
    {n : Nat}
    (noNegativeZero : negative = true → 0 < n) :
    signText negative ++ Decimal.ofNat n = Decimal.ofInt (signed negative n) := by
  cases negative with
  | false =>
      rfl
  | true =>
      obtain ⟨m, rfl⟩ := Nat.exists_eq_add_of_lt (noNegativeZero rfl)
      rw [Nat.zero_add]
      rfl

/-- What is plain in the text of an integer is the text of what the pattern kept of it. -/
theorem plain_shown
    (pattern : IntegerPattern)
    {negative : Bool}
    {n : Nat}
    (noNegativeZero : negative = true → 0 < n) :
    plain (pattern.shown negative n) = Decimal.ofInt (signed negative (pattern.kept n)) := by
  have noComma (n : Nat) : withoutSeparators (Decimal.ofNat n) = Decimal.ofNat n :=
    withoutSeparators_of_not_mem (Decimal.not_mem_ofNat rfl n)
  have padded (width n : Nat) :
      withoutSeparators (Decimal.padZeros width (Decimal.ofNat n)) =
        Decimal.padZeros width (Decimal.ofNat n) := by
    refine withoutSeparators_of_not_mem ?_
    rw [Decimal.padZeros, List.mem_append, not_or]
    exact ⟨fun isMember => absurd (List.eq_of_mem_replicate isMember) (by decide),
      Decimal.not_mem_ofNat rfl n⟩
  have keptPositive : negative = true → 0 < pattern.kept n := by
    intro isNegative
    rw [IntegerPattern.kept]
    split
    · exact nearestWhole_pos (noNegativeZero isNegative)
    · exact noNegativeZero isNegative
  rw [← signText_append_ofNat keptPositive]
  cases pattern with
  | padded precision =>
      have plain' := plain_eq (padded precision n) negative 0
      rwa [zeroFraction, if_pos rfl, List.append_nil] at plain'
  | zeros more =>
      have plain' := plain_eq (padded (more + 1) n) negative 0
      rwa [zeroFraction, if_pos rfl, List.append_nil] at plain'
  | fixed precision =>
      have body :
          withoutSeparators (Decimal.ofNat (nearestWhole n)) =
            List.replicate 0 '0' ++ Decimal.ofNat (nearestWhole n) :=
        noComma (nearestWhole n)
      exact plain_eq body negative precision
  | grouped precision =>
      have body :
          withoutSeparators (group (Decimal.ofNat (nearestWhole n))) =
            List.replicate 0 '0' ++ Decimal.ofNat (nearestWhole n) := by
        rw [withoutSeparators_group, noComma]
        rfl
      exact plain_eq body negative precision

theorem signed_eq_iff
    {v : Int}
    (n : Nat) :
    signed (v < 0) n = v ↔ n = v.natAbs := by
  rw [signed]
  simp only [decide_eq_true_eq]
  split <;> omega

/--
Every pattern for integers gives a text, and what is plain in that is the text of the
integer, or under `N` and `F` that of the double nearest to it. So it is the text of the
integer exactly under `D` and zeros, and for an integer that a double can have as its
value. Under `N` the digits in front of the point stand in groups of three from the right.
-/
theorem integers_shown_through_doubles
    (pattern : IntegerPattern)
    (v : Int64) :
    ∃ text, (Value.int v).formatNumber pattern.text = .ok (some text) ∧
      plain text = Decimal.ofInt (signed (v.toInt < 0) (pattern.kept v.toInt.natAbs)) ∧
      (plain text = Decimal.ofInt64 v ↔
        (pattern.viaDouble = true → IsWholeDouble v.toInt.natAbs)) ∧
      ∀ precision, pattern = .grouped precision → ∃ grouped,
        GroupedByThree (Decimal.ofNat (nearestWhole v.toInt.natAbs)) grouped ∧
          text = signText (v.toInt < 0) ++ (grouped ++ zeroFraction precision) := by
  have noNegativeZero : decide (v.toInt < 0) = true → 0 < v.toInt.natAbs := by
    rw [decide_eq_true_eq]
    omega
  have isPlain := plain_shown pattern noNegativeZero
  refine ⟨_, formatNumber_integer pattern v, isPlain, ?_, ?_⟩
  · rw [isPlain, Decimal.ofInt64, Decimal.ofInt_injective.eq_iff, signed_eq_iff, IntegerPattern.kept]
    cases pattern.viaDouble with
    | false =>
        exact iff_of_true rfl fun isTrue => absurd isTrue Bool.false_ne_true
    | true =>
        exact (nearestWhole_eq_self_iff _).trans ⟨fun isDouble _ => isDouble, (· rfl)⟩
  · rintro precision rfl
    exact ⟨_, groupedByThree_group (Decimal.ofNat_ne_nil _), rfl⟩

/-- The least positive integer that no double has as its value is shown as its neighbour. -/
theorem not_every_integer_shown_whole :
    ¬ ∀ (pattern : IntegerPattern) (v : Int64), ∃ text,
        (Value.int v).formatNumber pattern.text = .ok (some text) ∧
          plain text = Decimal.ofInt64 v := by
  intro claimed
  obtain ⟨text, formatted, isPlain⟩ := claimed (.grouped 0) 9007199254740993
  rw [formatNumber_integer] at formatted
  cases formatted
  revert isPlain
  decide +kernel

end NumberPattern

end RefExpand
