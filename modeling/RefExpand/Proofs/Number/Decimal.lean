import RefExpand.Number.FloatReading
import RefExpand.Proofs.Text.Name

namespace RefExpand

/-!
# Decimal texts

Reading the decimal text of an integer gives the integer back, over the whole
range of 64 bits, its ends included.
-/

namespace Decimal

theorem ofNat_ne_nil
    (n : Nat) :
    ofNat n ≠ [] :=
  Nat.toDigits_ne_nil

theorem isDigit_of_mem_ofNat
    {n : Nat}
    {c : Char}
    (isMember : c ∈ ofNat n) :
    c.isDigit = true :=
  Nat.isDigit_of_mem_toDigits (by decide) (by decide) isMember

theorem readDigits?_ofNat
    (n : Nat) :
    readDigits? (ofNat n) = some n := by
  have present : (ofNat n).isEmpty = false := by
    simp [ofNat_ne_nil]
  have allDigits : (ofNat n).all Char.isDigit = true := by
    rw [List.all_eq_true]
    intro c isMember
    exact isDigit_of_mem_ofNat isMember
  have value : digitsValue (ofNat n) = n :=
    Nat.ofDigitChars_ten_toDigits
  simp [readDigits?, present, allDigits, value]

theorem ofNat_eq_cons
    (n : Nat) :
    ∃ first rest, ofNat n = first :: rest ∧ first.isDigit = true := by
  obtain ⟨first, rest, shape⟩ := List.exists_cons_of_ne_nil (ofNat_ne_nil n)
  refine ⟨first, rest, shape, ?_⟩
  apply isDigit_of_mem_ofNat (n := n)
  rw [shape]
  exact List.mem_cons_self

theorem not_mem_ofNat
    {c : Char}
    (noDigit : c.isDigit = false)
    (n : Nat) :
    c ∉ ofNat n := by
  intro isMember
  rw [isDigit_of_mem_ofNat isMember] at noDigit
  cases noDigit

/-- What begins with the digits of a number begins with nothing else. -/
theorem ofNat_append_ne_cons
    {c : Char}
    (noDigit : c.isDigit = false)
    (n : Nat)
    (rest later : Text) :
    ofNat n ++ rest ≠ c :: later := by
  obtain ⟨first, more, shape, isDigit⟩ := ofNat_eq_cons n
  rw [shape]
  rintro ⟨⟩
  rw [isDigit] at noDigit
  cases noDigit

/-- No number but zero begins with a zero. -/
theorem head?_ofNat_ne_zero
    {n : Nat}
    (positive : 0 < n) :
    (ofNat n).head? ≠ some '0' := by
  induction n using Nat.strongRecOn with
  | ind n inductionHypothesis =>
      unfold ofNat at inductionHypothesis ⊢
      rcases Nat.lt_or_ge n 10 with isDigit | isLong
      · rw [Nat.toDigits_of_lt_base isDigit]
        intro isZero
        have code := congrArg Char.toNat (Option.some.inj isZero)
        rw [Nat.toNat_digitChar_of_lt_ten isDigit] at code
        exact positive.ne' (Nat.add_left_cancel code)
      · have noZero := inductionHypothesis (n / 10) (by omega) (by omega)
        obtain ⟨first, rest, shape⟩ := List.exists_cons_of_ne_nil (ofNat_ne_nil (n / 10))
        rw [ofNat] at shape
        rw [Nat.toDigits_of_base_le (by decide) isLong]
        rwa [shape] at noZero ⊢

theorem readNat64?_ofNat
    (n : Nat) :
    readNat64? (ofNat n) = if n < UInt64.size then some n else none := by
  have noSign (digits : Text) : ofNat n ≠ '+' :: digits := by
    rw [← List.append_nil (ofNat n)]
    exact ofNat_append_ne_cons rfl n [] digits
  have read : readNat? (ofNat n) = some n := by
    rw [readNat?, readDigits?_ofNat]
    exact noSign
  rw [readNat64?, read, Option.filter_some]
  simp

/-- The text of an integer is read as the integer. -/
theorem readInt?_ofInt
    (n : Int) :
    readInt? (ofInt n) = some n := by
  cases n with
  | ofNat n =>
      obtain ⟨first, rest, shape, digit⟩ := ofNat_eq_cons n
      have noMinus : first ≠ '-' := by
        rintro rfl
        cases digit
      have noPlus : first ≠ '+' := by
        rintro rfl
        cases digit
      have digits := readDigits?_ofNat n
      rw [shape] at digits
      rw [ofInt, shape, readInt?, readNat?, digits]
      · rfl
      · intro rest' isPlus
        exact absurd (List.cons.inj isPlus).1 noPlus
      · intro rest' isMinus
        exact absurd (List.cons.inj isMinus).1 noMinus
  | negSucc n =>
      rw [ofInt, readInt?, readDigits?_ofNat]
      rfl

theorem ofInt_injective :
    Function.Injective ofInt := by
  intro m n same
  have read := readInt?_ofInt m
  rw [same, readInt?_ofInt] at read
  exact (Option.some.inj read).symm

theorem fitsInt64_toInt
    (n : Int64) :
    fitsInt64 n.toInt = true := by
  simp only [fitsInt64, Bool.and_eq_true, decide_eq_true_eq]
  exact ⟨n.minValue_le_toInt, n.toInt_le⟩

/-- The text of a 64-bit integer is read as the integer. -/
theorem readInt64?_ofInt64
    (n : Int64) :
    readInt64? (ofInt64 n) = some n := by
  rw [readInt64?, ofInt64, readInt?_ofInt, Option.filter_some, if_pos (fitsInt64_toInt n),
    Option.map_some, Int64.ofInt_toInt]

/-- A minus sign and digits are all that the text of an integer holds. -/
theorem mem_ofInt
    {n : Int}
    {c : Char}
    (isMember : c ∈ ofInt n) :
    c = '-' ∨ c.isDigit = true := by
  cases n with
  | ofNat n =>
      exact .inr (isDigit_of_mem_ofNat isMember)
  | negSucc n =>
      rcases List.mem_cons.mp isMember with isMinus | isDigit
      · exact .inl isMinus
      · exact .inr (isDigit_of_mem_ofNat isDigit)

theorem isNameContinue_of_mem_ofInt
    {n : Int}
    {c : Char}
    (isMember : c ∈ ofInt n) :
    Text.isNameContinue c = true := by
  rcases mem_ofInt isMember with rfl | digit
  · decide
  · simp [Text.isNameContinue, digit]

theorem isAlpha_of_mem_ofInt
    {n : Int}
    {c : Char}
    (isMember : c ∈ ofInt n) :
    c.isAlpha = false := by
  rcases mem_ofInt isMember with rfl | digit
  · decide
  · rw [Text.isDigit_iff] at digit
    rw [← Bool.not_eq_true, Text.isAlpha_iff]
    omega

theorem ofInt_ne_nil
    (n : Int) :
    ofInt n ≠ [] := by
  cases n with
  | ofNat n =>
      exact ofNat_ne_nil n
  | negSucc n =>
      exact List.cons_ne_nil _ _

theorem trim_ofInt
    (n : Int) :
    Text.trim (ofInt n) = ofInt n :=
  Text.trim_of_not_blank fun _ isMember =>
    Text.isBlank_of_isNameContinue (isNameContinue_of_mem_ofInt isMember)

end Decimal

/-- An integer of a call is read from its decimal text. -/
theorem Number.readInteger?_ofInt64
    (n : Int64) :
    readInteger? (Decimal.ofInt64 n) = some n := by
  rw [readInteger?, Decimal.ofInt64, Decimal.trim_ofInt]
  exact Decimal.readInt64?_ofInt64 n

end RefExpand
