import RefExpand.Proofs.Number.Doubles

namespace RefExpand

/-!
# The integer nearest to a double

A finite double has an exact value, a quotient of integers, and is rounded as that quotient
is: to the nearest integer, and half way between two of them to the even one. No number is
rounded to two integers. A double with a fraction is not a large one, so the double that is
rounded to a large integer is this integer.
-/

/-- The integer is nearest to the number, and even if another one is as near. -/
structure IsNearestEven (x : ℚ) (n : ℤ) : Prop where
  near : |x - n| ≤ 1 / 2
  even : |x - n| = 1 / 2 → Even n

/-- The exact value of a finite double. -/
def FloatShape.value? : FloatShape → Option ℚ
  | .finite negative mantissa exponent =>
      some ((if negative then -1 else 1) * (mantissa * 2 ^ exponent))
  | _ => none

namespace IsNearestEven

variable {x : ℚ} {m n : ℤ}

theorem intCast
    (n : ℤ) :
    IsNearestEven n n where
  near := by
    norm_num
  even := by
    norm_num

theorem neg
    (nearest : IsNearestEven x n) :
    IsNearestEven (-x) (-n) := by
  have same : |(-x) - (-n : ℤ)| = |x - n| := by
    rw [Int.cast_neg, ← neg_sub', abs_neg]
  constructor
  · rw [same]
    exact nearest.near
  · rw [same]
    exact fun isTie => (nearest.even isTie).neg

theorem le
    (first : IsNearestEven x m)
    (second : IsNearestEven x n) :
    m ≤ n := by
  by_contra above
  have apart : (n : ℚ) + 1 ≤ m := by
    exact_mod_cast Int.not_le.mp above
  have nearFirst := abs_le.mp first.near
  have nearSecond := abs_le.mp second.near
  -- two integers that are both nearest stand at half a unit on both sides
  have tieFirst : x - m = -(1 / 2) := by
    linarith
  have tieSecond : x - n = 1 / 2 := by
    linarith
  have evenFirst : Even m := by
    apply first.even
    rw [tieFirst]
    norm_num
  have evenSecond : Even n := by
    apply second.even
    rw [tieSecond]
    norm_num
  have next : m = n + 1 := by
    have next' : (m : ℚ) = n + 1 := by
      linarith
    exact_mod_cast next'
  rw [next, Int.even_add_one] at evenFirst
  exact evenFirst evenSecond

theorem unique
    (first : IsNearestEven x m)
    (second : IsNearestEven x n) :
    m = n :=
  le_antisymm (first.le second) (second.le first)

end IsNearestEven

section Quotients

variable {num den : ℕ}

theorem abs_div_sub
    (positive : 0 < den)
    (n : ℤ) :
    |(num : ℚ) / den - n| = (|(num : ℤ) - n * den| : ℤ) / den := by
  have positive' : (0 : ℚ) < den := by
    exact_mod_cast positive
  have quotient : (num : ℚ) / den - n = ((num : ℤ) - n * den : ℤ) / den := by
    push_cast
    field_simp
  rw [quotient, abs_div, abs_of_pos positive', Int.cast_abs]

/-- How near an integer is to a quotient shows in twice what is left of the dividend. -/
theorem isNearestEven_div_iff
    (positive : 0 < den)
    (n : ℤ) :
    IsNearestEven ((num : ℚ) / den) n ↔
      2 * |(num : ℤ) - n * den| ≤ den ∧ (2 * |(num : ℤ) - n * den| = den → Even n) := by
  have positive' : (0 : ℚ) < den := by
    exact_mod_cast positive
  have near : |(num : ℚ) / den - n| ≤ 1 / 2 ↔ 2 * |(num : ℤ) - n * den| ≤ den := by
    rw [abs_div_sub positive, div_le_div_iff₀ positive' two_pos, one_mul, mul_comm]
    exact_mod_cast Iff.rfl
  have tie : |(num : ℚ) / den - n| = 1 / 2 ↔ 2 * |(num : ℤ) - n * den| = den := by
    rw [abs_div_sub positive, div_eq_div_iff positive'.ne' two_ne_zero, one_mul, mul_comm]
    exact_mod_cast Iff.rfl
  constructor
  · intro nearest
    exact ⟨near.mp nearest.near, fun isTie => nearest.even (tie.mpr isTie)⟩
  · rintro ⟨isNear, even⟩
    exact ⟨near.mpr isNear, fun isTie => even (tie.mp isTie)⟩

theorem divNearestEven_of_tie
    (tie : 2 * (num % den) = den) :
    divNearestEven num den % 2 = 0 := by
  unfold divNearestEven
  dsimp only
  split_ifs <;> omega

theorem isNearestEven_divNearestEven
    (positive : 0 < den) :
    IsNearestEven ((num : ℚ) / den) (divNearestEven num den) := by
  have left : (num : ℤ) - (num / den : ℕ) * den = (num % den : ℕ) := by
    have split : ((num / den * den + num % den : ℕ) : ℤ) = num :=
      congrArg Nat.cast (Nat.div_add_mod' num den)
    push_cast at split ⊢
    linarith
  have rest : num % den < den :=
    Nat.mod_lt num positive
  rw [isNearestEven_div_iff positive, Int.even_coe_nat, Nat.even_iff]
  rcases divNearestEven_cases num den with ⟨down, low⟩ | ⟨up, high⟩
  · have distance : |(num : ℤ) - (divNearestEven num den : ℕ) * den| = (num % den : ℕ) := by
      rw [down, left, Nat.abs_cast]
    rw [distance]
    exact ⟨by omega, fun isTie => divNearestEven_of_tie (by omega)⟩
  · have distance : |(num : ℤ) - (divNearestEven num den : ℕ) * den| = den - (num % den : ℕ) := by
      have beyond : (num : ℤ) - (num / den + 1 : ℕ) * den = (num % den : ℕ) - den := by
        rw [Nat.cast_succ, add_mul, one_mul, ← sub_sub, left]
      rw [up, beyond, abs_sub_comm, abs_of_nonneg (by omega)]
    rw [distance]
    exact ⟨by omega, fun isTie => divNearestEven_of_tie (by omega)⟩

end Quotients

section Doubles

variable {f : Float} {negative : Bool} {mantissa : ℕ} {exponent : ℤ} {x : ℚ} {n : ℤ}

theorem scaleByTwo_eq_div
    (mantissa : ℕ)
    (exponent : ℤ) :
    ∃ num den, scaleByTwo mantissa exponent = (num, den) ∧ 0 < den ∧
      (mantissa : ℚ) * 2 ^ exponent = num / den := by
  have cast (exponent : ℕ) : ((twoTo exponent : ℕ) : ℚ) = 2 ^ exponent := by
    rw [twoTo, Nat.pow_eq, Nat.cast_pow, Nat.cast_two]
  obtain ⟨shift, rfl | rfl⟩ := exponent.eq_nat_or_neg
  · refine ⟨_, _, scaleByTwo_natCast mantissa shift, Nat.one_pos, ?_⟩
    rw [Nat.cast_mul, cast, Nat.cast_one, div_one, zpow_natCast]
  · refine ⟨_, _, scaleByTwo_neg_natCast mantissa shift, twoTo_pos shift, ?_⟩
    rw [cast, zpow_neg, zpow_natCast, div_eq_mul_inv]

/-- A double is rounded as its exact value. -/
theorem isNearestEven_nearestInt?
    (finite : (FloatShape.of f).value? = some x) :
    ∃ n, Number.nearestInt? f = some n ∧ IsNearestEven x n := by
  cases shape : FloatShape.of f with
  | nan | infinite =>
      rw [shape] at finite
      cases finite
  | finite negative mantissa exponent =>
      obtain ⟨num, den, scale, positive, value⟩ := scaleByTwo_eq_div mantissa exponent
      have nearest : IsNearestEven ((num : ℚ) / den) (divNearestEven num den) :=
        isNearestEven_divNearestEven positive
      rw [shape, FloatShape.value?, value] at finite
      cases finite
      refine ⟨signed negative (divNearestEven num den), ?_, ?_⟩
      · rw [Number.nearestInt?, shape]
        dsimp only
        rw [scale]
      · cases negative with
        | false =>
            rw [if_neg Bool.false_ne_true, one_mul]
            exact nearest
        | true =>
            rw [if_pos rfl, neg_one_mul]
            exact nearest.neg

theorem FloatShape.mantissa_lt
    (shape : of f = .finite negative mantissa exponent) :
    mantissa < twoTo 53 := by
  have double : twoTo 53 = twoTo 52 + twoTo 52 := rfl
  have fits : f.toBits.toNat % twoTo 52 < twoTo 52 :=
    Nat.mod_lt _ (twoTo_pos 52)
  unfold of ofBits at shape
  dsimp only at shape
  split at shape
  · split at shape <;> cases shape
  · split at shape
    · cases shape
      omega
    · cases shape
      omega

/-- A double with 2 ^ 53 or more as its value has no fraction. -/
theorem exists_intCast_of_large
    (finite : (FloatShape.of f).value? = some x)
    (isLarge : 2 ^ 53 ≤ |x|) :
    ∃ n : ℤ, x = n := by
  cases shape : FloatShape.of f with
  | nan | infinite =>
      rw [shape] at finite
      cases finite
  | finite negative mantissa exponent =>
      rw [shape, FloatShape.value?] at finite
      cases finite
      have size : |(if negative then (-1 : ℚ) else 1)| = 1 := by
        cases negative <;> norm_num
      have fits : (mantissa : ℚ) < 2 ^ 53 := by
        exact_mod_cast FloatShape.mantissa_lt shape
      rw [abs_mul, size, one_mul, abs_of_nonneg (by positivity)] at isLarge
      have whole : 0 ≤ exponent := by
        by_contra negativeExponent
        have below : (2 : ℚ) ^ exponent ≤ 1 :=
          zpow_le_one_of_nonpos₀ one_le_two (by omega)
        have smaller : (mantissa : ℚ) * 2 ^ exponent ≤ mantissa :=
          mul_le_of_le_one_right (Nat.cast_nonneg mantissa) below
        linarith
      obtain ⟨shift, rfl⟩ := Int.eq_ofNat_of_zero_le whole
      refine ⟨(if negative then -1 else 1) * (mantissa * 2 ^ shift), ?_⟩
      push_cast
      rw [zpow_natCast]

/-- A double that is rounded to a large integer is this integer. -/
theorem eq_intCast_of_isNearestEven
    (finite : (FloatShape.of f).value? = some x)
    (nearest : IsNearestEven x n)
    (isLarge : 2 ^ 53 < |n|) :
    x = n := by
  have isLarge' : (2 : ℚ) ^ 53 + 1 ≤ |(n : ℚ)| := by
    exact_mod_cast isLarge
  have near : |(n : ℚ)| - |x| ≤ 1 / 2 := by
    have isNear := nearest.near
    rw [abs_sub_comm] at isNear
    exact (abs_sub_abs_le_abs_sub _ _).trans isNear
  obtain ⟨m, rfl⟩ := exists_intCast_of_large finite (by linarith)
  rw [(IsNearestEven.intCast m).unique nearest]

end Doubles

end RefExpand
