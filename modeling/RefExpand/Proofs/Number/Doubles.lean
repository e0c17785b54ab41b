import Mathlib
import RefExpand.Number.Binary64

namespace RefExpand

/-!
# The double nearest to a whole number

A whole number goes to a double with 53 bits from its highest on, so what is left of it
is a multiple of a power of two. That is the nearest number which a double can have, and
the number itself exactly if it has no more than 53 bits before its trailing zeros.
-/

theorem twoTo_pos
    (exponent : Nat) :
    0 < twoTo exponent :=
  Nat.two_pow_pos exponent

theorem twoTo_add
    (m n : Nat) :
    twoTo (m + n) = twoTo m * twoTo n :=
  Nat.pow_add 2 m n

/-- A mantissa that is one bit too long goes to the next exponent. -/
theorem twoTo_carry
    (exponent : Nat) :
    twoTo 53 * twoTo exponent = twoTo 52 * twoTo (exponent + 1) := by
  rw [← twoTo_add, ← twoTo_add]
  congr 1
  omega

theorem scaleByTwo_natCast
    (mantissa exponent : Nat) :
    scaleByTwo mantissa exponent = (mantissa * twoTo exponent, 1) := by
  rw [scaleByTwo, if_neg (by omega), Int.natAbs_natCast]

theorem scaleByTwo_neg_natCast
    (mantissa exponent : Nat) :
    scaleByTwo mantissa (-exponent) = (mantissa, twoTo exponent) := by
  cases exponent with
  | zero =>
      exact congrArg (·, 1) (Nat.mul_one mantissa)
  | succ exponent =>
      rw [scaleByTwo, if_pos (by omega), Int.natAbs_neg, Int.natAbs_natCast]

section Rounding

variable {num den : Nat}

/-- What a rounded quotient can be, by the remainder. -/
theorem divNearestEven_cases
    (num den : Nat) :
    (divNearestEven num den = num / den ∧ 2 * (num % den) ≤ den) ∨
      (divNearestEven num den = num / den + 1 ∧ den ≤ 2 * (num % den)) := by
  unfold divNearestEven
  dsimp only
  split
  · left
    omega
  · split
    · right
      omega
    · split
      · left
        omega
      · right
        omega

theorem divNearestEven_mul
    (positive : 0 < den)
    (quotient : Nat) :
    divNearestEven (quotient * den) den = quotient := by
  have exactly : quotient * den / den = quotient :=
    Nat.mul_div_cancel quotient positive
  have noRest : quotient * den % den = 0 :=
    Nat.mul_mod_left quotient den
  rcases divNearestEven_cases (quotient * den) den with ⟨down, -⟩ | ⟨-, rest⟩
  · rw [down, exactly]
  · omega

theorem divNearestEven_one
    (n : Nat) :
    divNearestEven n 1 = n := by
  have exact' := divNearestEven_mul Nat.one_pos n
  rwa [Nat.mul_one] at exact'

/-- No multiple of the divisor is nearer than the rounded one. -/
theorem divNearestEven_nearest
    (positive : 0 < den)
    (num other : Nat) :
    ((num : Int) - (divNearestEven num den * den : Nat)).natAbs ≤
      ((num : Int) - (other * den : Nat)).natAbs := by
  have split : num / den * den + num % den = num :=
    Nat.div_add_mod' num den
  have above : (num / den + 1) * den = num / den * den + den :=
    Nat.succ_mul _ _
  have rest : num % den < den :=
    Nat.mod_lt num positive
  have apart : num / den * den + den ≤ other * den ∨ other * den ≤ num / den * den := by
    rw [← above]
    exact (Nat.lt_or_ge (num / den) other).imp (Nat.mul_le_mul_right den) (Nat.mul_le_mul_right den)
  rcases divNearestEven_cases num den with ⟨down, _⟩ | ⟨up, _⟩
  · rw [down]
    omega
  · rw [up, above]
    omega

theorem le_divNearestEven
    {low : Nat}
    (positive : 0 < den)
    (isLow : low * den ≤ num) :
    low ≤ divNearestEven num den := by
  have below : low ≤ num / den :=
    (Nat.le_div_iff_mul_le positive).mpr isLow
  rcases divNearestEven_cases num den with ⟨down, -⟩ | ⟨up, -⟩ <;> omega

theorem divNearestEven_le
    {high : Nat}
    (isHigh : num < high * den) :
    divNearestEven num den ≤ high := by
  have below : num / den < high :=
    Nat.div_lt_of_lt_mul (Nat.mul_comm high den ▸ isHigh)
  rcases divNearestEven_cases num den with ⟨down, -⟩ | ⟨up, -⟩ <;> omega

end Rounding

/-- A double can have this natural number as its value, as far as its range goes. -/
def IsWholeDouble (n : Nat) : Prop :=
  ∃ mantissa exponent, mantissa < twoTo 53 ∧ n = mantissa * twoTo exponent

/-- The natural number that is left of one in a double. -/
def nearestWhole (n : Nat) : Nat :=
  divNearestEven n (twoTo (n.log2 - 52)) * twoTo (n.log2 - 52)

theorem lt_mul_twoTo_log2
    (n : Nat) :
    n < twoTo 53 * twoTo (n.log2 - 52) := by
  have upper : n < twoTo (n.log2 + 1) :=
    Nat.lt_log2_self
  refine upper.trans_le ?_
  rw [← twoTo_add]
  exact Nat.pow_le_pow_right Nat.two_pos (by omega)

theorem mul_twoTo_log2_le
    {n : Nat}
    (isLong : 52 ≤ n.log2) :
    twoTo 52 * twoTo (n.log2 - 52) ≤ n := by
  have present : n ≠ 0 := by
    rintro rfl
    exact absurd isLong (by decide)
  rw [← twoTo_add, Nat.add_sub_cancel' isLong]
  exact Nat.log2_self_le present

theorem nearestWhole_of_short
    {n : Nat}
    (isShort : n.log2 ≤ 52) :
    nearestWhole n = n := by
  rw [nearestWhole, Nat.sub_eq_zero_of_le isShort]
  exact (Nat.mul_one _).trans (divNearestEven_one n)

theorem isWholeDouble_nearestWhole
    (n : Nat) :
    IsWholeDouble (nearestWhole n) := by
  have bound : divNearestEven n (twoTo (n.log2 - 52)) ≤ twoTo 53 :=
    divNearestEven_le (lt_mul_twoTo_log2 n)
  rcases bound.lt_or_eq with fits | carried
  · exact ⟨_, _, fits, rfl⟩
  · refine ⟨twoTo 52, n.log2 - 52 + 1, by decide, ?_⟩
    rw [nearestWhole, carried, twoTo_carry]

/-- No number that a double can have is nearer. -/
theorem nearestWhole_nearest
    (n : Nat)
    {other : Nat}
    (isDouble : IsWholeDouble other) :
    ((n : Int) - nearestWhole n).natAbs ≤ ((n : Int) - other).natAbs := by
  obtain ⟨mantissa, exponent, fits, rfl⟩ := isDouble
  rcases Nat.lt_or_ge exponent (n.log2 - 52) with coarse | fine
  · -- the other number has its highest bit below that of `n`, whose power of two is nearer
    have isBelow : mantissa * twoTo exponent ≤ twoTo 52 * twoTo (n.log2 - 52) := by
      calc
        mantissa * twoTo exponent ≤ twoTo 53 * twoTo exponent :=
          Nat.mul_le_mul_right _ fits.le
        _ = twoTo 52 * twoTo (exponent + 1) :=
          twoTo_carry exponent
        _ ≤ twoTo 52 * twoTo (n.log2 - 52) :=
          Nat.mul_le_mul_left _ (Nat.pow_le_pow_right Nat.two_pos coarse)
    have isLow := mul_twoTo_log2_le (n := n) (by omega)
    have nearest := divNearestEven_nearest (twoTo_pos (n.log2 - 52)) n (twoTo 52)
    rw [nearestWhole]
    omega
  · obtain ⟨more, rfl⟩ := Nat.exists_eq_add_of_le fine
    have isMultiple :
        mantissa * twoTo (n.log2 - 52 + more) = mantissa * twoTo more * twoTo (n.log2 - 52) := by
      rw [Nat.add_comm, twoTo_add, Nat.mul_assoc]
    rw [isMultiple]
    exact divNearestEven_nearest (twoTo_pos _) n _

theorem nearestWhole_eq_self_iff
    (n : Nat) :
    nearestWhole n = n ↔ IsWholeDouble n := by
  constructor
  · intro kept
    rw [← kept]
    exact isWholeDouble_nearestWhole n
  · intro isDouble
    have nearest := nearestWhole_nearest n isDouble
    omega

theorem nearestWhole_pos
    {n : Nat}
    (positive : 0 < n) :
    0 < nearestWhole n := by
  have isDouble : IsWholeDouble 1 := ⟨1, 0, by decide, rfl⟩
  have nearest := nearestWhole_nearest n isDouble
  omega

namespace FloatShape

/-- A double has this natural number as its value, with a sign. -/
def IsWhole (shape : FloatShape) (negative : Bool) (n : Nat) : Prop :=
  ∃ mantissa exponent den, 0 < den ∧ shape = .finite negative mantissa exponent ∧
    scaleByTwo mantissa exponent = (n * den, den)

open Float.Model in
/-- The bits of a double that is no special value are read as they were written. -/
theorem of_ofBits
    {bits : Nat}
    (inRange : bits < UInt64.size)
    (noSpecial : bits / twoTo 52 % twoTo 11 ≠ 2047) :
    of (Float.ofBits (UInt64.ofNat bits)) = ofBits bits := by
  have toNat : (UInt64.ofNat bits).toNat = bits :=
    UInt64.toNat_ofNat_of_lt inRange
  have valid : Format.binary64.Valid (UInt64.ofNat bits).toBitVec := by
    constructor
    intro allOnes
    have exponent := congrArg BitVec.toNat allOnes
    rw [UnpackedFloat.unpackExponent_def, BitVec.extractLsb'_toNat, UInt64.toNat_toBitVec, toNat,
      Nat.shiftRight_eq_div_pow] at exponent
    exact absurd exponent noSpecial
  have kept : (Float.ofBits (UInt64.ofNat bits)).toBits = UInt64.ofNat bits := by
    rw [← UInt64.toBitVec_inj]
    exact UnpackedFloat.pack_unpack_of_valid valid
  rw [of, kept, toNat]

/-- Sign, exponent and fraction are read from the bits that they were written to. -/
theorem of_ofBits_fields
    (negative : Bool)
    (biased fraction : Nat)
    (inRange : biased < 2047)
    (fits : fraction < twoTo 52) :
    of (Float.ofBits (UInt64.ofNat
        ((if negative then twoTo 63 else 0) + (biased * twoTo 52 + fraction)))) =
      if biased = 0 then .finite negative fraction (-1074)
      else .finite negative (fraction + twoTo 52) (biased - 1075) := by
  have sign : (if negative then twoTo 63 else 0) = negative.toNat * twoTo 63 := by
    cases negative <;> rfl
  have fiftyTwo : twoTo 52 = 4503599627370496 := rfl
  have sixtyThree : twoTo 63 = 9223372036854775808 := rfl
  have eleven : twoTo 11 = 2048 := rfl
  have isBit := negative.toNat_lt
  generalize shape : (if negative then twoTo 63 else 0) + (biased * twoTo 52 + fraction) = bits
  rw [sign, fiftyTwo, sixtyThree] at shape
  rw [fiftyTwo] at fits
  have highest : bits / twoTo 63 % 2 = negative.toNat := by
    rw [sixtyThree]
    omega
  have middle : bits / twoTo 52 % twoTo 11 = biased := by
    rw [fiftyTwo, eleven]
    omega
  have lowest : bits % twoTo 52 = fraction := by
    rw [fiftyTwo]
    omega
  have isSign : (negative.toNat == 1) = negative := by
    cases negative <;> rfl
  rw [of_ofBits (by rw [UInt64.size]; omega) (by omega), ofBits, highest, middle, lowest, isSign,
    if_neg (by omega)]

/-- A mantissa of 53 bits with an exponent in the range is read as it was packed. -/
theorem of_ofBits_packBits
    (negative : Bool)
    {mantissa : Nat}
    {exponent : Int}
    (low : twoTo 52 ≤ mantissa)
    (high : mantissa < twoTo 53)
    (least : -1074 ≤ exponent)
    (most : exponent ≤ 971) :
    of (Float.ofBits (UInt64.ofNat
        ((if negative then twoTo 63 else 0) + Number.packBits mantissa exponent))) =
      .finite negative mantissa exponent := by
  have double : twoTo 53 = twoTo 52 + twoTo 52 := rfl
  have packed :
      Number.packBits mantissa exponent =
        (exponent + 1075).toNat * twoTo 52 + (mantissa - twoTo 52) := by
    rw [Number.packBits, if_neg (by omega), if_neg (by omega)]
  have back : ((exponent + 1075).toNat : Int) - 1075 = exponent := by
    omega
  rw [packed, of_ofBits_fields negative _ _ (by omega) (by omega), if_neg (by omega),
    Nat.sub_add_cancel low, back]

end FloatShape

namespace Number

variable {n : Nat}

/-- A positive number scaled to its highest bit has a quotient of 53 bits. -/
theorem exists_scaleByTwo_log2
    (positive : 0 < n) :
    ∃ num den, scaleByTwo n (-(n.log2 - 52)) = (num, den) ∧ 0 < den ∧
      twoTo 52 * den ≤ num ∧ num < twoTo 53 * den := by
  have lower : twoTo n.log2 ≤ n :=
    Nat.log2_self_le positive.ne'
  have upper : n < twoTo (n.log2 + 1) :=
    Nat.lt_log2_self
  rcases Nat.le_total 52 n.log2 with isLong | isShort
  · obtain ⟨shift, log⟩ := Nat.exists_eq_add_of_le isLong
    have exponent : (n.log2 : Int) - 52 = shift := by
      omega
    rw [log, twoTo_add] at lower
    rw [log, Nat.add_right_comm, twoTo_add] at upper
    exact ⟨n, twoTo shift, exponent ▸ scaleByTwo_neg_natCast n shift, twoTo_pos _, lower, upper⟩
  · obtain ⟨shift, log⟩ := Nat.exists_eq_add_of_le isShort
    have exponent : -((n.log2 : Int) - 52) = shift := by
      omega
    have scaled : twoTo n.log2 * twoTo shift = twoTo 52 := by
      rw [← twoTo_add, ← log]
    have scaled' : twoTo (n.log2 + 1) * twoTo shift = twoTo 53 := by
      rw [← twoTo_add, Nat.add_right_comm, ← log]
    refine ⟨n * twoTo shift, 1, ?_, Nat.one_pos, ?_, ?_⟩
    · rw [exponent, scaleByTwo_natCast]
    · rw [Nat.mul_one, ← scaled]
      exact Nat.mul_le_mul_right _ lower
    · rw [Nat.mul_one, ← scaled']
      exact Nat.mul_lt_mul_of_pos_right upper (twoTo_pos _)

theorem quotientExponent_one
    (positive : 0 < n) :
    quotientExponent n 1 = n.log2 - 52 := by
  obtain ⟨num, den, scale, denPos, low, high⟩ := exists_scaleByTwo_log2 positive
  have lower : ¬num / den < twoTo 52 :=
    Nat.not_lt.mpr ((Nat.le_div_iff_mul_le denPos).mpr low)
  have upper : ¬twoTo 53 ≤ num / den :=
    Nat.not_le.mpr ((Nat.div_lt_iff_lt_mul denPos).mpr high)
  have logOne : Nat.log2 1 = 0 :=
    rfl
  rw [quotientExponent, logOne, Int.natCast_zero, Int.sub_zero, scale]
  dsimp only
  rw [Nat.mul_one, if_neg upper, if_neg lower]
  omega

/-- A natural number is packed with the exponent of its highest bit, or the next. -/
theorem nearestBits_one
    (positive : 0 < n)
    {num den : Nat}
    (scale : scaleByTwo n (-(n.log2 - 52)) = (num, den)) :
    nearestBits n 1 =
      if divNearestEven num den = twoTo 53 then packBits (twoTo 52) (n.log2 - 52 + 1)
      else packBits (divNearestEven num den) (n.log2 - 52) := by
  rw [nearestBits, if_neg positive.ne', quotientExponent_one positive]
  dsimp only
  rw [scale, Nat.mul_one]

/-- What a natural number is packed to: a mantissa of 53 bits whose value is the nearest. -/
theorem exists_packBits
    (positive : 0 < n) :
    ∃ mantissa exponent den, nearestBits n 1 = packBits mantissa exponent ∧
      (twoTo 52 ≤ mantissa ∧ mantissa < twoTo 53) ∧
      (-1074 ≤ exponent ∧ exponent ≤ n.log2 - 51) ∧
      0 < den ∧ scaleByTwo mantissa exponent = (nearestWhole n * den, den) := by
  obtain ⟨num, den, scale, denPos, low, high⟩ := exists_scaleByTwo_log2 positive
  have packed := nearestBits_one positive scale
  have atLeast : twoTo 52 ≤ divNearestEven num den :=
    le_divNearestEven denPos low
  -- a long number loses its last bits and may carry into one bit more; a short one is exact
  rcases Nat.le_total 52 n.log2 with isLong | isShort
  · obtain ⟨shift, log⟩ := Nat.exists_eq_add_of_le isLong
    have exponent : (n.log2 : Int) - 52 = shift := by
      omega
    rw [exponent, scaleByTwo_neg_natCast, Prod.mk.injEq] at scale
    obtain ⟨rfl, rfl⟩ := scale
    have nearest : nearestWhole n = divNearestEven n (twoTo shift) * twoTo shift := by
      rw [nearestWhole, log, Nat.add_sub_cancel_left]
    rw [exponent] at packed
    rcases (divNearestEven_le high).lt_or_eq with fits | carried
    · rw [if_neg fits.ne] at packed
      refine ⟨_, shift, 1, packed, ⟨atLeast, fits⟩, ⟨by omega, by omega⟩, Nat.one_pos, ?_⟩
      rw [scaleByTwo_natCast, nearest, Nat.mul_one]
    · rw [if_pos carried] at packed
      refine ⟨_, (shift + 1 : Nat), 1, packed, ⟨le_rfl, by decide⟩, ⟨by omega, by omega⟩,
        Nat.one_pos, ?_⟩
      rw [scaleByTwo_natCast, nearest, carried, Nat.mul_one, twoTo_carry]
  · obtain ⟨shift, log⟩ := Nat.exists_eq_add_of_le isShort
    have exponent : (n.log2 : Int) - 52 = -shift := by
      omega
    rw [exponent, Int.neg_neg, scaleByTwo_natCast, Prod.mk.injEq] at scale
    obtain ⟨rfl, rfl⟩ := scale
    rw [divNearestEven_one] at packed atLeast
    rw [Nat.mul_one] at high
    rw [if_neg high.ne, exponent] at packed
    refine ⟨_, -shift, twoTo shift, packed, ⟨atLeast, high⟩, ⟨by omega, by omega⟩, twoTo_pos _, ?_⟩
    rw [scaleByTwo_neg_natCast, nearestWhole_of_short isShort]

/-- The double nearest to a natural number has the nearest value that a double can have. -/
theorem isWhole_floatOfNat
    (negative : Bool)
    (inRange : n.log2 ≤ 1022) :
    (FloatShape.of (floatOfNat negative n)).IsWhole negative (nearestWhole n) := by
  rcases n.eq_zero_or_pos with rfl | positive
  · have shape := FloatShape.of_ofBits_fields negative 0 0 (by decide) (twoTo_pos 52)
    have nothing : nearestWhole 0 = 0 :=
      nearestWhole_of_short (by decide)
    refine ⟨0, -1074, twoTo 1074, twoTo_pos _, shape, ?_⟩
    rw [nothing, Nat.zero_mul]
    exact scaleByTwo_neg_natCast 0 1074
  · obtain ⟨mantissa, exponent, den, packed, ⟨low, high⟩, ⟨least, most⟩, denPos, scale⟩ :=
      exists_packBits positive
    refine ⟨mantissa, exponent, den, denPos, ?_, scale⟩
    rw [floatOfNat, nearestFloat, packed]
    exact FloatShape.of_ofBits_packBits negative low high least (by omega)

end Number

end RefExpand
