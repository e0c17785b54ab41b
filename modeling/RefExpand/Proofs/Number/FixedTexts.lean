import RefExpand.Number.Shortest
import RefExpand.Proofs.Number.Decimal
import RefExpand.Proofs.Number.Doubles

namespace RefExpand

/-!
# Texts with fixed places

A double that is a whole number is written with its digits, and behind the point there
is nothing but zeros. So an integer is written with the digits of the double nearest to it.
-/

namespace Decimal

/-- Behind the digits of a number stand those of the power of ten it is multiplied with. -/
theorem ofNat_mul_tenTo
    {n : Nat}
    (positive : 0 < n)
    (places : Nat) :
    ofNat (n * tenTo places) = ofNat n ++ List.replicate places '0' := by
  induction places with
  | zero =>
      rw [List.replicate_zero, List.append_nil]
      exact congrArg ofNat (Nat.mul_one n)
  | succ places inductionHypothesis =>
      have next : n * tenTo (places + 1) = 10 * (n * tenTo places) + 0 := by
        rw [tenTo, tenTo, Nat.pow_eq, Nat.pow_eq, Nat.pow_succ]
        ring
      have isPositive : 0 < n * tenTo places :=
        Nat.mul_pos positive (Nat.pow_pos (by decide))
      rw [List.replicate_succ', ← List.append_assoc, ← inductionHypothesis, next]
      exact (Nat.toDigits_append_toDigits (by decide) isPositive (by decide)).symm

theorem padded_mul_tenTo
    (n places : Nat) :
    padded (places + 1) (n * tenTo places) = ofNat n ++ List.replicate places '0' := by
  rcases n.eq_zero_or_pos with rfl | positive
  · rw [Nat.zero_mul]
    exact List.replicate_succ'.symm.trans List.replicate_succ
  · have present : 0 < (ofNat n).length :=
      Nat.length_toDigits_pos
    have enough : places + 1 - (ofNat n ++ List.replicate places '0').length = 0 := by
      rw [List.length_append, List.length_replicate]
      omega
    rw [padded, padZeros, ofNat_mul_tenTo positive, enough]
    rfl

end Decimal

namespace Number

/-- The sign in front of a number. -/
def signText (negative : Bool) : Text :=
  if negative then ['-'] else []

/-- A point and so many zeros; no point without a zero. -/
def zeroFraction (places : Nat) : Text :=
  if places = 0 then [] else '.' :: List.replicate places '0'

theorem fixedQuotient_mul
    {den : Nat}
    (positive : 0 < den)
    (places n : Nat) :
    fixedQuotient places (n * den) den = Decimal.ofNat n ++ zeroFraction places := by
  have rounded : divNearestEven (n * den * Decimal.tenTo places) den = n * Decimal.tenTo places := by
    rw [Nat.mul_right_comm]
    exact divNearestEven_mul positive _
  have cut :
      (Decimal.ofNat n ++ List.replicate places '0').length - places = (Decimal.ofNat n).length := by
    rw [List.length_append, List.length_replicate, Nat.add_sub_cancel]
  rw [fixedQuotient, rounded, Decimal.padded_mul_tenTo, cut, List.take_left, List.drop_left,
    zeroFraction]
  split
  · rw [List.append_nil]
  · rfl

/-- A double that is whole is written with its digits and a fraction of zeros. -/
theorem fixedText_of_isWhole
    {f : Float}
    {negative : Bool}
    {n : Nat}
    (isWhole : (FloatShape.of f).IsWhole negative n)
    (places : Nat) :
    fixedText places f = signText negative ++ (Decimal.ofNat n ++ zeroFraction places) := by
  obtain ⟨mantissa, exponent, den, positive, shape, scale⟩ := isWhole
  rw [fixedText, shape]
  dsimp only
  rw [scale]
  dsimp only
  rw [fixedQuotient_mul positive]
  rfl

/-- The double nearest to a 64-bit integer is whole, and so are its digits. -/
theorem fixedText_floatOfInt
    (v : Int64)
    (places : Nat) :
    fixedText places (floatOfInt v.toInt) =
      signText (v.toInt < 0) ++
        (Decimal.ofNat (nearestWhole v.toInt.natAbs) ++ zeroFraction places) := by
  have inRange : v.toInt.natAbs.log2 ≤ 1022 := by
    by_contra beyond
    have present : v.toInt.natAbs ≠ 0 := by
      rintro isZero
      exact beyond (isZero ▸ Nat.zero_le _)
    have tooLong : 2 ^ 64 ≤ v.toInt.natAbs :=
      (Nat.le_log2 present).mp (by omega)
    have lower := v.le_toInt
    have upper := v.toInt_lt
    omega
  exact fixedText_of_isWhole (isWhole_floatOfNat _ inRange) places

end Number

end RefExpand
