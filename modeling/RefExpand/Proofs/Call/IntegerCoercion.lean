import RefExpand.Call.Coercion
import RefExpand.Proofs.Number.Rounding

namespace RefExpand

/-!
# Doubles for integer parameters

A double is given to an integer parameter as the integer nearest to it, and refused if that
is out of the range of the parameter. There is one exception: the number just above the
range of 64 bits is not refused but taken as the largest integer of the range.
-/

namespace Value

/-- The integer has so many bits with its sign. -/
def InSignedRange (bits : Nat) (n : Int) : Prop :=
  -2 ^ (bits - 1) ≤ n ∧ n ≤ 2 ^ (bits - 1) - 1

instance (bits : Nat) (n : Int) : Decidable (InSignedRange bits n) :=
  inferInstanceAs (Decidable (_ ∧ _))

/-- The integer as a value, refused if it is out of the range of so many bits. -/
def exactInteger? (bits : Nat) (n : Int) : Option Value :=
  if InSignedRange bits n then some (.int (Int64.ofInt n)) else none

variable {f : Float} {n : Int}

theorem toInt_ofInt
    (inRange : InSignedRange 64 n) :
    (Int64.ofInt n).toInt = n :=
  Int64.toInt_ofInt_of_le inRange.1 (Int.lt_of_le_sub_one inRange.2)

theorem fitsInt32_iff :
    Decimal.fitsInt32 n = true ↔ InSignedRange 32 n := by
  unfold Decimal.fitsInt32
  rw [Bool.and_eq_true, decide_eq_true_eq, decide_eq_true_eq]
  exact Iff.rfl

/-- What integer a double is taken for, by the one nearest to it. -/
theorem toInteger?_float
    (rounded : Number.nearestInt? f = some n) :
    (Value.float f).toInteger? =
      if n = 2 ^ 63 then some Int64.maxValue
      else if InSignedRange 64 n then some (Int64.ofInt n)
      else none := by
  have above : Int64.maxValue.toInt + 1 = 2 ^ 63 := by
    decide
  have least : Int64.minValue.toInt = -2 ^ 63 := by
    decide
  have accepted :
      (decide (-2 ^ 63 ≤ n) && decide (n ≤ 2 ^ 63)) = true ↔ n = 2 ^ 63 ∨ InSignedRange 64 n := by
    rw [Bool.and_eq_true, decide_eq_true_eq, decide_eq_true_eq]
    unfold InSignedRange
    omega
  rw [toInteger?, rounded, Option.filter_some, above, least]
  by_cases atEdge : n = 2 ^ 63
  · rw [if_pos (accepted.mpr (.inl atEdge)), if_pos atEdge, Option.map_some, if_pos atEdge]
  · rw [if_neg atEdge]
    by_cases inRange : InSignedRange 64 n
    · rw [if_pos (accepted.mpr (.inr inRange)), if_pos inRange, Option.map_some, if_neg atEdge]
    · have refused := mt accepted.mp (not_or.mpr ⟨atEdge, inRange⟩)
      rw [if_neg refused, if_neg inRange, Option.map_none]

theorem coerce?_float_long
    (rounded : Number.nearestInt? f = some n) :
    (Value.float f).coerce? .long =
      if n = 2 ^ 63 then some (.int Int64.maxValue) else exactInteger? 64 n := by
  rw [coerce?, toInteger?_float rounded, exactInteger?]
  split
  · rfl
  · split <;> rfl

/-- The exception is far out of the range of 32 bits. -/
theorem coerce?_float_int
    (rounded : Number.nearestInt? f = some n) :
    (Value.float f).coerce? .int = exactInteger? 32 n := by
  rw [coerce?, toInteger32?, toInteger?_float rounded, exactInteger?]
  by_cases atEdge : n = 2 ^ 63
  · have large : ¬InSignedRange 32 (2 ^ 63) := by
      decide
    rw [if_pos atEdge, atEdge, if_neg large]
    rfl
  · rw [if_neg atEdge]
    by_cases inRange : InSignedRange 64 n
    · rw [if_pos inRange, Option.filter_some, toInt_ofInt inRange]
      by_cases small : InSignedRange 32 n
      · rw [if_pos (fitsInt32_iff.mpr small), if_pos small]
        rfl
      · rw [if_neg (mt fitsInt32_iff.mp small), if_neg small]
        rfl
    · have large : ¬InSignedRange 32 n := by
        unfold InSignedRange at inRange ⊢
        omega
      rw [if_neg inRange, if_neg large]
      rfl

/-- The number just above the range of 64 bits is the only one that is taken for another. -/
theorem coerce?_float_long_eq_exactInteger?_iff
    (rounded : Number.nearestInt? f = some n) :
    (Value.float f).coerce? .long = exactInteger? 64 n ↔ n ≠ 2 ^ 63 := by
  rw [coerce?_float_long rounded]
  by_cases atEdge : n = 2 ^ 63
  · rw [if_pos atEdge, atEdge]
    exact iff_of_false (by simp [exactInteger?, InSignedRange]) (not_not_intro rfl)
  · rw [if_neg atEdge]
    exact iff_of_true rfl atEdge

theorem eq_edge_iff
    {x : ℚ}
    (finite : (FloatShape.of f).value? = some x)
    (nearest : IsNearestEven x n) :
    n = 2 ^ 63 ↔ x = 2 ^ 63 := by
  constructor
  · intro atEdge
    have same := eq_intCast_of_isNearestEven finite nearest (by rw [atEdge]; decide)
    rw [same, atEdge]
    norm_num
  · rintro rfl
    have itself := IsNearestEven.intCast (2 ^ 63)
    rw [Int.cast_pow, Int.cast_ofNat] at itself
    exact nearest.unique itself

/--
A finite double has one nearest integer, the even one of two. For a parameter of 32 bits
it is this integer, or refused if that is out of range. For a parameter of 64 bits it
is so too, exactly if its value is not the number just above the range; that one is taken
for the largest integer.
-/
theorem doubles_coerced_exactly_below_edge
    {f : Float}
    {x : ℚ}
    (finite : (FloatShape.of f).value? = some x) :
    ∃ n, (∀ m, IsNearestEven x m ↔ m = n) ∧
      (Value.float f).coerce? .int = exactInteger? 32 n ∧
      ((Value.float f).coerce? .long = exactInteger? 64 n ↔ x ≠ 2 ^ 63) ∧
      (x = 2 ^ 63 → (Value.float f).coerce? .long = some (.int Int64.maxValue)) := by
  obtain ⟨n, rounded, nearest⟩ := isNearestEven_nearestInt? finite
  refine ⟨n, fun m => ⟨fun other => other.unique nearest, ?_⟩, coerce?_float_int rounded, ?_, ?_⟩
  · rintro rfl
    exact nearest
  · rw [coerce?_float_long_eq_exactInteger?_iff rounded, ne_eq, eq_edge_iff finite nearest]
  · intro atEdge
    rw [coerce?_float_long rounded, if_pos ((eq_edge_iff finite nearest).mpr atEdge)]

/-- Half way between two integers, of which the even one has more than 32 bits. -/
theorem doubles_coerced_exactly_below_edge_at_tie :
    (FloatShape.of (Float.ofBits 0x41DFFFFFFFE00000)).value? = some (4294967295 / 2) ∧
      (Value.float (Float.ofBits 0x41DFFFFFFFE00000)).coerce? .long = some (.int 2147483648) ∧
      (Value.float (Float.ofBits 0x41DFFFFFFFE00000)).coerce? .int = none := by
  have finite :
      (FloatShape.of (Float.ofBits 0x41DFFFFFFFE00000)).value? = some (4294967295 / 2) := by
    have shape :
        FloatShape.of (Float.ofBits 0x41DFFFFFFFE00000) =
          .finite false (2 ^ 53 - 2 ^ 21) (-22) := by
      decide +kernel
    rw [shape]
    norm_num [FloatShape.value?]
  obtain ⟨n, unique, small, large, -⟩ := doubles_coerced_exactly_below_edge finite
  have isTie : IsNearestEven (4294967295 / 2) 2147483648 := by
    constructor
    · norm_num [abs_of_neg]
    · exact fun _ => by decide
  obtain rfl := (unique _).mp isTie
  refine ⟨finite, ?_, ?_⟩
  · rw [large.mpr (by norm_num)]
    rfl
  · rw [small]
    rfl

/-- The number just above the range of 64 bits is taken for the largest integer. -/
theorem not_every_double_coerced_exactly :
    ¬ ∀ (f : Float) (x : ℚ) (n : Int), (FloatShape.of f).value? = some x → IsNearestEven x n →
        (Value.float f).coerce? .long = exactInteger? 64 n := by
  intro claimed
  have finite : (FloatShape.of (Float.ofBits 0x43E0000000000000)).value? = some (2 ^ 63) := by
    have shape :
        FloatShape.of (Float.ofBits 0x43E0000000000000) = .finite false (2 ^ 52) 11 := by
      decide +kernel
    rw [shape]
    norm_num [FloatShape.value?]
  obtain ⟨n, rounded, nearest⟩ := isNearestEven_nearestInt? finite
  have exactly := claimed _ _ n finite nearest
  rw [coerce?_float_long_eq_exactInteger?_iff rounded] at exactly
  exact exactly ((eq_edge_iff finite nearest).mpr rfl)

end Value

end RefExpand
