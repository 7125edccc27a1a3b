import Bitmonie.FixedScale
import Mathlib.Data.Int.Log
import Mathlib.Tactic.Positivity
import Mathlib.Tactic.FieldSimp

/-! Decimal numbers of fixed precision: a result keeps a number of significant digits, half
away from zero. Its relative error is small; a result of few digits is exact; and the ceiling
of a fraction is not lost, as long as the error is smaller than one part of the fraction. -/
namespace Bitmonie.SignificantDigits
open FixedScale

section Precision
variable {α : Type} [Field α] [LinearOrder α] [IsStrictOrderedRing α] [FloorRing α] {x y s : α}
  {digits places : Nat}

def exponent (x : α) : Int := Int.log 10 |x|

def toDigits (digits : Nat) (x : α) : α := atScale (10 ^ ((digits : Int) - 1 - exponent x)) x

theorem pow_exponent_le (pos : 0 < x) : (10 : α) ^ exponent x ≤ x := by
  have least := Int.zpow_log_le_self (b := 10) (by norm_num) pos
  rwa [exponent, abs_of_pos pos, ← Nat.cast_ofNat (n := 10)]

theorem atScale_error (pos : 0 < s) (nonneg : 0 ≤ x) : |atScale s x - x| * s ≤ 1 / 2 := by
  have near := abs_sub_round (x * s)
  rw [atScale, halfAway_nonneg (mul_nonneg nonneg pos.le), ← abs_of_pos pos, ← abs_mul, abs_of_pos pos,
    sub_mul, div_mul_cancel₀ _ pos.ne', abs_sub_comm]
  exact near

variable (digits) in
/-- Half a unit of the last digit, in proportion to the number. -/
theorem toDigits_error (pos : 0 < x) :
    |toDigits digits x - x| ≤ x * (10 ^ (1 - (digits : Int)) / 2) := by
  have ten : (10 : α) ≠ 0 := by norm_num
  have scale : (0 : α) < 10 ^ ((digits : Int) - 1 - exponent x) := zpow_pos (by norm_num) _
  have unit : ((10 : α) ^ ((digits : Int) - 1 - exponent x))⁻¹ =
      10 ^ exponent x * 10 ^ (1 - (digits : Int)) := by
    rw [← zpow_neg, ← zpow_add₀ ten]
    congr 1
    ring
  have small : (0 : α) ≤ 10 ^ (1 - (digits : Int)) / 2 := by
    have : (0 : α) < 10 ^ (1 - (digits : Int)) := zpow_pos (by norm_num) _
    positivity
  calc |toDigits digits x - x|
      ≤ 1 / 2 / 10 ^ ((digits : Int) - 1 - exponent x) :=
        (le_div_iff₀ scale).mpr (atScale_error scale pos.le)
    _ = 10 ^ exponent x * (10 ^ (1 - (digits : Int)) / 2) := by
        rw [div_eq_mul_inv, unit]
        ring
    _ ≤ x * (10 ^ (1 - (digits : Int)) / 2) := mul_le_mul_of_nonneg_right (pow_exponent_le pos) small

variable (places) in
/-- A number of few enough digits is kept as it is. -/
theorem toDigits_eq_self (pos : 0 < x) (on : OnScale (10 ^ places) x)
    (small : x < 10 ^ ((digits : Int) - places)) : toDigits digits x = x := by
  have first : exponent x < (digits : Int) - places := by
    rw [exponent, abs_of_pos pos]
    apply (Int.lt_zpow_iff_log_lt (b := 10) (by norm_num) pos).mp
    rwa [Nat.cast_ofNat]
  have scale : (0 : α) < 10 ^ ((digits : Int) - 1 - exponent x) := zpow_pos (by norm_num) _
  refine atScale_eq_self scale ?_
  obtain ⟨more, spare⟩ : ∃ more : Nat, (digits : Int) - 1 - exponent x = places + more :=
    ⟨((digits : Int) - 1 - exponent x - places).toNat, by omega⟩
  obtain ⟨units, same⟩ := on
  refine ⟨units * 10 ^ more, ?_⟩
  rw [spare, zpow_add₀ (by norm_num), zpow_natCast, zpow_natCast, ← mul_assoc, same]
  push_cast
  ring

end Precision

section Errors
variable {α : Type} [Field α] [LinearOrder α] [IsStrictOrderedRing α] {x y : α}

theorem pos_of_near {δ : α} (pos : 0 < x) (small : δ < 1) (near : |y - x| ≤ x * δ) : 0 < y := by
  have lower := (abs_le.mp near).1
  have least : x * δ < x * 1 := mul_lt_mul_of_pos_left small pos
  linarith

/-- A quotient of a quotient, each rounded: the errors add up, and their product is a little
more. -/
theorem div_error {r z δ : α} (pos : 0 < r) (nonneg : 0 ≤ δ) (first : |y - x| ≤ x * δ)
    (second : |z - y / r| ≤ y / r * δ) : |z - x / r| ≤ x / r * (2 * δ + δ ^ 2) := by
  have moved : |y / r - x / r| ≤ x / r * δ := by
    rw [← sub_div, abs_div, abs_of_pos pos, div_mul_eq_mul_div]
    exact div_le_div_of_nonneg_right first pos.le
  have upper : y / r ≤ x / r + x / r * δ := by
    have := (abs_le.mp moved).2
    linarith
  have scaled := mul_le_mul_of_nonneg_right upper nonneg
  calc |z - x / r| ≤ |z - y / r| + |y / r - x / r| := abs_sub_le z (y / r) (x / r)
    _ ≤ (x / r + x / r * δ) * δ + x / r * δ := add_le_add (second.trans scaled) moved
    _ = x / r * (2 * δ + δ ^ 2) := by ring

end Errors

section Ceiling
variable {α : Type} [Field α] [LinearOrder α] [IsStrictOrderedRing α] [FloorRing α] {x y gap : α}
  {parts : Int}

/-- A fraction that is no integer is a part away from the integers around it. -/
theorem fraction_gap (pos : 0 < parts) (on : OnScale (parts : α) x) (broken : (⌈x⌉ : α) ≠ x) :
    x + 1 / parts ≤ ⌈x⌉ ∧ (⌈x⌉ : α) - 1 + 1 / parts ≤ x := by
  obtain ⟨units, same⟩ := on
  have parts_pos : (0 : α) < parts := by exact_mod_cast pos
  have one : 1 / (parts : α) * parts = 1 := div_mul_cancel₀ _ parts_pos.ne'
  have up : x < ⌈x⌉ := lt_of_le_of_ne (Int.le_ceil x) broken.symm
  have down : (⌈x⌉ : α) - 1 < x := sub_lt_iff_lt_add.mpr (Int.ceil_lt_add_one x)
  constructor
  · have above : (units : α) < ⌈x⌉ * parts := same ▸ mul_lt_mul_of_pos_right up parts_pos
    have whole : units + 1 ≤ ⌈x⌉ * parts := by exact_mod_cast above
    have scaled : (x + 1 / parts) * parts ≤ ⌈x⌉ * parts := by
      rw [add_mul, same, one]
      exact_mod_cast whole
    exact le_of_mul_le_mul_right scaled parts_pos
  · have below : ((⌈x⌉ - 1 : Int) : α) * parts < units := by
      rw [← same]
      push_cast
      exact mul_lt_mul_of_pos_right down parts_pos
    have whole : (⌈x⌉ - 1) * parts + 1 ≤ units := by exact_mod_cast below
    have scaled : ((⌈x⌉ : α) - 1 + 1 / parts) * parts ≤ x * parts := by
      rw [add_mul, same, one]
      exact_mod_cast whole
    exact le_of_mul_le_mul_right scaled parts_pos

theorem ceil_eq_of_near (near : |y - x| < gap) (above : x + gap ≤ ⌈x⌉)
    (below : (⌈x⌉ : α) - 1 + gap ≤ x) : ⌈y⌉ = ⌈x⌉ := by
  obtain ⟨left, right⟩ := abs_lt.mp near
  rw [Int.ceil_eq_iff]
  constructor <;> linarith

end Ceiling

end Bitmonie.SignificantDigits
