import Mathlib.Algebra.Order.Round
import Mathlib.Algebra.Order.Field.Basic
import Mathlib.Tactic.Linarith
import Mathlib.Tactic.Ring

/-! Columns of fixed scale: a stored number is rounded to a multiple of `1 / s`, half away
from zero. Two parts of a multiple, rounded each on its own, add up again unless they are
ties. -/
namespace Bitmonie.FixedScale

section Scale
variable {α : Type} [Field α] {s x y : α}

def OnScale (s x : α) : Prop := ∃ units : Int, x * s = units

theorem OnScale.sub (left : OnScale s x) (right : OnScale s y) : OnScale s (x - y) := by
  obtain ⟨m, hm⟩ := left
  obtain ⟨n, hn⟩ := right
  exact ⟨m - n, by rw [sub_mul, hm, hn, Int.cast_sub]⟩

theorem onScale_zero : OnScale s 0 := ⟨0, by simp⟩

end Scale

section Rounding
variable {α : Type} [Field α] [LinearOrder α] [FloorRing α]

def halfAway (x : α) : Int := if 0 ≤ x then round x else -round (-x)

/-- What a column with `s` units to one keeps of a number. -/
def atScale (s x : α) : α := halfAway (x * s) / s

def Tie (s x : α) : Prop := Int.fract (x * s) = 1 / 2

instance (s x : α) : Decidable (Tie s x) := inferInstanceAs (Decidable (_ = _))

theorem halfAway_nonneg {x : α} (nonneg : 0 ≤ x) : halfAway x = round x := if_pos nonneg

theorem onScale_atScale {s : α} (pos : 0 < s) (x : α) : OnScale s (atScale s x) :=
  ⟨halfAway (x * s), div_mul_cancel₀ _ pos.ne'⟩

variable [IsStrictOrderedRing α] {s x whole : α}

@[simp] theorem halfAway_intCast (units : Int) : halfAway (units : α) = units := by
  unfold halfAway
  split
  · exact round_intCast units
  · rw [← Int.cast_neg, round_intCast, neg_neg]

/-- The round of a number and of its negation differ in sign, a tie apart. -/
theorem round_add_round_neg (x : α) :
    round x + round (-x) = if Int.fract x = 1 / 2 then 1 else 0 := by
  have lower := Int.fract_nonneg x
  have upper := Int.fract_lt_one x
  have parts := Int.floor_add_fract x
  split
  · rename_i tie
    have up : round x = ⌊x⌋ + 1 := by
      rw [round_eq_iff, Set.mem_Ico]
      push_cast
      constructor <;> linarith
    have down : round (-x) = -⌊x⌋ := by
      rw [round_eq_iff, Set.mem_Ico]
      push_cast
      constructor <;> linarith
    omega
  · rename_i tie
    rcases lt_or_gt_of_ne tie with below | above
    · have down : round x = ⌊x⌋ := by
        rw [round_eq_iff, Set.mem_Ico]
        constructor <;> linarith
      have up : round (-x) = -⌊x⌋ := by
        rw [round_eq_iff, Set.mem_Ico]
        push_cast
        constructor <;> linarith
      omega
    · have up : round x = ⌊x⌋ + 1 := by
        rw [round_eq_iff, Set.mem_Ico]
        push_cast
        constructor <;> linarith
      have down : round (-x) = -(⌊x⌋ + 1) := by
        rw [round_eq_iff, Set.mem_Ico]
        push_cast
        constructor <;> linarith
      omega

/-- What is on the scale is stored as it is. -/
theorem atScale_eq_self (pos : 0 < s) (on : OnScale s x) : atScale s x = x := by
  obtain ⟨units, eq⟩ := on
  rw [atScale, eq, halfAway_intCast, ← eq, mul_div_cancel_right₀ _ pos.ne']

theorem atScale_nonneg (pos : 0 < s) (nonneg : 0 ≤ x) : 0 ≤ atScale s x := by
  have scaled := mul_nonneg nonneg pos.le
  have bound := sub_half_lt_round (x * s)
  rw [atScale, halfAway_nonneg scaled]
  have up : (-1 : α) < round (x * s) := by linarith
  have units : 0 ≤ round (x * s) := by
    have : (-1 : Int) < round (x * s) := by exact_mod_cast up
    omega
  exact div_nonneg (by exact_mod_cast units) pos.le

/-- Rounding does not pass a number on the scale. -/
theorem atScale_le (pos : 0 < s) (nonneg : 0 ≤ x) (on : OnScale s whole) (le : x ≤ whole) :
    atScale s x ≤ whole := by
  obtain ⟨units, eq⟩ := on
  have scaled : x * s ≤ units := eq ▸ mul_le_mul_of_nonneg_right le pos.le
  rw [atScale, halfAway_nonneg (mul_nonneg nonneg pos.le), div_le_iff₀ pos, eq]
  have bound := round_le_add_half (x * s)
  have below : (round (x * s) : α) < (units + 1 : Int) := by
    push_cast
    linarith
  have units_le : round (x * s) < units + 1 := by exact_mod_cast below
  exact_mod_cast Int.lt_add_one_iff.mp units_le

/-- Two parts of a number on the scale: each tie adds half a unit. -/
theorem atScale_add_atScale (pos : 0 < s) (nonneg : 0 ≤ x) (on : OnScale s whole)
    (le : x ≤ whole) :
    atScale s x + atScale s (whole - x) =
      whole + (if Int.fract (x * s) = 1 / 2 then 1 else 0) / s := by
  obtain ⟨units, eq⟩ := on
  have rest : 0 ≤ (whole - x) * s := mul_nonneg (sub_nonneg.mpr le) pos.le
  have parts : (whole - x) * s = (units : α) + -(x * s) := by rw [← eq]; ring
  have ties := congrArg (Int.cast (R := α)) (round_add_round_neg (x * s))
  push_cast at ties
  rw [atScale, atScale, halfAway_nonneg (mul_nonneg nonneg pos.le), halfAway_nonneg rest, parts,
    round_intCast_add, ← add_div, div_eq_iff pos.ne', add_mul, div_mul_cancel₀ _ pos.ne', eq]
  push_cast
  linarith

theorem atScale_parts_iff (pos : 0 < s) (nonneg : 0 ≤ x) (on : OnScale s whole)
    (le : x ≤ whole) : atScale s x + atScale s (whole - x) = whole ↔ ¬ Tie s x := by
  rw [atScale_add_atScale pos nonneg on le, Tie]
  split
  · rename_i tie
    have unit : (1 : α) / s ≠ 0 := div_ne_zero one_ne_zero pos.ne'
    simpa [tie] using unit
  · rename_i tie
    simpa using tie

end Rounding

end Bitmonie.FixedScale
