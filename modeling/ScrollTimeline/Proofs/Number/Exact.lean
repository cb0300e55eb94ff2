import Mathlib.Algebra.Order.Ring.Rat
import Mathlib.Tactic.Ring
import ScrollTimeline.Number.Arithmetic

/-!
What the numbers of a timeline come to when they are exact fractions.

No fraction is undefined, so each helper is the operation that it is named after.
-/
set_option autoImplicit false

namespace ScrollTimeline

open Arithmetic

/-! ### Decimals -/

theorem zero_rat : (OfScientific.ofScientific 0 true 1 : Rat) = 0 := by decide +kernel

theorem half_rat : (OfScientific.ofScientific 5 true 1 : Rat) = 1 / 2 := by decide +kernel

theorem one_rat : (OfScientific.ofScientific 10 true 1 : Rat) = 1 := by decide +kernel

theorem two_rat : (OfScientific.ofScientific 20 true 1 : Rat) = 2 := by decide +kernel

theorem three_rat : (OfScientific.ofScientific 30 true 1 : Rat) = 3 := by decide +kernel

theorem six_rat : (OfScientific.ofScientific 60 true 1 : Rat) = 6 := by decide +kernel

/-! ### Comparisons -/

theorem isUndefined_rat (a : Rat) : isUndefined a = false := by simp [isUndefined]

theorem lesser_rat (a b : Rat) : lesser a b = min a b := by
  rw [lesser, isUndefined_rat, Bool.or_false, min_comm, min_def_lt]
  simp only [decide_eq_true_eq]

theorem greater_rat (a b : Rat) : greater a b = max a b := by
  rw [greater, isUndefined_rat, Bool.or_false, max_def_lt]
  simp only [decide_eq_true_eq]

theorem clamp_rat (low high a : Rat) : clamp low high a = min high (max a low) := by
  rw [clamp, min_def_lt, max_def_lt]

theorem clamp_of_mem {low high a : Rat} (above : low ≤ a) (below : a ≤ high) :
    clamp low high a = a := by
  rw [clamp_rat, max_eq_left above, min_eq_right below]

theorem clamp_of_le {low high a : Rat} (ordered : low ≤ high) (below : a ≤ low) :
    clamp low high a = low := by
  rw [clamp_rat, max_eq_right below, min_eq_right ordered]

theorem clampUnit_rat (a : Rat) : clampUnit a = min 1 (max a 0) := by
  rw [clampUnit, clamp_rat, zero_rat, one_rat]

/-! ### Arithmetic -/

theorem magnitude_rat (a : Rat) : magnitude a = |a| := by
  rw [magnitude, zero_rat]
  split
  · rename_i negative
    exact (abs_of_neg negative).symm
  · rename_i positive
    exact (abs_of_nonneg (not_lt.mp positive)).symm

theorem blend_rat (a b t : Rat) : blend a b t = a + (b - a) * t := by
  rw [blend, one_rat]
  ring

theorem floorNat_rat {k : Nat} {a : Rat} (low : (k : Rat) ≤ a) (high : a < k + 1) : floorNat a = k := by
  have above : (k : Int) ≤ a.floor := Rat.le_floor_iff.mpr (by exact_mod_cast low)
  have below : a.floor < (k : Int) + 1 := Rat.floor_lt_iff.mpr (by exact_mod_cast high)
  change a.floor.toNat = k
  omega

end ScrollTimeline
