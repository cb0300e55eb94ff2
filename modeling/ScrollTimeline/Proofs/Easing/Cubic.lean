import Mathlib.Tactic.Linarith
import Mathlib.Tactic.Positivity
import Mathlib.Tactic.Ring
import ScrollTimeline.Easing.Evaluation
import ScrollTimeline.Proofs.Number.Exact

/-!
One coordinate of an easing curve, in exact fractions.

A coordinate is affine in either control, so with controls in `[0, 1]` it is a mean of the coordinates of
four curves: those whose controls are 0 or 1. None of them turns back between 0 and 1.
-/
set_option autoImplicit false

namespace ScrollTimeline.Cubic

theorem coordinate_rat (first second t : Rat) :
    coordinate first second t =
      (((1 - 3 * second + 3 * first) * t + (3 * second - 6 * first)) * t + 3 * first) * t := by
  rw [coordinate, third, square, linear, one_rat, three_rat, six_rat]

theorem slope_rat (first second t : Rat) :
    slope first second t =
      3 * (1 - 3 * second + 3 * first) * t * t + 2 * (3 * second - 6 * first) * t + 3 * first := by
  rw [slope, third, square, linear, one_rat, two_rat, three_rat, six_rat]

theorem coordinate_zero (first second : Rat) : coordinate first second 0 = 0 := by
  rw [coordinate_rat]
  ring

theorem coordinate_one (first second : Rat) : coordinate first second 1 = 1 := by
  rw [coordinate_rat]
  ring

/-! ### Means -/

/-- The mean of two numbers, with the weight of the second. -/
def mix (weight a b : Rat) : Rat := (1 - weight) * a + weight * b

variable {weight a b : Rat}

theorem mix_nonneg (low : 0 ≤ weight) (high : weight ≤ 1) (first : 0 ≤ a) (second : 0 ≤ b) :
    0 ≤ mix weight a b :=
  add_nonneg (mul_nonneg (sub_nonneg.mpr high) first) (mul_nonneg low second)

theorem mix_pos (low : 0 ≤ weight) (high : weight ≤ 1) (first : 0 < a) (second : 0 < b) :
    0 < mix weight a b := by
  rcases low.eq_or_lt with rfl | some
  · simpa [mix] using first
  · exact add_pos_of_nonneg_of_pos (mul_nonneg (sub_nonneg.mpr high) first.le) (mul_pos some second)

/-! ### Slopes -/

/-- The slope of a chord, as a mean of the slopes for the four curves with controls 0 and 1. -/
def chord (first second s t : Rat) : Rat :=
  mix second
    (mix first (s * s + s * t + t * t)
      (((2 * s - 1) * (2 * s - 1) + (2 * t - 1) * (2 * t - 1) +
        (2 * s + 2 * t - 2) * (2 * s + 2 * t - 2)) / 2))
    (mix first (2 * s * (1 - s) + 2 * t * (1 - t) + s * (1 - t) + t * (1 - s))
      ((1 - s) * (1 - s) + (1 - s) * (1 - t) + (1 - t) * (1 - t)))

theorem coordinate_sub (first second s t : Rat) :
    coordinate first second t - coordinate first second s = (t - s) * chord first second s t := by
  rw [coordinate_rat, coordinate_rat, chord, mix, mix, mix]
  ring

theorem slope_eq_chord (first second t : Rat) : slope first second t = chord first second t t := by
  rw [slope_rat, chord, mix, mix, mix]
  ring

section

variable {first second s t : Rat} (inFirst : 0 ≤ first ∧ first ≤ 1) (inSecond : 0 ≤ second ∧ second ≤ 1)

include inFirst inSecond

theorem chord_nonneg (fromS : 0 ≤ s) (toS : s ≤ 1) (fromT : 0 ≤ t) (toT : t ≤ 1) :
    0 ≤ chord first second s t := by
  have leftS := sub_nonneg.mpr toS
  have leftT := sub_nonneg.mpr toT
  refine mix_nonneg inSecond.1 inSecond.2 ?_ ?_ <;> refine mix_nonneg inFirst.1 inFirst.2 ?_ ?_
  · positivity
  · nlinarith [mul_self_nonneg (2 * s - 1), mul_self_nonneg (2 * t - 1),
      mul_self_nonneg (2 * s + 2 * t - 2)]
  · positivity
  · positivity

theorem chord_pos (fromS : 0 ≤ s) (apart : s < t) (toT : t ≤ 1) : 0 < chord first second s t := by
  have fromT : 0 < t := lt_of_le_of_lt fromS apart
  have leftS : 0 < 1 - s := by linarith
  have leftT : 0 ≤ 1 - t := by linarith
  refine mix_pos inSecond.1 inSecond.2 ?_ ?_ <;> refine mix_pos inFirst.1 inFirst.2 ?_ ?_
  · positivity
  · nlinarith [mul_self_nonneg (2 * s - 1), mul_self_nonneg (2 * t - 1),
      mul_self_nonneg (2 * s + 2 * t - 2)]
  · positivity
  · positivity

theorem coordinate_le (fromS : 0 ≤ s) (ordered : s ≤ t) (toT : t ≤ 1) :
    coordinate first second s ≤ coordinate first second t := by
  have difference := coordinate_sub first second s t
  have rising := chord_nonneg inFirst inSecond fromS (ordered.trans toT) (fromS.trans ordered) toT
  have product := mul_nonneg (sub_nonneg.mpr ordered) rising
  linarith

theorem coordinate_lt (fromS : 0 ≤ s) (apart : s < t) (toT : t ≤ 1) :
    coordinate first second s < coordinate first second t := by
  have difference := coordinate_sub first second s t
  have product := mul_pos (sub_pos.mpr apart) (chord_pos inFirst inSecond fromS apart toT)
  linarith

theorem slope_nonneg (from0 : 0 ≤ t) (to1 : t ≤ 1) : 0 ≤ slope first second t := by
  rw [slope_eq_chord]
  exact chord_nonneg inFirst inSecond from0 to1 from0 to1

theorem eq_of_slope_eq_zero (from0 : 0 ≤ t) (to1 : t ≤ 1) (flat : slope first second t = 0) :
    t = 0 ∨ t = 1 / 2 ∨ t = 1 := by
  by_contra inside
  push Not at inside
  obtain ⟨start, middle, last⟩ := inside
  have after : 0 < t := lt_of_le_of_ne from0 start.symm
  have before : 0 < 1 - t := sub_pos.mpr (lt_of_le_of_ne to1 last)
  have beside : 0 < (2 * t - 1) * (2 * t - 1) := mul_self_pos.mpr fun at' => middle (by linarith)
  have positive : 0 < chord first second t t := by
    refine mix_pos inSecond.1 inSecond.2 ?_ ?_ <;> refine mix_pos inFirst.1 inFirst.2 ?_ ?_
    · positivity
    · nlinarith
    · positivity
    · positivity
  rw [slope_eq_chord] at flat
  exact positive.ne' flat

end

end ScrollTimeline.Cubic
