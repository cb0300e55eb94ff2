import Mathlib.Tactic.FieldSimp
import ScrollTimeline.Proofs.Easing.Cubic

/-!
Newton's method on an easing curve, in exact fractions.

What a step leaves is the square of its length times the bend of the curve around it. On a side of the time
on which the curve bends the right way all later steps stay on that side; what has to be shown is that the
few steps before that do not leave the curve. Both sides of the time are one by turning the curve around.
-/
set_option autoImplicit false

namespace ScrollTimeline

/-- A coordinate with two controls, and the time that it has to reach. -/
structure Search where
  first : Rat
  second : Rat
  time : Rat

namespace Search

def excess (s : Search) (t : Rat) : Rat := Cubic.coordinate s.first s.second t - s.time

def slope (s : Search) (t : Rat) : Rat := Cubic.slope s.first s.second t

def third (s : Search) : Rat := 1 - 3 * s.second + 3 * s.first

def square (s : Search) : Rat := 3 * s.second - 6 * s.first

def bend (s : Search) (t : Rat) : Rat := 3 * s.third * t + s.square

def next (s : Search) (t : Rat) : Rat := t - s.excess t / s.slope t

def mirror (s : Search) : Search := ⟨1 - s.second, 1 - s.first, 1 - s.time⟩

structure Valid (s : Search) : Prop where
  first_mem : 0 ≤ s.first ∧ s.first ≤ 1
  second_mem : 0 ≤ s.second ∧ s.second ≤ 1
  time_mem : 0 ≤ s.time ∧ s.time ≤ 1

variable {s : Search} {t r : Rat}

theorem excess_eq (s : Search) (t : Rat) :
    s.excess t = ((s.third * t + s.square) * t + 3 * s.first) * t - s.time := by
  rw [excess, Cubic.coordinate_rat, third, square]

theorem slope_eq (s : Search) (t : Rat) :
    s.slope t = 3 * s.third * t * t + 2 * s.square * t + 3 * s.first := by
  rw [slope, Cubic.slope_rat, third, square]

theorem mirror_mirror (s : Search) : s.mirror.mirror = s := by
  simp [mirror]

theorem Valid.mirror (valid : s.Valid) : s.mirror.Valid := by
  obtain ⟨first, second, time⟩ := valid
  refine ⟨⟨?_, ?_⟩, ⟨?_, ?_⟩, ⟨?_, ?_⟩⟩ <;> simp only [Search.mirror] <;> linarith

theorem mirror_third (s : Search) : s.mirror.third = s.third := by
  simp only [mirror, third]
  ring

theorem mirror_excess (s : Search) (t : Rat) : s.mirror.excess (1 - t) = -s.excess t := by
  simp only [excess_eq, mirror, third, square]
  ring

theorem mirror_slope (s : Search) (t : Rat) : s.mirror.slope (1 - t) = s.slope t := by
  simp only [slope_eq, mirror, third, square]
  ring

theorem mirror_bend (s : Search) (t : Rat) : s.mirror.bend (1 - t) = -s.bend t := by
  simp only [bend, mirror, third, square]
  ring

theorem mirror_next (s : Search) (t : Rat) : s.mirror.next (1 - t) = 1 - s.next t := by
  rw [next, mirror_excess, mirror_slope, next, neg_div]
  ring

theorem Valid.slope_nonneg (valid : s.Valid) (from0 : 0 ≤ t) (to1 : t ≤ 1) : 0 ≤ s.slope t :=
  Cubic.slope_nonneg valid.first_mem valid.second_mem from0 to1

theorem Valid.excess_zero_le (valid : s.Valid) : s.excess 0 ≤ 0 := by
  have time := valid.time_mem.1
  rw [excess, Cubic.coordinate_zero]
  linarith

/-! ### One step -/

theorem excess_taylor (s : Search) (t r : Rat) :
    s.excess r = s.excess t + s.slope t * (r - t) + (r - t) ^ 2 * (s.bend r + 2 * s.bend t) / 3 := by
  rw [excess_eq, excess_eq, slope_eq, bend, bend]
  ring

theorem excess_eq_slope_mul (steep : 0 < s.slope t) : s.excess t = s.slope t * (t - s.next t) := by
  rw [next]
  field_simp
  ring

theorem excess_next (steep : 0 < s.slope t) :
    s.excess (s.next t) = (s.next t - t) ^ 2 * (s.bend (s.next t) + 2 * s.bend t) / 3 := by
  have length := excess_eq_slope_mul steep
  rw [excess_taylor s t, length]
  ring

theorem next_le (steep : 0 < s.slope t) (ahead : 0 ≤ s.excess t) : s.next t ≤ t := by
  rw [excess_eq_slope_mul steep] at ahead
  have := nonneg_of_mul_nonneg_right ahead steep
  linarith

theorem le_next {length : Rat} (steep : 0 < s.slope t) (short : s.excess t ≤ length * s.slope t) :
    t - length ≤ s.next t := by
  rw [excess_eq_slope_mul steep, mul_comm] at short
  have := le_of_mul_le_mul_right short steep
  linarith

theorem bend_sub (s : Search) (t r : Rat) : s.bend r - s.bend t = 3 * s.third * (r - t) := by
  rw [bend, bend]
  ring

theorem bend_le_of_rising (rising : 0 ≤ s.third) (ordered : t ≤ r) : s.bend t ≤ s.bend r := by
  have difference := bend_sub s t r
  have product := mul_nonneg rising (sub_nonneg.mpr ordered)
  linarith

theorem bend_le_of_falling (falling : s.third ≤ 0) (ordered : t ≤ r) : s.bend r ≤ s.bend t := by
  have difference := bend_sub s t r
  have product := mul_nonpos_of_nonpos_of_nonneg falling (sub_nonneg.mpr ordered)
  linarith

theorem exists_turn {low high : Rat} (rising : 0 ≤ s.third) (ordered : low ≤ high)
    (first : s.bend low ≤ 0) (last : 0 ≤ s.bend high) :
    ∃ turn, low ≤ turn ∧ turn ≤ high ∧ s.bend turn = 0 := by
  rcases rising.eq_or_lt with straight | strict
  · have difference := bend_sub s low high
    rw [← straight] at difference
    exact ⟨low, le_rfl, ordered, by linarith⟩
  · have flat : s.bend (-s.square / (3 * s.third)) = 0 := by
      rw [bend]
      field_simp
      ring
    refine ⟨_, ?_, ?_, flat⟩
    · by_contra before
      have difference := bend_sub s (-s.square / (3 * s.third)) low
      have product := mul_pos strict (sub_pos.mpr (not_le.mp before))
      linarith
    · by_contra after
      have difference := bend_sub s high (-s.square / (3 * s.third))
      have product := mul_pos strict (sub_pos.mpr (not_le.mp after))
      linarith

theorem excess_next_nonneg (steep : 0 < s.slope t) (bendHere : 0 ≤ s.bend t)
    (bendNext : 0 ≤ s.bend (s.next t)) : 0 ≤ s.excess (s.next t) := by
  rw [excess_next steep]
  positivity

theorem excess_next_nonpos (steep : 0 < s.slope t) (bendHere : s.bend t ≤ 0)
    (bendNext : s.bend (s.next t) ≤ 0) : s.excess (s.next t) ≤ 0 := by
  have bends : s.bend (s.next t) + 2 * s.bend t ≤ 0 := by linarith
  have product := mul_nonpos_of_nonneg_of_nonpos (sq_nonneg (s.next t - t)) bends
  rw [excess_next steep]
  linarith

/-! ### Where a search stands -/

/-- The search has gone too far, and the next step does not lead out of the curve. -/
inductive Ahead (s : Search) (t : Rat) : Prop
  /-- The curve bends upwards all the way back to a place that does not go too far. -/
  | convex (floor : Rat) (from0 : 0 ≤ floor) (below : floor ≤ t) (behind : s.excess floor ≤ 0)
      (bendFloor : 0 ≤ s.bend floor) (bendHere : 0 ≤ s.bend t)
  /-- No step back leads out of the curve, from wherever it is made. -/
  | safe (rising : 0 ≤ s.third) (back : ∀ r, 0 ≤ r → r ≤ 1 → s.excess r ≤ r * s.slope r)
  /-- The curve bends downwards here and further back. -/
  | concave (rising : 0 ≤ s.third) (bendHere : s.bend t ≤ 0) (back : s.excess t ≤ t * s.slope t)
  /-- The curve bends downwards here, and the next step is short. -/
  | close (falling : s.third ≤ 0) (bendHere : s.bend t ≤ 0) (back : s.excess t ≤ t * s.slope t)
      (short : s.excess t ≤ 1 / 20 * s.slope t)

/-- The search is on the curve, and goes on there. -/
structure Held (s : Search) (t : Rat) : Prop where
  from0 : 0 ≤ t
  to1 : t ≤ 1
  side : (0 ≤ s.excess t ∧ s.Ahead t) ∨ (0 ≤ s.mirror.excess (1 - t) ∧ s.mirror.Ahead (1 - t))

theorem Held.mirror (held : s.Held t) : s.mirror.Held (1 - t) where
  from0 := sub_nonneg.mpr held.to1
  to1 := sub_le_self 1 held.from0
  side := by
    rw [mirror_mirror, sub_sub_cancel]
    exact held.side.symm

theorem held_below {ceiling : Rat} (from0 : 0 ≤ t) (above : t ≤ ceiling) (to1 : ceiling ≤ 1)
    (behind : s.excess t ≤ 0) (ahead : 0 ≤ s.excess ceiling) (bendHere : s.bend t ≤ 0)
    (bendCeiling : s.bend ceiling ≤ 0) : s.Held t := by
  refine ⟨from0, above.trans to1, .inr ⟨?_, .convex (1 - ceiling) ?_ ?_ ?_ ?_ ?_⟩⟩
  · rw [mirror_excess]
    linarith
  · linarith
  · linarith
  · rw [mirror_excess]
    linarith
  · rw [mirror_bend]
    linarith
  · rw [mirror_bend]
    linarith

section Step

variable (valid : s.Valid) (to1 : t ≤ 1) (ahead : 0 ≤ s.excess t) (steep : 0 < s.slope t)

include to1 ahead steep

theorem held_next_of_convex {floor : Rat} (from0 : 0 ≤ floor)
    (behind : s.excess floor ≤ 0) (bendFloor : 0 ≤ s.bend floor) (bendHere : 0 ≤ s.bend t) :
    s.Held (s.next t) := by
  have back := next_le steep ahead
  have inside : floor ≤ s.next t := by
    have tangent : s.excess t ≤ (t - floor) * s.slope t := by
      have taylor := excess_taylor s t floor
      have positive : 0 ≤ (floor - t) ^ 2 * (s.bend floor + 2 * s.bend t) / 3 := by positivity
      linarith
    have := le_next steep tangent
    linarith
  have bendNext : 0 ≤ s.bend (s.next t) := by
    rcases le_total 0 s.third with rising | falling
    · exact bendFloor.trans (bend_le_of_rising rising inside)
    · exact bendHere.trans (bend_le_of_falling falling back)
  have left := excess_next_nonneg steep bendHere bendNext
  exact ⟨from0.trans inside, back.trans to1,
    .inl ⟨left, .convex floor from0 inside behind bendFloor bendNext⟩⟩

theorem held_next_of_concave (rising : 0 ≤ s.third) (bendHere : s.bend t ≤ 0)
    (short : s.excess t ≤ t * s.slope t) : s.Held (s.next t) := by
  have back := next_le steep ahead
  have from0 : 0 ≤ s.next t := by
    have := le_next steep short
    linarith
  have bendNext : s.bend (s.next t) ≤ 0 := (bend_le_of_rising rising back).trans bendHere
  have left := excess_next_nonpos steep bendHere bendNext
  exact held_below from0 back to1 left ahead bendNext bendHere

/-- If the step came over the place where the bend changes its sign, the curve is ahead of the time there. -/
theorem held_next_of_safe (from0 : 0 ≤ t) (rising : 0 ≤ s.third)
    (safe : ∀ r, 0 ≤ r → r ≤ 1 → s.excess r ≤ r * s.slope r) : s.Held (s.next t) := by
  have back := next_le steep ahead
  have inside : 0 ≤ s.next t := by
    have := le_next steep (safe t from0 to1)
    linarith
  rcases le_or_gt 0 (s.excess (s.next t)) with still | behind
  · exact ⟨inside, back.trans to1, .inl ⟨still, .safe rising safe⟩⟩
  have bendNext : s.bend (s.next t) < 0 := by
    by_contra upwards
    have bendHere := (not_lt.mp upwards).trans (bend_le_of_rising rising back)
    exact absurd behind (not_lt.mpr (excess_next_nonneg steep bendHere (not_lt.mp upwards)))
  rcases le_or_gt (s.bend t) 0 with downwards | upwards
  · exact held_below inside back to1 behind.le ahead bendNext.le downwards
  obtain ⟨ceiling, above, below, bendCeiling⟩ := exists_turn rising back bendNext.le upwards.le
  have aheadCeiling : 0 ≤ s.excess ceiling := by
    have taylor := excess_taylor s t ceiling
    rw [bendCeiling, excess_eq_slope_mul steep] at taylor
    have curve : 0 ≤ (ceiling - t) ^ 2 * (0 + 2 * s.bend t) / 3 := by positivity
    have rise := mul_nonneg steep.le (sub_nonneg.mpr above)
    linarith
  exact held_below inside above (below.trans to1) behind.le aheadCeiling bendNext.le bendCeiling.le

omit to1 ahead in
/-- After a short step over the place where the curve begins to bend downwards, the next one is shorter:
there the curve is steep. -/
theorem short_of_close (valid : s.Valid) (falling : s.third ≤ 0) (bendHere : s.bend t ≤ 0)
    (inside : 0 ≤ s.next t) (back : s.next t ≤ t) (reach : t - 1 / 20 ≤ s.next t)
    (upwards : 0 < s.bend (s.next t)) :
    -s.excess (s.next t) ≤ (t - s.next t) * s.slope (s.next t) := by
  have stride : 0 ≤ t - s.next t := sub_nonneg.mpr back
  have gentle : -2 ≤ s.third := by
    have first := valid.first_mem.1
    have second := valid.second_mem.2
    rw [third]
    linarith
  have turn : s.bend (s.next t) - s.bend t ≤ 3 / 10 := by
    have difference := bend_sub s t (s.next t)
    nlinarith
  have bound : s.slope (s.next t) + s.bend (s.next t) * (1 - 2 * s.next t) +
      s.third * (1 - 3 * s.next t + 3 * s.next t ^ 2) = 1 := by
    rw [slope_eq, bend, third, square]
    ring
  have slopeNext : 7 / 10 ≤ s.slope (s.next t) := by
    have curve : s.third * (1 - 3 * s.next t + 3 * s.next t ^ 2) ≤ 0 :=
      mul_nonpos_of_nonpos_of_nonneg falling (by nlinarith [sq_nonneg (2 * s.next t - 1)])
    have tilt : s.bend (s.next t) * (1 - 2 * s.next t) ≤ s.bend (s.next t) := by nlinarith
    linarith
  have left : -s.excess (s.next t) ≤ (t - s.next t) * (1 / 100) := by
    rw [excess_next steep]
    nlinarith
  have := mul_le_mul_of_nonneg_left slopeNext stride
  linarith

theorem held_next_of_close (valid : s.Valid) (falling : s.third ≤ 0) (bendHere : s.bend t ≤ 0)
    (back : s.excess t ≤ t * s.slope t) (short : s.excess t ≤ 1 / 20 * s.slope t) :
    s.Held (s.next t) := by
  have below := next_le steep ahead
  have reach := le_next steep short
  have inside : 0 ≤ s.next t := by
    have := le_next steep back
    linarith
  rcases le_or_gt (s.bend (s.next t)) 0 with downwards | upwards
  · have left := excess_next_nonpos steep bendHere downwards
    exact held_below inside below to1 left ahead downwards bendHere
  refine ⟨inside, below.trans to1, ?_⟩
  rcases le_or_gt 0 (s.excess (s.next t)) with still | behind
  · have bendZero := upwards.le.trans (bend_le_of_falling falling inside)
    exact .inl ⟨still, .convex 0 le_rfl inside valid.excess_zero_le bendZero upwards.le⟩
  · have next := short_of_close steep valid falling bendHere inside below reach upwards
    have flat := valid.slope_nonneg inside (below.trans to1)
    refine .inr ⟨?_, .close ?_ ?_ ?_ ?_⟩
    · rw [mirror_excess]
      linarith
    · rwa [mirror_third]
    · rw [mirror_bend]
      linarith
    · rw [mirror_excess, mirror_slope]
      nlinarith
    · rw [mirror_excess, mirror_slope]
      nlinarith

theorem held_next_of_ahead (valid : s.Valid) (from0 : 0 ≤ t) (stands : s.Ahead t) :
    s.Held (s.next t) := by
  cases stands with
  | convex floor from0 _ behind bendFloor bendHere =>
    exact held_next_of_convex to1 ahead steep from0 behind bendFloor bendHere
  | safe rising back => exact held_next_of_safe to1 ahead steep from0 rising back
  | concave rising bendHere back =>
    exact held_next_of_concave to1 ahead steep rising bendHere back
  | close falling bendHere back short =>
    exact held_next_of_close to1 ahead steep valid falling bendHere back short

end Step

theorem Held.next (valid : s.Valid) (held : s.Held t) (steep : s.slope t ≠ 0) :
    s.Held (s.next t) := by
  have positive : 0 < s.slope t :=
    lt_of_le_of_ne (valid.slope_nonneg held.from0 held.to1) steep.symm
  rcases held.side with ⟨ahead, stands⟩ | ⟨ahead, stands⟩
  · exact held_next_of_ahead held.to1 ahead positive valid held.from0 stands
  · have turned := held.mirror
    have step := held_next_of_ahead turned.to1 ahead (by rwa [mirror_slope]) valid.mirror
      turned.from0 stands
    rw [mirror_next] at step
    have back := step.mirror
    rwa [mirror_mirror, sub_sub_cancel] at back

end Search

namespace Easing

theorem newton_mem {c : Easing Rat} {time : Rat} (valid : (Search.mk c.x1 c.x2 time).Valid)
    (steps : Nat) {t : Rat} (held : (Search.mk c.x1 c.x2 time).Held t) :
    0 ≤ c.newton time steps t ∧ c.newton time steps t ≤ 1 := by
  induction steps generalizing t with
  | zero => exact ⟨held.from0, held.to1⟩
  | succ steps ih =>
    rw [newton, zero_rat]
    split
    · exact ⟨held.from0, held.to1⟩
    · rename_i sloped
      have steep : c.xSlope t ≠ 0 := by simpa using sloped
      exact ih (held.next valid steep)

end Easing

end ScrollTimeline
