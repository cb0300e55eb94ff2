import ScrollTimeline.Proofs.Easing.Newton
import ScrollTimeline.Proofs.Easing.Table

/-!
Where Newton's method starts, in exact fractions.

The guess lies on the chord of the curve over one tenth. Where the curve is steep enough for the method to
be trusted, no step from the guess leads out of the curve; two curves are close to doing so, the one that is
flat in the middle and the one that is flat at an end, and both only in a tenth that ends there.
-/
set_option autoImplicit false

namespace ScrollTimeline.Search

theorem square_eq_of_flat {s : Search} {turn : Rat} (flat : s.bend turn = 0) : s.square = -(3 * s.third * turn) := by
  rw [bend] at flat
  linarith

structure InTenth (low t : Rat) : Prop where
  tenth : ∃ index : Nat, index ≤ 9 ∧ low = index / 10
  above : low ≤ t
  below : t ≤ low + 1 / 10

namespace InTenth

variable {low t : Rat}

theorem mirror (place : InTenth low t) : InTenth (1 - (low + 1 / 10)) (1 - t) where
  tenth := by
    obtain ⟨index, inside, rfl⟩ := place.tenth
    refine ⟨9 - index, by omega, ?_⟩
    rw [Nat.cast_sub inside]
    push_cast
    ring
  above := by linarith [place.below]
  below := by linarith [place.above]

theorem low_nonneg (place : InTenth low t) : 0 ≤ low := by
  obtain ⟨index, _, rfl⟩ := place.tenth
  positivity

theorem nonneg (place : InTenth low t) : 0 ≤ t :=
  place.low_nonneg.trans place.above

theorem high_le_one (place : InTenth low t) : low + 1 / 10 ≤ 1 := by
  obtain ⟨index, inside, rfl⟩ := place.tenth
  have cast : (index : Rat) ≤ 9 := by exact_mod_cast inside
  linarith

theorem le_one (place : InTenth low t) : t ≤ 1 :=
  place.below.trans place.high_le_one

theorem compare (place : InTenth low t) (mark : Nat) :
    low + 1 / 10 ≤ (mark - 1) / 10 ∨ low + 1 / 10 = mark / 10 ∨ (mark : Rat) / 10 ≤ low := by
  obtain ⟨index, _, rfl⟩ := place.tenth
  rcases Nat.lt_trichotomy (index + 1) mark with before | rfl | after
  · have cast : (index : Rat) + 1 + 1 ≤ mark := by exact_mod_cast before
    exact .inl (by linarith)
  · refine .inr (.inl ?_)
    push_cast
    ring
  · have cast : (mark : Rat) ≤ index := by exact_mod_cast Nat.lt_succ_iff.mp after
    exact .inr (.inr (by linarith))

theorem length_le_half (place : InTenth low t) (later : low ≠ 0) : t - low ≤ t / 2 := by
  have below := place.below
  have start := place.low_nonneg
  rcases place.compare 1 with before | first | after <;> push_cast at *
  · linarith
  · exact absurd (by linarith) later
  · linarith

end InTenth

/-- A guess in the tenth from `low`, on the chord of the curve. -/
structure Guess (s : Search) (low t : Rat) : Prop extends InTenth low t where
  chord : s.excess t = -((t - low) * (low + 1 / 10 - t) *
    (s.third * (t + low + (low + 1 / 10)) + s.square))

namespace Guess

variable {s : Search} {low t : Rat}

theorem mirror (guess : s.Guess low t) : s.mirror.Guess (1 - (low + 1 / 10)) (1 - t) where
  toInTenth := guess.toInTenth.mirror
  chord := by
    rw [mirror_excess, guess.chord, mirror_third]
    simp only [Search.mirror, square, third]
    ring

/-! ### A falling third coefficient -/

theorem excess_le_of_falling (valid : s.Valid) (guess : s.Guess low t) (falling : s.third ≤ 0)
    (bendHere : s.bend t ≤ 0) : s.excess t ≤ (t - low) / 2 * s.slope t := by
  have end' := valid.slope_nonneg zero_le_one le_rfl
  have turn : s.slope t = s.slope 1 - 2 * s.bend t * (1 - t) - 3 * s.third * (1 - t) ^ 2 := by
    rw [slope_eq, slope_eq, bend]
    ring
  have curve : s.third * (t + low + (low + 1 / 10)) + s.square =
      s.bend t + s.third * ((low + 1 / 10 - t) - (t - low)) := by
    rw [bend]
    ring
  rw [guess.chord, curve]
  set back := t - low with backIs
  set rest := low + 1 / 10 - t with restIs
  have backNonneg : 0 ≤ back := by linarith [guess.above]
  have restNonneg : 0 ≤ rest := by linarith [guess.below]
  have restLe : rest ≤ 1 - t := by linarith [guess.high_le_one]
  have bends : -s.bend t * rest ≤ -s.bend t * (1 - t) :=
    mul_le_mul_of_nonneg_left restLe (neg_nonneg.mpr bendHere)
  have thirds : -s.third * (rest * rest) ≤ -s.third * ((1 - t) * (1 - t)) :=
    mul_le_mul_of_nonneg_left (mul_self_le_mul_self restNonneg restLe) (neg_nonneg.mpr falling)
  have cross : 0 ≤ -s.third * (rest * back) :=
    mul_nonneg (neg_nonneg.mpr falling) (mul_nonneg restNonneg backNonneg)
  have squares : 0 ≤ -s.third * ((1 - t) * (1 - t)) :=
    mul_nonneg (neg_nonneg.mpr falling) (mul_self_nonneg _)
  have enough : 2 * rest * -(s.bend t + s.third * (rest - back)) ≤ s.slope t := by
    rw [turn]
    linarith
  have scaled := mul_le_mul_of_nonneg_left enough (by linarith : 0 ≤ back / 2)
  linarith

/-! ### A rising third coefficient, where the curve bends upwards -/

theorem line_eq_zero (guess : s.Guess low t) :
    s.excess low + (t - low) * 10 * (s.excess (low + 1 / 10) - s.excess low) = 0 := by
  have chord := guess.chord
  rw [excess_eq] at chord ⊢
  rw [excess_eq]
  linarith

theorem excess_low_le_high (valid : s.Valid) (guess : s.Guess low t) :
    s.excess low ≤ s.excess (low + 1 / 10) :=
  sub_le_sub_right (Cubic.coordinate_le valid.first_mem valid.second_mem guess.low_nonneg
    (by linarith) guess.high_le_one) s.time

theorem excess_low_nonpos (valid : s.Valid) (guess : s.Guess low t) : s.excess low ≤ 0 := by
  have line := guess.line_eq_zero
  have rise := mul_nonneg (sub_nonneg.mpr guess.above) (sub_nonneg.mpr (guess.excess_low_le_high valid))
  linarith

theorem excess_le_of_turn {turn : Rat} (valid : s.Valid) (guess : s.Guess low t)
    (flat : s.bend turn = 0) (before : turn ≤ t) :
    s.excess turn ≤ s.third * ((turn - low) * (low + 1 / 10 - turn) *
      ((turn - low) - (low + 1 / 10 - turn))) := by
  have line := guess.line_eq_zero
  have rise := mul_nonneg (sub_nonneg.mpr before) (sub_nonneg.mpr (guess.excess_low_le_high valid))
  have away : s.excess turn =
      s.excess low + (turn - low) * 10 * (s.excess (low + 1 / 10) - s.excess low) +
      s.third * ((turn - low) * (low + 1 / 10 - turn) *
        ((turn - low) - (low + 1 / 10 - turn))) := by
    rw [excess_eq, excess_eq, excess_eq, square_eq_of_flat flat]
    ring
  linarith

end Guess

section Turn

variable {s : Search} {low t turn r : Rat}

theorem third_mul_le_slope (valid : s.Valid) (flat : s.bend turn = 0) :
    3 * (s.third * (turn * (1 - 2 * turn))) ≤ 2 * s.slope turn := by
  have second := valid.second_mem.1
  have control : 6 * s.first = 3 * s.second - s.square := by
    rw [square]
    ring
  rw [square_eq_of_flat flat] at control
  rw [slope_eq, square_eq_of_flat flat]
  linarith

theorem third_mul_le_slope' (valid : s.Valid) (flat : s.bend turn = 0) :
    3 * (s.third * ((1 - turn) * (2 * turn - 1))) ≤ 2 * s.slope turn := by
  have mirrored : s.mirror.bend (1 - turn) = 0 := by
    rw [mirror_bend, flat, neg_zero]
  have slope := third_mul_le_slope valid.mirror mirrored
  rw [mirror_third, mirror_slope] at slope
  linarith

theorem excess_le_of_flat (rising : 0 ≤ s.third) (flat : s.bend turn = 0) (from0 : 0 ≤ turn)
    (back : s.excess turn ≤ turn * s.slope turn) (inside : 0 ≤ r) : s.excess r ≤ r * s.slope r := by
  have left : r * s.slope r - s.excess r =
      turn * s.slope turn - s.excess turn + s.third * ((r - turn) ^ 2 * (2 * r + turn)) := by
    rw [slope_eq, slope_eq, excess_eq, excess_eq, square_eq_of_flat flat]
    ring
  have more : 0 ≤ s.third * ((r - turn) ^ 2 * (2 * r + turn)) := by positivity
  linarith

end Turn

namespace Guess

variable {s : Search} {low t turn : Rat}

/-- Where the bend changes its sign inside the tenth, a step back does not lead out of the curve. -/
theorem excess_turn_le (valid : s.Valid) (guess : s.Guess low t) (rising : 0 ≤ s.third)
    (flat : s.bend turn = 0) (after : low ≤ turn) (before : turn ≤ t) :
    s.excess turn ≤ turn * s.slope turn := by
  have above := guess.excess_le_of_turn valid flat before
  have from0 : 0 ≤ turn := guess.low_nonneg.trans after
  have high := guess.high_le_one
  have below : turn ≤ low + 1 / 10 := before.trans guess.below
  have back : 0 ≤ turn - low := by linarith
  have rest : 0 ≤ low + 1 / 10 - turn := by linarith
  have product := mul_nonneg back rest
  have short : turn - low - (low + 1 / 10 - turn) ≤ turn - low := by linarith
  have cubes : (turn - low) * (low + 1 / 10 - turn) * (turn - low - (low + 1 / 10 - turn)) ≤
      (turn - low) * (low + 1 / 10 - turn) * (turn - low) := mul_le_mul_of_nonneg_left short product
  refine above.trans ((mul_le_mul_of_nonneg_left cubes rising).trans ?_)
  have beside : low + 1 / 10 ≤ 1 / 2 ∨ 1 / 2 ≤ low := by
    rcases guess.compare 5 with before | at' | after <;> push_cast at *
    · exact .inl (by linarith)
    · exact .inl (by linarith)
    · exact .inr (by linarith)
  rcases beside with first | last
  · have slope := mul_le_mul_of_nonneg_left (third_mul_le_slope valid flat) from0
    have middle : low + 1 / 10 - turn ≤ 1 - 2 * turn := by linarith
    have long : turn - low ≤ turn := sub_le_self turn guess.low_nonneg
    have wide : (turn - low) * (turn - low) * (low + 1 / 10 - turn) ≤ turn * turn * (1 - 2 * turn) :=
      mul_le_mul (mul_self_le_mul_self back long) middle rest (mul_self_nonneg turn)
    have scaled := mul_le_mul_of_nonneg_left wide rising
    have spare := mul_nonneg rising (mul_nonneg (mul_nonneg back back) rest)
    linarith
  · have slope := mul_le_mul_of_nonneg_left (third_mul_le_slope' valid flat) from0
    have left : low + 1 / 10 - turn ≤ 1 - turn := by linarith
    have right : turn - low ≤ 2 * turn - 1 := by linarith
    have wide : (low + 1 / 10 - turn) * (turn - low) ≤ (1 - turn) * (2 * turn - 1) :=
      mul_le_mul left right back (by linarith)
    have scaled := mul_le_mul_of_nonneg_left (mul_le_mul_of_nonneg_left wide rising) from0
    have long : turn - low ≤ turn := sub_le_self turn guess.low_nonneg
    have part := mul_le_mul_of_nonneg_left long (mul_nonneg rising product)
    have spare := mul_nonneg (mul_nonneg rising product) from0
    linarith

/-- Past the place where it changes from bending downwards to bending upwards, no step back leads out of
the curve. -/
theorem safe_of_rising (valid : s.Valid) (guess : s.Guess low t) (rising : 0 ≤ s.third)
    (bendHere : 0 ≤ s.bend t) (r : Rat) (from0 : 0 ≤ r) : s.excess r ≤ r * s.slope r := by
  rcases le_or_gt 0 s.square with convex | concave
  · have left : r * s.slope r - s.excess r = s.time + r ^ 2 * (2 * s.third * r + s.square) := by
      rw [slope_eq, excess_eq]
      ring
    have time := valid.time_mem.1
    have more : 0 ≤ r ^ 2 * (2 * s.third * r + s.square) := by positivity
    linarith
  have inside : 0 ≤ t := guess.low_nonneg.trans guess.above
  have bendZero : s.bend 0 ≤ 0 := by
    rw [bend, mul_zero, zero_add]
    exact concave.le
  obtain ⟨turn, positive, before, flat⟩ := exists_turn rising inside bendZero bendHere
  refine excess_le_of_flat rising flat positive ?_ from0
  rcases le_total low turn with after | earlier
  · exact guess.excess_turn_le valid rising flat after before
  · have low1 : low ≤ 1 := by linarith [guess.high_le_one]
    have behind : s.excess turn ≤ s.excess low :=
      sub_le_sub_right (Cubic.coordinate_le valid.first_mem valid.second_mem positive earlier low1)
        s.time
    have nonpos := guess.excess_low_nonpos valid
    have slope := mul_nonneg positive (valid.slope_nonneg positive (earlier.trans low1))
    linarith

end Guess

/-! ### A rising third coefficient, where the curve bends downwards -/

/-- What half of the way back to 0 leaves for a curve with these controls, if its slope is a little more. -/
def spare (first second low t : Rat) : Rat :=
  t / 2 * (Cubic.slope first second t + 1 / 1000) + (t - low) * (low + 1 / 10 - t) *
    ((1 - 3 * second + 3 * first) * (t + low + (low + 1 / 10)) + (3 * second - 6 * first))

section Corners

variable {low t : Rat} (place : InTenth low t)

include place

theorem spare_zero_zero : 0 ≤ spare 0 0 low t := by
  have slope : Cubic.slope 0 0 t = 3 * t ^ 2 := by
    rw [Cubic.slope_rat]
    ring
  have start := place.low_nonneg
  have inside := place.nonneg
  have back := sub_nonneg.mpr place.above
  have rest := sub_nonneg.mpr place.below
  rw [spare, slope]
  simp only [mul_zero, sub_zero, add_zero, one_mul]
  positivity

theorem spare_zero_one : 0 ≤ spare 0 1 low t := by
  have slope : Cubic.slope 0 1 t = 6 * (t * (1 - t)) := by
    rw [Cubic.slope_rat]
    ring
  have inside := place.nonneg
  have left := sub_nonneg.mpr place.le_one
  have back := sub_nonneg.mpr place.above
  have rest := sub_nonneg.mpr place.below
  rw [spare, slope]
  rcases le_total (2 * (t + low + (low + 1 / 10))) 3 with early | late
  · have convex : 0 ≤ (1 - 3 * 1 + 3 * 0) * (t + low + (low + 1 / 10)) + (3 * 1 - 6 * 0) := by linarith
    positivity
  · have far : 4 / 10 ≤ t := by linarith [place.above]
    have backLe : t - low ≤ 1 / 10 := by linarith
    have restLe : low + 1 / 10 - t ≤ 1 - t := by linarith [place.high_le_one]
    have bendLe : 2 * (t + low + (low + 1 / 10)) - 3 ≤ 3 := by linarith [place.high_le_one]
    have loss : (t - low) * (low + 1 / 10 - t) * (2 * (t + low + (low + 1 / 10)) - 3) ≤
        1 / 10 * (1 - t) * 3 :=
      mul_le_mul (mul_le_mul backLe restLe rest (by norm_num)) bendLe (sub_nonneg.mpr late)
        (by positivity)
    have gain : 4 / 10 * (4 / 10) * (1 - t) ≤ t * t * (1 - t) :=
      mul_le_mul_of_nonneg_right (mul_le_mul far far (by norm_num) inside) left
    linarith

theorem spare_one_one (later : low ≠ 0) : 0 ≤ spare 1 1 low t := by
  have slope : Cubic.slope 1 1 t = 3 * (1 - t) ^ 2 := by
    rw [Cubic.slope_rat]
    ring
  have half := place.length_le_half later
  have left := sub_nonneg.mpr place.le_one
  have back := sub_nonneg.mpr place.above
  have rest := sub_nonneg.mpr place.below
  rw [spare, slope]
  have wide : 0 ≤ (t / 2 - (t - low)) * (3 * (1 - t) ^ 2 + 1 / 1000) := by
    have := sub_nonneg.mpr half
    positivity
  rcases place.compare 10 with before | last | after <;> push_cast at *
  · have apart : low + 1 / 10 - t + 1 / 10 ≤ 1 - t := by linarith
    have gain := mul_le_mul_of_nonneg_right apart left
    have enough : 0 ≤ 3 * (1 - t) ^ 2 + 1 / 1000 -
        (low + 1 / 10 - t) * (3 - (t + low + (low + 1 / 10))) := by
      have := mul_nonneg rest rest
      nlinarith
    have := mul_nonneg back enough
    linarith
  · obtain rfl : low = 9 / 10 := by linarith
    nlinarith
  · linarith [place.high_le_one]

theorem spare_one_zero (later : low ≠ 0) : 0 ≤ spare 1 0 low t := by
  have slope : Cubic.slope 1 0 t = 3 * (2 * t - 1) ^ 2 := by
    rw [Cubic.slope_rat]
    ring
  have half := place.length_le_half later
  have inside := place.nonneg
  have back := sub_nonneg.mpr place.above
  have rest := sub_nonneg.mpr place.below
  rw [spare, slope]
  have wide : 0 ≤ (t / 2 - (t - low)) * (3 * (2 * t - 1) ^ 2 + 1 / 1000) := by
    have := sub_nonneg.mpr half
    positivity
  rcases place.compare 5 with before | middle | after <;> push_cast at *
  · have enough : 0 ≤ 3 * (2 * t - 1) ^ 2 + 1 / 1000 +
        (low + 1 / 10 - t) * (4 * (t + low + (low + 1 / 10)) - 6) := by
      nlinarith
    have := mul_nonneg back enough
    linarith
  · obtain rfl : low = 4 / 10 := by linarith
    -- The least value is taken close to the middle, and it is not far above 0.
    have least : 0 ≤ (1 / 2 - t - 72 / 10000) ^ 2 := sq_nonneg _
    have cubes : 0 ≤ (1 / 2 - t) ^ 2 * (t - 4 / 10) := mul_nonneg (sq_nonneg _) back
    linarith
  · have convex : 0 ≤ (1 - 3 * 0 + 3 * 1) * (t + low + (low + 1 / 10)) + (3 * 0 - 6 * 1) := by
      linarith [place.above]
    positivity

end Corners

theorem spare_eq_mix (first second low t : Rat) :
    spare first second low t = Cubic.mix second
      (Cubic.mix first (spare 0 0 low t) (spare 1 0 low t))
      (Cubic.mix first (spare 0 1 low t) (spare 1 1 low t)) := by
  simp only [spare, Cubic.slope_rat, Cubic.mix]
  ring

namespace Guess

variable {s : Search} {low t : Rat}

/-- In the first tenth the whole way back to 0 is enough on any curve. -/
theorem excess_le_of_first (valid : s.Valid) (guess : s.Guess 0 t) :
    s.excess t ≤ t * s.slope t := by
  have inside := guess.nonneg
  have below := guess.below
  have left : s.slope t + (1 / 10 - t) * (s.third * (t + 1 / 10) + s.square) = Cubic.mix s.second
      (Cubic.mix s.first (2 * t ^ 2 + 1 / 100) (8 * t ^ 2 + (6 / 10 - 6 * t) + 184 / 100))
      (Cubic.mix s.first (3 * t + 4 * t * (1 / 10 - t) + (28 / 100 - 4 / 10 * t))
        (2 * t ^ 2 + (3 / 10 - 3 * t) + 241 / 100)) := by
    rw [slope_eq, third, square]
    simp only [Cubic.mix]
    ring
  have enough : 0 ≤ s.slope t + (1 / 10 - t) * (s.third * (t + 1 / 10) + s.square) := by
    have rest : 0 ≤ 1 / 10 - t := by linarith
    rw [left]
    refine Cubic.mix_nonneg valid.second_mem.1 valid.second_mem.2 ?_ ?_ <;>
      refine Cubic.mix_nonneg valid.first_mem.1 valid.first_mem.2 ?_ ?_
    · positivity
    · nlinarith
    · nlinarith
    · nlinarith
  have scaled := mul_nonneg inside enough
  rw [guess.chord]
  linarith

/-- Later on half of the way is enough, if the curve is not flat at the guess. -/
theorem excess_le_of_later (valid : s.Valid) (guess : s.Guess low t) (later : low ≠ 0) :
    s.excess t ≤ t / 2 * (s.slope t + 1 / 1000) := by
  have place := guess.toInTenth
  have enough : 0 ≤ spare s.first s.second low t := by
    rw [spare_eq_mix]
    refine Cubic.mix_nonneg valid.second_mem.1 valid.second_mem.2 ?_ ?_ <;>
      refine Cubic.mix_nonneg valid.first_mem.1 valid.first_mem.2 ?_ ?_
    · exact spare_zero_zero place
    · exact spare_one_zero place later
    · exact spare_zero_one place
    · exact spare_one_one place later
  have same : spare s.first s.second low t = t / 2 * (s.slope t + 1 / 1000) - s.excess t := by
    rw [spare, guess.chord, slope, third, square]
    ring
  linarith

theorem excess_le_of_steep (valid : s.Valid) (guess : s.Guess low t)
    (steep : 1 / 1000 ≤ s.slope t) : s.excess t ≤ t * s.slope t := by
  by_cases first : low = 0
  · subst first
    exact guess.excess_le_of_first valid
  · have half := guess.excess_le_of_later valid first
    have more := mul_le_mul_of_nonneg_left steep guess.nonneg
    linarith

/-! ### The first step -/

theorem ahead (valid : s.Valid) (guess : s.Guess low t) (steep : 1 / 1000 ≤ s.slope t) :
    s.Ahead t := by
  have inside := guess.nonneg
  rcases le_total 0 s.third with rising | falling <;> rcases le_total 0 (s.bend t) with up | down
  · exact .safe rising fun r from0 _ => guess.safe_of_rising valid rising up r from0
  · exact .concave rising down (guess.excess_le_of_steep valid steep)
  · have bendZero := up.trans (bend_le_of_falling falling inside)
    exact .convex 0 le_rfl inside valid.excess_zero_le bendZero up
  · have length := guess.excess_le_of_falling valid falling down
    have positive : 0 ≤ s.slope t := le_trans (by norm_num) steep
    have back : (t - low) / 2 ≤ t := by linarith [guess.low_nonneg, guess.above]
    have short : (t - low) / 2 ≤ 1 / 20 := by linarith [guess.below]
    exact .close falling down (length.trans (mul_le_mul_of_nonneg_right back positive))
      (length.trans (mul_le_mul_of_nonneg_right short positive))

theorem held (valid : s.Valid) (guess : s.Guess low t) (steep : 1 / 1000 ≤ s.slope t) :
    s.Held t where
  from0 := guess.nonneg
  to1 := guess.le_one
  side := by
    rcases le_total 0 (s.excess t) with far | near
    · exact .inl ⟨far, guess.ahead valid steep⟩
    · refine .inr ⟨?_, guess.mirror.ahead valid.mirror ?_⟩
      · rw [mirror_excess]
        exact neg_nonneg.mpr near
      · rwa [mirror_slope]

end Guess

end ScrollTimeline.Search
