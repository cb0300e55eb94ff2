import ScrollTimeline.Proofs.Easing.Monotone

/-!
How near the search for a parameter comes, in exact fractions.

The tenth that is found encloses the time, and so does every half that bisection goes on with. Bisection
therefore answers within its precision, or at an end of what is left of the tenth after ten halvings.
-/
set_option autoImplicit false

namespace ScrollTimeline.Easing

structure Narrowed (c : Easing Rat) (time low high width lower upper : Rat) : Prop where
  low_le : low ≤ lower
  ordered : lower ≤ upper
  le_high : upper ≤ high
  narrow : upper - lower ≤ width
  before : c.x lower ≤ time
  behind : time ≤ c.x upper

/-- A parameter that is right within the precision of bisection, or an end of a narrow part of an interval
in which the right one lies. -/
def IsNear (c : Easing Rat) (time low high width t : Rat) : Prop :=
  |c.x t - time| ≤ 1 / 10 ^ 7 ∨
    ∃ lower upper, Narrowed c time low high width lower upper ∧ (t = lower ∨ t = upper)

variable {c : Easing Rat} {time low high last width t : Rat}

theorem IsNear.mono {low' high' : Rat} (near : IsNear c time low high width t) (lower : low' ≤ low)
    (upper : high ≤ high') : IsNear c time low' high' width t := by
  refine near.imp_right ?_
  rintro ⟨start, stop, narrowed, ends⟩
  exact ⟨start, stop, { narrowed with
    low_le := lower.trans narrowed.low_le
    le_high := narrowed.le_high.trans upper }, ends⟩

theorem isNear_bisect (steps : Nat) (ordered : low ≤ high) (before : c.x low ≤ time)
    (behind : time ≤ c.x high) (ends : last = low ∨ last = high) :
    IsNear c time low high ((high - low) / 2 ^ steps) (c.bisect time steps low high last) := by
  -- A step answers the middle or makes it an end of the half that encloses the time.
  induction steps generalizing low high last with
  | zero => exact .inr ⟨low, high, ⟨le_rfl, ordered, le_rfl, by simp, before, behind⟩, ends⟩
  | succ steps ih =>
    have lower : low ≤ (low + high) / 2 := by linarith
    have upper : (low + high) / 2 ≤ high := by linarith
    have left : (low + high) / 2 - low = (high - low) / 2 := by ring
    have right : high - (low + high) / 2 = (high - low) / 2 := by ring
    have halved : (high - low) / 2 / 2 ^ steps = (high - low) / 2 ^ (steps + 1) := by
      rw [div_div, ← pow_succ']
    rw [bisect_succ]
    split
    · rename_i precise
      exact .inl precise
    split
    · rename_i after
      have half := ih lower before after.le (.inr rfl)
      rw [left, halved] at half
      exact half.mono le_rfl upper
    · rename_i after
      have half := ih upper (not_lt.mp after) behind (.inl rfl)
      rw [right, halved] at half
      exact half.mono lower le_rfl

/-- For an accepted curve the coordinate that is inverted never turns back, and neither does its table. The
search ends at the tenth that encloses the time, whose entries differ, and guesses inside of it. Where
bisection answers, it answers in that tenth: within its precision, or at an end of a part that is no wider
than the tenth after ten halvings and encloses the time. -/
theorem search_encloses {x1 y1 x2 y2 : Rat} (made : ofControls x1 y1 x2 y2 = .ok c) :
    (∀ t, 0 ≤ t → t ≤ 1 → 0 ≤ c.xSlope t) ∧
    (∀ i j, i ≤ j → j ≤ 10 → c.sample i ≤ c.sample j) ∧
    ∀ time, 0 < time → time < 1 →
      let here := c.locate time
      let stop := here.start + tenth
      let start := c.guess time here
      (here.index ≤ 9 ∧ here.start = here.index / 10 ∧
        c.sample here.index ≤ time ∧ time < c.sample (here.index + 1)) ∧
      0 < c.sample (here.index + 1) - c.sample here.index ∧
      (here.start ≤ start ∧ start ≤ stop) ∧
      (¬ steep ≤ c.xSlope start → c.xSlope start ≠ 0 →
        c.parameter time = c.bisect time 10 here.start stop here.start ∧
        (here.start ≤ c.parameter time ∧ c.parameter time ≤ stop) ∧
        IsNear c time here.start stop (tenth / 1024) (c.parameter time)) := by
  have admissible := ((ofControls_eq_ok_iff x1 y1 x2 y2 c).mp made).2
  refine ⟨?_, fun i j => admissible.sample_le, ?_⟩
  · intro t from0 to1
    exact Cubic.slope_nonneg admissible.x1_mem admissible.x2_mem from0 to1
  intro time after before here stop start
  have brackets : Brackets c time here := brackets_locate after.le before
  have stops : stop = here.start + 1 / 10 := congrArg (here.start + ·) tenth_rat
  have low : c.x here.start ≤ time := brackets.low_eq ▸ brackets.low_le
  have high : time < c.x stop := stops ▸ brackets.high_eq ▸ brackets.lt_high
  refine ⟨⟨brackets.index_le, brackets.start_eq, brackets.low_le, brackets.lt_high⟩,
    sub_pos.mpr (brackets.low_le.trans_lt brackets.lt_high),
    ⟨brackets.guess_mem.1, stops ▸ brackets.guess_mem.2.le⟩, ?_⟩
  intro flat sloped
  have bisects : c.parameter time = c.bisect time 10 here.start stop here.start := by
    rw [stops]
    exact parameter_of_sloped flat sloped
  have inside := parameter_mem_interval after.le before flat
  have width : (stop - here.start) / 2 ^ 10 = tenth / 1024 := by
    rw [stops, tenth_rat, add_sub_cancel_left]
    norm_num
  have ordered : here.start ≤ stop := by
    rw [stops]
    linarith
  refine ⟨bisects, ⟨inside.1, stops ▸ inside.2⟩, ?_⟩
  rw [bisects, ← width]
  exact isNear_bisect 10 ordered low high.le (.inl rfl)

theorem search_encloses_flat :
    let c : Easing Rat := ⟨1, 0, 0, 1⟩
    let time := 5001 / 10000
    ofControls 1 0 0 1 = .ok c ∧ 0 < time ∧ time < 1 ∧
      ¬ steep ≤ c.xSlope (c.guess time (c.locate time)) ∧
      c.xSlope (c.guess time (c.locate time)) ≠ 0 ∧
      1 / 2 ≤ c.parameter time ∧
      IsNear c time (c.locate time).start ((c.locate time).start + tenth) (tenth / 1024)
        (c.parameter time) := by
  intro c time
  have made : ofControls 1 0 0 1 = .ok c := by decide +kernel
  have after : 0 < time := by norm_num [time]
  have before : time < 1 := by norm_num [time]
  have flat : ¬ steep ≤ c.xSlope (c.guess time (c.locate time)) := by decide +kernel
  have sloped : c.xSlope (c.guess time (c.locate time)) ≠ 0 := by decide +kernel
  have start : (c.locate time).start = 1 / 2 := by decide +kernel
  obtain ⟨-, inside, near⟩ := ((search_encloses made).2.2 time after before).2.2.2 flat sloped
  exact ⟨made, after, before, flat, sloped, start ▸ inside.1, near⟩

end ScrollTimeline.Easing
