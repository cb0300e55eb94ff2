import Mathlib.Tactic.FieldSimp
import ScrollTimeline.Proofs.Easing.Cubic

/-!
The table of an easing curve, in exact fractions.

The search ends at the one tenth whose two entries enclose the time, and the guess lies in that tenth.
-/
set_option autoImplicit false

namespace ScrollTimeline

theorem inUnit_iff (a : Rat) : inUnit a = true ↔ 0 ≤ a ∧ a ≤ 1 := by
  rw [inUnit, zero_rat, one_rat]
  simp

namespace Easing

variable {c : Easing Rat}

theorem Admissible.x1_mem (admissible : c.Admissible) : 0 ≤ c.x1 ∧ c.x1 ≤ 1 :=
  (inUnit_iff c.x1).mp admissible.2.1

theorem Admissible.x2_mem (admissible : c.Admissible) : 0 ≤ c.x2 ∧ c.x2 ≤ 1 :=
  (inUnit_iff c.x2).mp admissible.2.2

theorem Admissible.x_lt {s t : Rat} (admissible : c.Admissible) (from0 : 0 ≤ s) (apart : s < t)
    (to1 : t ≤ 1) : c.x s < c.x t :=
  Cubic.coordinate_lt admissible.x1_mem admissible.x2_mem from0 apart to1

theorem Admissible.x_le {s t : Rat} (admissible : c.Admissible) (from0 : 0 ≤ s) (ordered : s ≤ t)
    (to1 : t ≤ 1) : c.x s ≤ c.x t :=
  Cubic.coordinate_le admissible.x1_mem admissible.x2_mem from0 ordered to1

theorem tenth_rat : (tenth : Rat) = 1 / 10 := by decide +kernel

theorem sample_rat (c : Easing Rat) (index : Nat) : c.sample index = c.x (index / 10) := by
  rw [sample, tenth_rat]
  exact congrArg c.x (mul_one_div _ _)

theorem sample_zero (c : Easing Rat) : c.sample 0 = 0 := by
  rw [sample_rat, Nat.cast_zero, zero_div]
  exact Cubic.coordinate_zero _ _

theorem sample_ten (c : Easing Rat) : c.sample 10 = 1 := by
  have whole : ((10 : Nat) : Rat) / 10 = 1 := by norm_num
  rw [sample_rat, whole]
  exact Cubic.coordinate_one _ _

theorem Admissible.sample_le {i j : Nat} (admissible : c.Admissible) (ordered : i ≤ j)
    (inside : j ≤ 10) : c.sample i ≤ c.sample j := by
  have cast : (i : Rat) ≤ j := Nat.cast_le.mpr ordered
  have top : (j : Rat) ≤ 10 := by exact_mod_cast inside
  rw [sample_rat, sample_rat]
  refine admissible.x_le ?_ ?_ ?_
  · positivity
  · linarith
  · linarith

/-- The interval is one of the table, and the time lies between its entries. -/
structure Brackets (c : Easing Rat) (time : Rat) (here : Interval Rat) : Prop where
  index_le : here.index ≤ 9
  start_eq : here.start = here.index / 10
  low_le : c.sample here.index ≤ time
  lt_high : time < c.sample (here.index + 1)

theorem brackets_advance {time : Rat} (before : time < 1) {steps : Nat} {here : Interval Rat}
    (left : here.index + steps = 9) (start : here.start = here.index / 10)
    (low : c.sample here.index ≤ time) : Brackets c time (c.advance time steps here) := by
  induction steps generalizing here with
  | zero =>
    have last : here.index = 9 := left
    refine ⟨last.le, start, low, ?_⟩
    rwa [advance, last, sample_ten]
  | succ steps ih =>
    rw [advance]
    split
    · rename_i reached
      refine ih ?_ ?_ reached
      · dsimp only
        omega
      · have next : ((here.index + 1 : Nat) : Rat) / 10 = here.index / 10 + 1 / 10 := by
          push_cast
          ring
        dsimp only
        rw [next, ← start, tenth_rat]
    · rename_i short
      exact ⟨by omega, start, low, not_le.mp short⟩

theorem brackets_locate {time : Rat} (from0 : 0 ≤ time) (before : time < 1) :
    Brackets c time (c.locate time) := by
  refine brackets_advance before rfl ?_ ?_
  · rw [zero_rat, Nat.cast_zero, zero_div]
  · rwa [sample_zero]

namespace Brackets

variable {time : Rat} {here : Interval Rat}

theorem start_nonneg (brackets : Brackets c time here) : 0 ≤ here.start := by
  rw [brackets.start_eq]
  positivity

theorem stop_le_one (brackets : Brackets c time here) : here.start + 1 / 10 ≤ 1 := by
  have index : (here.index : Rat) ≤ 9 := by exact_mod_cast brackets.index_le
  rw [brackets.start_eq]
  linarith

theorem low_eq (brackets : Brackets c time here) : c.sample here.index = c.x here.start := by
  rw [sample_rat, brackets.start_eq]

theorem high_eq (brackets : Brackets c time here) :
    c.sample (here.index + 1) = c.x (here.start + 1 / 10) := by
  rw [sample_rat, brackets.start_eq]
  push_cast
  congr 1
  ring

/-- An earlier time does not lie in a later interval. -/
theorem index_le_index (admissible : c.Admissible) {p q : Rat} {there : Interval Rat}
    (first : Brackets c p here) (second : Brackets c q there) (ordered : p ≤ q) :
    here.index ≤ there.index := by
  by_contra later
  have inside : here.index ≤ 10 := by have := first.index_le; omega
  have entries : c.sample (there.index + 1) ≤ c.sample here.index :=
    admissible.sample_le (by omega) inside
  have low := first.low_le
  have high := second.lt_high
  linarith

theorem eq_of_index_eq {p q : Rat} {there : Interval Rat} (first : Brackets c p here)
    (second : Brackets c q there) (same : here.index = there.index) : here = there := by
  have start : here.start = there.start := by rw [first.start_eq, second.start_eq, same]
  cases here
  cases there
  cases same
  cases start
  rfl

theorem stop_le_start {p q : Rat} {there : Interval Rat} (first : Brackets c p here)
    (second : Brackets c q there) (earlier : here.index < there.index) :
    here.start + 1 / 10 ≤ there.start := by
  have next : ((here.index : Rat) + 1) ≤ there.index := by exact_mod_cast earlier
  rw [first.start_eq, second.start_eq]
  linarith

/-! ### The guess -/

theorem guess_rat (brackets : Brackets c time here) :
    c.guess time here = here.start + (time - c.x here.start) /
      (c.x (here.start + 1 / 10) - c.x here.start) * (1 / 10) := by
  have span : (0 : Rat) < c.sample (here.index + 1) - c.sample here.index :=
    sub_pos.mpr (lt_of_le_of_lt brackets.low_le brackets.lt_high)
  rw [guess, zero_rat, tenth_rat]
  rw [if_pos span, brackets.low_eq, brackets.high_eq]

theorem guess_mem (brackets : Brackets c time here) :
    here.start ≤ c.guess time here ∧ c.guess time here < here.start + 1 / 10 := by
  have low : c.x here.start ≤ time := brackets.low_eq ▸ brackets.low_le
  have high : time < c.x (here.start + 1 / 10) := brackets.high_eq ▸ brackets.lt_high
  have span : 0 < c.x (here.start + 1 / 10) - c.x here.start := by linarith
  have fraction : 0 ≤ (time - c.x here.start) / (c.x (here.start + 1 / 10) - c.x here.start) :=
    div_nonneg (by linarith) span.le
  have less : (time - c.x here.start) / (c.x (here.start + 1 / 10) - c.x here.start) < 1 :=
    (div_lt_one span).mpr (by linarith)
  rw [brackets.guess_rat]
  constructor <;> linarith

end Brackets

end Easing

end ScrollTimeline
