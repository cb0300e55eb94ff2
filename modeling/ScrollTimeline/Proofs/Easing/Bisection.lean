import ScrollTimeline.Proofs.Easing.Table

/-!
Bisection, in exact fractions.

It answers inside the interval that it halves, and within one interval a later time has no earlier answer:
two searches take the same middles until the curve at one of these separates their times.
-/
set_option autoImplicit false

namespace ScrollTimeline

namespace Easing

variable {c : Easing Rat} {p q low high last : Rat}

theorem precision_rat : (OfScientific.ofScientific 1 true 7 : Rat) = 1 / 10 ^ 7 := by decide +kernel

theorem bisect_succ (c : Easing Rat) (time : Rat) (steps : Nat) (low high last : Rat) :
    c.bisect time (steps + 1) low high last =
      if |c.x ((low + high) / 2) - time| ≤ 1 / 10 ^ 7 then (low + high) / 2
      else if time < c.x ((low + high) / 2) then
        c.bisect time steps low ((low + high) / 2) ((low + high) / 2)
      else c.bisect time steps ((low + high) / 2) high ((low + high) / 2) := by
  have middle : low + (high - low) / 2 = (low + high) / 2 := by ring
  rw [bisect, two_rat, zero_rat, precision_rat]
  change (let middle := low + (high - low) / 2; _) = _
  rw [middle]
  simp only [magnitude_rat, sub_pos]

/-- The last middle, which is answered when no step is left, lies in the interval too. -/
theorem bisect_mem (steps : Nat) (ordered : low ≤ high) (from' : low ≤ last) (to' : last ≤ high) :
    low ≤ c.bisect p steps low high last ∧ c.bisect p steps low high last ≤ high := by
  induction steps generalizing low high last with
  | zero => exact ⟨from', to'⟩
  | succ steps ih =>
    have lower : low ≤ (low + high) / 2 := by linarith
    have upper : (low + high) / 2 ≤ high := by linarith
    rw [bisect_succ]
    split
    · exact ⟨lower, upper⟩
    split
    · obtain ⟨above, below⟩ := ih lower lower le_rfl
      exact ⟨above, below.trans upper⟩
    · obtain ⟨above, below⟩ := ih upper le_rfl upper
      exact ⟨lower.trans above, below⟩

theorem near_of_lt {value : Rat} (earlier : p ≤ q) (before : q < value) : |value - q| ≤ |value - p| := by
  rw [abs_of_pos (sub_pos.mpr before), abs_of_pos (sub_pos.mpr (earlier.trans_lt before))]
  linarith

theorem near_of_le {value : Rat} (earlier : p ≤ q) (behind : value ≤ p) :
    |value - p| ≤ |value - q| := by
  rw [abs_of_nonpos (sub_nonpos.mpr behind), abs_of_nonpos (sub_nonpos.mpr (behind.trans earlier))]
  linarith

theorem bisect_le_bisect (steps : Nat) (earlier : p ≤ q) (ordered : low ≤ high) :
    c.bisect p steps low high last ≤ c.bisect q steps low high last := by
  induction steps generalizing low high last with
  | zero => exact le_rfl
  | succ steps ih =>
    have lower : low ≤ (low + high) / 2 := by linarith
    have upper : (low + high) / 2 ≤ high := by linarith
    have left : c.bisect p steps low ((low + high) / 2) ((low + high) / 2) ≤ (low + high) / 2 :=
      (bisect_mem steps lower lower le_rfl).2
    have right : (low + high) / 2 ≤ c.bisect q steps ((low + high) / 2) high ((low + high) / 2) :=
      (bisect_mem steps upper le_rfl upper).1
    rw [bisect_succ, bisect_succ]
    by_cases stopQ : |c.x ((low + high) / 2) - q| ≤ 1 / 10 ^ 7
    · rw [if_pos stopQ]
      split
      · exact le_rfl
      split
      · exact left
      · rename_i farP behind
        exact absurd ((near_of_le earlier (not_lt.mp behind)).trans stopQ) farP
    rw [if_neg stopQ]
    by_cases leftQ : q < c.x ((low + high) / 2)
    · have farP : ¬ |c.x ((low + high) / 2) - p| ≤ 1 / 10 ^ 7 := fun stopP =>
        stopQ ((near_of_lt earlier leftQ).trans stopP)
      rw [if_pos leftQ, if_neg farP, if_pos (earlier.trans_lt leftQ)]
      exact ih lower
    rw [if_neg leftQ]
    split
    · exact right
    split
    · exact left.trans right
    · exact ih upper

end Easing

end ScrollTimeline
