import ScrollTimeline.Proofs.Easing.Bisection
import ScrollTimeline.Proofs.Easing.Guess

/-!
Whether an easing curve turns back, in exact fractions.

The parameter found for a time is on the curve. Where Newton's method is not trusted it never goes back as
the time goes on. Where it is, four steps need not be enough to settle, and the parameters of two times can
come in the wrong order; that happens exactly if what the searches leave is more than the times are apart.
-/
set_option autoImplicit false

namespace ScrollTimeline.Easing

def TrustsNewton (c : Easing Rat) (time : Rat) : Prop :=
  steep ≤ c.xSlope (c.guess time (c.locate time))

instance (c : Easing Rat) (time : Rat) : Decidable (c.TrustsNewton time) :=
  inferInstanceAs (Decidable (_ ≤ _))

/-- How far past the time the curve is at the parameter found for it. -/
def residual (c : Easing Rat) (time : Rat) : Rat := c.x (c.parameter time) - time

/-- If Newton's method answers for one of the times, the searches leave no more than the times are apart. -/
def Settled (c : Easing Rat) (p q : Rat) : Prop :=
  c.TrustsNewton p ∨ c.TrustsNewton q → c.residual p - c.residual q ≤ q - p

instance (c : Easing Rat) (p q : Rat) : Decidable (c.Settled p q) :=
  inferInstanceAs (Decidable (_ → _))

variable {c : Easing Rat} {p q time : Rat}

theorem steep_rat : (steep : Rat) = 1 / 1000 := by decide +kernel

/-! ### The guess -/

namespace Brackets

variable {here : Interval Rat}

theorem chord (brackets : Brackets c time here) :
    (Search.mk c.x1 c.x2 time).Guess here.start (c.guess time here) where
  tenth := ⟨here.index, brackets.index_le, brackets.start_eq⟩
  above := brackets.guess_mem.1
  below := brackets.guess_mem.2.le
  chord := by
    have low : c.x here.start ≤ time := brackets.low_eq ▸ brackets.low_le
    have high : time < c.x (here.start + 1 / 10) := brackets.high_eq ▸ brackets.lt_high
    have span : c.x (here.start + 1 / 10) - c.x here.start ≠ 0 := by
      have := low.trans_lt high
      exact (sub_pos.mpr this).ne'
    have line : (c.guess time here - here.start) * 10 *
        (c.x (here.start + 1 / 10) - c.x here.start) = time - c.x here.start := by
      have fraction := div_mul_cancel₀ (time - c.x here.start) span
      rw [brackets.guess_rat]
      linarith
    generalize c.guess time here = t at line
    rw [x, x, Cubic.coordinate_rat, Cubic.coordinate_rat] at line
    rw [Search.excess_eq, Search.third, Search.square]
    linarith

theorem guess_le_guess (first : Brackets c p here) (second : Brackets c q here) (ordered : p ≤ q) :
    c.guess p here ≤ c.guess q here := by
  have low : c.x here.start ≤ p := first.low_eq ▸ first.low_le
  have high : p < c.x (here.start + 1 / 10) := first.high_eq ▸ first.lt_high
  have span : 0 ≤ c.x (here.start + 1 / 10) - c.x here.start := by linarith
  have fraction := div_le_div_of_nonneg_right (sub_le_sub_right ordered (c.x here.start)) span
  rw [first.guess_rat, second.guess_rat]
  linarith

/-- A curve is flat only at its ends and in its middle, and a tenth begins there. -/
theorem guess_eq_start (admissible : c.Admissible) (brackets : Brackets c time here)
    (flat : c.xSlope (c.guess time here) = 0) : c.guess time here = here.start := by
  have place := brackets.chord.toInTenth
  obtain ⟨above, below⟩ := brackets.guess_mem
  have stop := brackets.stop_le_one
  rcases Cubic.eq_of_slope_eq_zero admissible.x1_mem admissible.x2_mem place.nonneg place.le_one
    flat with
    start | middle | last
  · exact le_antisymm (start.trans_le brackets.start_nonneg) above
  · rcases place.compare 5 with before | at' | after <;> push_cast at *
    · linarith
    · linarith
    · linarith
  · linarith

end Brackets

/-! ### The parameter -/

theorem parameter_of_trusted (trusted : c.TrustsNewton time) :
    c.parameter time = c.newton time 4 (c.guess time (c.locate time)) := by
  rw [TrustsNewton] at trusted
  rw [parameter, if_pos trusted]

theorem parameter_of_flat (still : ¬ c.TrustsNewton time)
    (flat : c.xSlope (c.guess time (c.locate time)) = 0) :
    c.parameter time = c.guess time (c.locate time) := by
  rw [TrustsNewton] at still
  rw [parameter, if_neg still, zero_rat, if_pos (beq_iff_eq.mpr flat)]

theorem parameter_of_sloped (still : ¬ c.TrustsNewton time)
    (sloped : c.xSlope (c.guess time (c.locate time)) ≠ 0) :
    c.parameter time = c.bisect time 10 (c.locate time).start ((c.locate time).start + 1 / 10)
      (c.locate time).start := by
  rw [TrustsNewton] at still
  rw [parameter, if_neg still, zero_rat, tenth_rat, if_neg (mt beq_iff_eq.mp sloped)]

theorem parameter_mem_interval (from0 : 0 ≤ time) (before : time < 1)
    (still : ¬ c.TrustsNewton time) :
    (c.locate time).start ≤ c.parameter time ∧
      c.parameter time ≤ (c.locate time).start + 1 / 10 := by
  have brackets := brackets_locate (c := c) from0 before
  have width : (c.locate time).start ≤ (c.locate time).start + 1 / 10 := by linarith
  by_cases flat : c.xSlope (c.guess time (c.locate time)) = 0
  · rw [parameter_of_flat still flat]
    exact ⟨brackets.guess_mem.1, brackets.guess_mem.2.le⟩
  · rw [parameter_of_sloped still flat]
    exact bisect_mem 10 width le_rfl width

theorem parameter_mem (admissible : c.Admissible) (from0 : 0 ≤ time) (before : time < 1) :
    0 ≤ c.parameter time ∧ c.parameter time ≤ 1 := by
  have brackets := brackets_locate (c := c) from0 before
  by_cases trusted : c.TrustsNewton time
  · have valid : (Search.mk c.x1 c.x2 time).Valid :=
      ⟨admissible.x1_mem, admissible.x2_mem, from0, before.le⟩
    rw [parameter_of_trusted trusted]
    exact newton_mem valid 4 (brackets.chord.held valid (steep_rat ▸ trusted))
  · obtain ⟨above, below⟩ := parameter_mem_interval from0 before trusted
    exact ⟨brackets.start_nonneg.trans above, below.trans brackets.stop_le_one⟩

/-- The parameters of two times come in the order of the times exactly if what the searches leave is no
more than the times are apart. -/
theorem parameter_le_iff (admissible : c.Admissible) (from0 : 0 ≤ p) (ordered : p ≤ q)
    (before : q < 1) :
    c.parameter p ≤ c.parameter q ↔ c.residual p - c.residual q ≤ q - p := by
  obtain ⟨lowP, highP⟩ := parameter_mem admissible from0 (ordered.trans_lt before)
  obtain ⟨lowQ, highQ⟩ := parameter_mem admissible (from0.trans ordered) before
  have places : c.residual p - c.residual q ≤ q - p ↔ c.x (c.parameter p) ≤ c.x (c.parameter q) := by
    rw [residual, residual]
    constructor <;> intro bound <;> linarith
  rw [places]
  constructor
  · intro earlier
    exact admissible.x_le lowP earlier highQ
  · intro reached
    by_contra later
    have := admissible.x_lt lowQ (not_le.mp later) highP
    linarith

theorem parameter_le_of_untrusted (admissible : c.Admissible) (from0 : 0 ≤ p) (ordered : p ≤ q)
    (before : q < 1) (first : ¬ c.TrustsNewton p) (second : ¬ c.TrustsNewton q) :
    c.parameter p ≤ c.parameter q := by
  have start := brackets_locate (c := c) from0 (ordered.trans_lt before)
  have stop := brackets_locate (c := c) (from0.trans ordered) before
  have inP := parameter_mem_interval from0 (ordered.trans_lt before) first
  have inQ := parameter_mem_interval (from0.trans ordered) before second
  rcases (start.index_le_index admissible stop ordered).lt_or_eq with earlier | same
  · exact inP.2.trans ((start.stop_le_start stop earlier).trans inQ.1)
  have shared := start.eq_of_index_eq stop same
  have guesses : c.guess p (c.locate p) ≤ c.guess q (c.locate p) :=
    start.guess_le_guess (shared ▸ stop) ordered
  by_cases flatP : c.xSlope (c.guess p (c.locate p)) = 0
  · rw [parameter_of_flat first flatP, start.guess_eq_start admissible flatP, shared]
    exact inQ.1
  by_cases flatQ : c.xSlope (c.guess q (c.locate q)) = 0
  · -- Both guesses are at the start of the tenth, so the curve is flat at the earlier one too.
    have startQ := stop.guess_eq_start admissible flatQ
    have equal : c.guess p (c.locate p) = c.guess q (c.locate q) := by
      refine le_antisymm (shared ▸ guesses) ?_
      rw [startQ, ← shared]
      exact start.guess_mem.1
    exact absurd (equal ▸ flatQ) flatP
  rw [parameter_of_sloped first flatP, parameter_of_sloped second flatQ, ← shared]
  exact bisect_le_bisect 10 ordered (by linarith)

theorem parameter_le_iff_settled (admissible : c.Admissible) (from0 : 0 ≤ p) (ordered : p ≤ q)
    (before : q < 1) : c.parameter p ≤ c.parameter q ↔ c.Settled p q := by
  have exactly := parameter_le_iff admissible from0 ordered before
  constructor
  · intro earlier _
    exact exactly.mp earlier
  · intro settled
    by_cases trusted : c.TrustsNewton p ∨ c.TrustsNewton q
    · exact exactly.mpr (settled trusted)
    · obtain ⟨first, second⟩ := not_or.mp trusted
      exact parameter_le_of_untrusted admissible from0 ordered before first second

/-! ### The value -/

theorem evaluate_of_before (curved : c.isIdentity = false) (before : time ≤ 0) :
    c.evaluate time = 0 := by
  rw [evaluate, zero_rat, curved, if_neg Bool.false_ne_true, if_pos before]

theorem evaluate_of_after (curved : c.isIdentity = false) (after : 1 ≤ time) :
    c.evaluate time = 1 := by
  have positive : 0 < time := zero_lt_one.trans_le after
  rw [evaluate, zero_rat, one_rat, curved, if_neg Bool.false_ne_true, if_neg (not_le.mpr positive),
    if_pos after]

theorem evaluate_of_inside (curved : c.isIdentity = false) (after : 0 < time) (before : time < 1) :
    c.evaluate time = c.y (c.parameter time) := by
  rw [evaluate, zero_rat, one_rat, curved, if_neg Bool.false_ne_true, if_neg (not_le.mpr after),
    if_neg (not_le.mpr before)]

section Unit

variable (admissible : c.Admissible) (inFirst : 0 ≤ c.y1 ∧ c.y1 ≤ 1) (inSecond : 0 ≤ c.y2 ∧ c.y2 ≤ 1)
  (curved : c.isIdentity = false)

include admissible inFirst inSecond curved

theorem evaluate_mem (time : Rat) : 0 ≤ c.evaluate time ∧ c.evaluate time ≤ 1 := by
  rcases le_or_gt time 0 with start | after
  · rw [evaluate_of_before curved start]
    exact ⟨le_rfl, zero_le_one⟩
  rcases le_or_gt 1 time with stop | before
  · rw [evaluate_of_after curved stop]
    exact ⟨zero_le_one, le_rfl⟩
  obtain ⟨low, high⟩ := parameter_mem admissible after.le before
  have floor := Cubic.coordinate_le inFirst inSecond le_rfl low high
  have ceiling := Cubic.coordinate_le inFirst inSecond low high le_rfl
  rw [Cubic.coordinate_zero] at floor
  rw [Cubic.coordinate_one] at ceiling
  rw [evaluate_of_inside curved after before]
  exact ⟨floor, ceiling⟩

theorem evaluate_le_iff_parameter (after : 0 < p) (ordered : p ≤ q) (before : q < 1) :
    c.evaluate p ≤ c.evaluate q ↔ c.parameter p ≤ c.parameter q := by
  obtain ⟨lowP, highP⟩ := parameter_mem admissible after.le (ordered.trans_lt before)
  obtain ⟨lowQ, highQ⟩ := parameter_mem admissible (after.le.trans ordered) before
  rw [evaluate_of_inside curved after (ordered.trans_lt before),
    evaluate_of_inside curved (after.trans_le ordered) before]
  constructor
  · intro values
    by_contra later
    have := Cubic.coordinate_lt inFirst inSecond lowQ (not_le.mp later) highP
    exact absurd values (not_le.mpr this)
  · intro earlier
    exact Cubic.coordinate_le inFirst inSecond lowP earlier highQ

end Unit

/-- Of an easing curve with all controls in the unit square the values at two times come in the order of
the times, unless Newton's method answers for one of them and has not settled. -/
theorem evaluate_le_evaluate_iff {x1 y1 x2 y2 : Rat} (made : ofControls x1 y1 x2 y2 = .ok c)
    (first : inUnit y1 = true) (second : inUnit y2 = true) (ordered : p ≤ q) :
    c.evaluate p ≤ c.evaluate q ↔ (c.isIdentity = false → 0 < p → q < 1 → c.Settled p q) := by
  obtain ⟨rfl, admissible⟩ := (ofControls_eq_ok_iff x1 y1 x2 y2 c).mp made
  have inFirst := (inUnit_iff y1).mp first
  have inSecond := (inUnit_iff y2).mp second
  by_cases identity : (Easing.mk x1 y1 x2 y2).isIdentity = true
  · rw [evaluate, evaluate, if_pos identity, if_pos identity]
    exact iff_of_true ordered fun curved => absurd identity (Bool.eq_false_iff.mp curved)
  have curved : (Easing.mk x1 y1 x2 y2).isIdentity = false := Bool.eq_false_iff.mpr identity
  rcases le_or_gt p 0 with start | after
  · rw [evaluate_of_before curved start]
    exact iff_of_true (evaluate_mem admissible inFirst inSecond curved q).1
      fun _ after => absurd after (not_lt.mpr start)
  rcases le_or_gt 1 q with stop | before
  · rw [evaluate_of_after curved stop]
    exact iff_of_true (evaluate_mem admissible inFirst inSecond curved p).2
      fun _ _ before => absurd before (not_lt.mpr stop)
  rw [evaluate_le_iff_parameter admissible inFirst inSecond curved after ordered before,
    parameter_le_iff_settled admissible after.le ordered before]
  exact ⟨fun settled _ _ _ => settled, fun settled => settled curved after before⟩

theorem evaluate_le_evaluate_iff_gentle :
    (Easing.mk (1 / 4) (1 / 10) (1 / 4) 1 : Easing Rat).TrustsNewton (1 / 4) ∧
      (Easing.mk (1 / 4) (1 / 10) (1 / 4) 1 : Easing Rat).TrustsNewton (1 / 2) ∧
      (Easing.mk (1 / 4) (1 / 10) (1 / 4) 1 : Easing Rat).evaluate (1 / 4) ≤
        (Easing.mk (1 / 4) (1 / 10) (1 / 4) 1 : Easing Rat).evaluate (1 / 2) := by
  refine ⟨by decide +kernel, by decide +kernel, ?_⟩
  have made : ofControls (1 / 4) (1 / 10) (1 / 4) 1 =
      .ok (Easing.mk (1 / 4) (1 / 10) (1 / 4) 1 : Easing Rat) := by decide +kernel
  have settled : (Easing.mk (1 / 4) (1 / 10) (1 / 4) 1 : Easing Rat).Settled (1 / 4) (1 / 2) := by
    decide +kernel
  exact (evaluate_le_evaluate_iff made (by decide +kernel) (by decide +kernel) (by decide +kernel)).mpr
    fun _ _ _ => settled

/-- The curve that is flat in the middle turns back: four steps leave much more at the earlier time. -/
theorem evaluate_lt_evaluate_flat :
    ofControls 1 0 0 1 = .ok (Easing.mk 1 0 0 1 : Easing Rat) ∧
      inUnit (0 : Rat) = true ∧ inUnit (1 : Rat) = true ∧
      (0 : Rat) ≤ 498 / 1000 ∧ (498 / 1000 : Rat) ≤ 4996 / 10000 ∧ (4996 / 10000 : Rat) ≤ 1 ∧
      (Easing.mk 1 0 0 1 : Easing Rat).evaluate (4996 / 10000) <
        (Easing.mk 1 0 0 1 : Easing Rat).evaluate (498 / 1000) := by
  decide +kernel

end ScrollTimeline.Easing
