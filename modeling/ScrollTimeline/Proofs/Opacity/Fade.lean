import ScrollTimeline.Proofs.Easing.Monotone
import ScrollTimeline.Proofs.Record.Window

/-!
How a fade runs over a lifetime, in exact fractions.

Both forms of a fade ease one phase, which depends only on the distance to the nearer end of the lifetime.
So a fade looks the same from both ends, and stays in `[0, 1]` where its curves do. The phase has to be in
that range by itself, since an identity curve hands it on.
-/
set_option autoImplicit false

namespace ScrollTimeline

open Arithmetic

/-! ### Curves inside the unit square -/

namespace Easing

/-- A curve as it is read from four numbers, with all of them in `[0, 1]`. -/
structure InSquare (c : Easing Rat) : Prop where
  made : ofControls c.x1 c.y1 c.x2 c.y2 = .ok c
  first : inUnit c.y1 = true
  second : inUnit c.y2 = true

theorem InSquare.evaluate_mem_of_mem {c : Easing Rat} (inSquare : c.InSquare) {time : Rat}
    (low : 0 ≤ time) (high : time ≤ 1) : 0 ≤ c.evaluate time ∧ c.evaluate time ≤ 1 := by
  have admissible := ((ofControls_eq_ok_iff _ _ _ _ _).mp inSquare.made).2
  by_cases straight : c.isIdentity = true
  · rw [evaluate, if_pos straight]
    exact ⟨low, high⟩
  · exact evaluate_mem admissible ((inUnit_iff c.y1).mp inSquare.first)
      ((inUnit_iff c.y2).mp inSquare.second) (Bool.eq_false_iff.mpr straight) time

end Easing

namespace Opacity

def curves {α : Type} : Opacity α → List (Easing α)
  | constant => []
  | symmetric curve _ => [curve]
  | split fadeIn fadeOut _ => [fadeIn, fadeOut]

/-! ### The phase -/

def phase (offset progress : Rat) : Rat :=
  fadePhase (min progress (1 - progress)) offset

variable {curve fadeIn fadeOut : Easing Rat} {offset progress : Rat}

theorem leastSpan_rat : (leastSpan : Rat) = 1 / 2 ^ 52 := by decide +kernel

theorem phase_mirror : phase offset (1 - progress) = phase offset progress := by
  rw [phase, phase, sub_sub_cancel, min_comm]

theorem evaluate_symmetric :
    (symmetric curve offset).evaluate progress = curve.evaluate (phase offset progress) := by
  rw [evaluate, lesser_rat, one_rat, phase]

theorem evaluate_split : (split fadeIn fadeOut offset).evaluate progress =
    (if progress ≤ 1 / 2 then fadeIn else fadeOut).evaluate (phase offset progress) := by
  rw [evaluate, half_rat, one_rat, phase]
  by_cases early : progress ≤ 1 / 2
  · have nearer : min progress (1 - progress) = progress := min_eq_left (by linarith)
    rw [if_pos early, if_pos early, nearer]
  · have nearer : min progress (1 - progress) = 1 - progress := min_eq_right (by linarith)
    rw [if_neg early, if_neg early, nearer]

theorem phase_mem (offset progress : Rat) : 0 ≤ phase offset progress ∧ phase offset progress ≤ 1 := by
  rw [phase, fadePhase, clampUnit_rat, zero_rat, one_rat]
  split
  · split
    · exact ⟨zero_le_one, le_rfl⟩
    · exact ⟨le_rfl, zero_le_one⟩
  · exact ⟨le_min zero_le_one (le_max_right _ _), min_le_left _ _⟩

theorem phase_of_short (short : 1 / 2 - offset ≤ 1 / 2 ^ 52) :
    phase offset progress = if offset ≤ progress ∧ progress ≤ 1 - offset then 1 else 0 := by
  have reached : offset ≤ min progress (1 - progress) ↔
      offset ≤ progress ∧ progress ≤ 1 - offset := by
    rw [le_min_iff]
    exact and_congr_right fun _ => le_sub_comm
  rw [phase, fadePhase, half_rat, leastSpan_rat, zero_rat, one_rat, if_pos short]
  exact if_congr reached rfl rfl

/-- A phase that is 0 up to the offset, grows evenly from there to 1 in the middle of the lifetime, and
returns the same way. -/
structure IsFade (offset : Rat) (phase : Rat → Rat) : Prop where
  grows : ∀ p ≤ 1 / 2, phase p = min 1 (max ((p - offset) / (1 / 2 - offset)) 0)
  mirrored : ∀ p, phase (1 - p) = phase p
  eq_zero_iff : ∀ p, phase p = 0 ↔ p ≤ offset ∨ 1 - offset ≤ p
  eq_one_iff : ∀ p, phase p = 1 ↔ p = 1 / 2
  monotone : ∀ p q, p ≤ q → q ≤ 1 / 2 → phase p ≤ phase q

section

variable (long : 1 / 2 ^ 52 < 1 / 2 - offset)

include long

theorem phase_of_long (progress : Rat) : phase offset progress =
    min 1 (max ((min progress (1 - progress) - offset) / (1 / 2 - offset)) 0) := by
  rw [phase, fadePhase, half_rat, leastSpan_rat, clampUnit_rat]
  exact if_neg (not_le.mpr long)

theorem isFade_phase : IsFade offset (phase offset) := by
  have span : 0 < 1 / 2 - offset := lt_trans (by positivity) long
  have nearer (p : Rat) (early : p ≤ 1 / 2) : min p (1 - p) = p := min_eq_left (by linarith)
  constructor
  case grows =>
    intro p early
    rw [phase_of_long long, nearer p early]
  case mirrored => exact fun p => phase_mirror
  case eq_zero_iff =>
    intro p
    have bottom (a : Rat) : min 1 (max a 0) = 0 ↔ a ≤ 0 := by
      rw [min_eq_iff, max_eq_right_iff]
      simp only [one_ne_zero, false_and, false_or, and_iff_left_iff_imp]
      exact fun below => max_le (below.trans zero_le_one) zero_le_one
    rw [phase_of_long long, bottom, div_le_iff₀ span, zero_mul, sub_nonpos, min_le_iff]
    exact or_congr_right sub_le_comm
  case eq_one_iff =>
    intro p
    have top (a : Rat) : min 1 (max a 0) = 1 ↔ 1 ≤ a := by
      rw [min_eq_left_iff, le_max_iff]
      simp
    rw [phase_of_long long, top, le_div_iff₀ span, one_mul, sub_le_sub_iff_right, le_min_iff]
    constructor
    · rintro ⟨half, rest⟩
      linarith
    · rintro rfl
      norm_num
  case monotone =>
    intro p q ordered early
    rw [phase_of_long long, phase_of_long long, nearer q early, nearer p (ordered.trans early)]
    gcongr

end

/-! ### The fade -/

/-- With curves inside the unit square opacity stays in `[0, 1]`, whatever part of the lifetime the fade
leaves out, and before and after the lifetime too. -/
theorem evaluate_mem_unit (opacity : Opacity Rat) (fits : ∀ curve ∈ opacity.curves, curve.InSquare)
    (progress : Rat) : 0 ≤ opacity.evaluate progress ∧ opacity.evaluate progress ≤ 1 := by
  cases opacity with
  | constant =>
    rw [evaluate, one_rat]
    exact ⟨zero_le_one, le_rfl⟩
  | symmetric curve offset =>
    have inSquare := fits curve (List.mem_singleton_self curve)
    obtain ⟨low, high⟩ := phase_mem offset progress
    rw [evaluate_symmetric]
    exact inSquare.evaluate_mem_of_mem low high
  | split fadeIn fadeOut offset =>
    have inFirst := fits fadeIn List.mem_cons_self
    have inSecond := fits fadeOut (List.mem_cons_of_mem fadeIn (List.mem_singleton_self fadeOut))
    obtain ⟨low, high⟩ := phase_mem offset progress
    rw [evaluate_split]
    split
    · exact inFirst.evaluate_mem_of_mem low high
    · exact inSecond.evaluate_mem_of_mem low high

theorem evaluate_mem_unit_split :
    (∀ curve ∈ (split ⟨0, 0, 1, 1⟩ ⟨1, 0, 0, 1⟩ (-1 / 5) : Opacity Rat).curves, curve.InSquare) ∧
      0 ≤ (split ⟨0, 0, 1, 1⟩ ⟨1, 0, 0, 1⟩ (-1 / 5) : Opacity Rat).evaluate (9 / 10) ∧
      (split ⟨0, 0, 1, 1⟩ ⟨1, 0, 0, 1⟩ (-1 / 5) : Opacity Rat).evaluate (9 / 10) ≤ 1 := by
  have fits : ∀ curve ∈ (split ⟨0, 0, 1, 1⟩ ⟨1, 0, 0, 1⟩ (-1 / 5) : Opacity Rat).curves,
      curve.InSquare := by
    refine List.forall_mem_cons.mpr ⟨⟨?_, ?_, ?_⟩, List.forall_mem_singleton.mpr ⟨?_, ?_, ?_⟩⟩ <;>
      decide +kernel
  exact ⟨fits, evaluate_mem_unit _ fits _⟩

/-- With one curve both forms of a fade agree at a progress and at its mirror image. They ease a phase that
is 0 just outside of the offset and 1 just in the middle; and if nothing is left between these, they step
from one end of the curve to the other. -/
theorem evaluate_fade (curve : Easing Rat) (offset : Rat) :
    (∀ progress, let opacity := (symmetric curve offset).evaluate progress
      (split curve curve offset).evaluate progress = opacity ∧
      (symmetric curve offset).evaluate (1 - progress) = opacity ∧
      (split curve curve offset).evaluate (1 - progress) = opacity) ∧
    (1 / 2 ^ 52 < 1 / 2 - offset → ∃ phase, IsFade offset phase ∧
      ∀ progress, (symmetric curve offset).evaluate progress = curve.evaluate (phase progress)) ∧
    (1 / 2 - offset ≤ 1 / 2 ^ 52 → ∀ progress, (symmetric curve offset).evaluate progress =
      if offset ≤ progress ∧ progress ≤ 1 - offset then curve.evaluate 1 else curve.evaluate 0) := by
  refine ⟨?_, ?_, ?_⟩
  · intro progress opacity
    have forms (p : Rat) :
        (split curve curve offset).evaluate p = (symmetric curve offset).evaluate p := by
      rw [evaluate_split, evaluate_symmetric, ite_self]
    have mirror : (symmetric curve offset).evaluate (1 - progress) = opacity := by
      rw [evaluate_symmetric, phase_mirror, ← evaluate_symmetric]
    exact ⟨forms progress, mirror, (forms (1 - progress)).trans mirror⟩
  · intro long
    exact ⟨phase offset, isFade_phase long, fun progress => evaluate_symmetric⟩
  · intro short progress
    rw [evaluate_symmetric, phase_of_short short, apply_ite curve.evaluate]

theorem evaluate_fade_fifth :
    (1 / 2 ^ 52 : Rat) < 1 / 2 - 1 / 5 ∧ (1 / 2 - 1 / 2 : Rat) ≤ 1 / 2 ^ 52 ∧
      (symmetric ⟨1, 0, 0, 1⟩ (1 / 5) : Opacity Rat).evaluate (17 / 20) = 0 ∧
      (split ⟨1, 0, 0, 1⟩ ⟨1, 0, 0, 1⟩ (1 / 2) : Opacity Rat).evaluate (1 / 2) = 1 := by
  have long : (1 / 2 ^ 52 : Rat) < 1 / 2 - 1 / 5 := by norm_num
  have short : (1 / 2 - 1 / 2 : Rat) ≤ 1 / 2 ^ 52 := by norm_num
  obtain ⟨phase, fade, eased⟩ := (evaluate_fade ⟨1, 0, 0, 1⟩ (1 / 5)).2.1 long
  obtain ⟨forms, -, step⟩ := evaluate_fade ⟨1, 0, 0, 1⟩ (1 / 2)
  refine ⟨long, short, ?_, ?_⟩
  · rw [eased, (fade.eq_zero_iff _).mpr (.inr (by norm_num))]
    decide +kernel
  · rw [(forms _).1, step short, if_pos (by norm_num)]
    decide +kernel

end Opacity

end ScrollTimeline
