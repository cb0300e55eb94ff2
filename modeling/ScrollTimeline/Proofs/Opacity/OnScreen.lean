import ScrollTimeline.Proofs.Opacity.Fade
import ScrollTimeline.Proofs.Record.ClauseTimes

/-!
Fades and what is on screen, in exact fractions.

On an even rise an element has come fully into view after the fraction of its lifetime that its fades leave
out, and it starts to go out of view the same fraction before the end. So its fade is at its start just as
long as some of it is out of view, and at its height just when it is in the middle of the viewport.
-/
set_option autoImplicit false

namespace ScrollTimeline

/-! ### The directive that sets a fade -/

def Directive.fade? {α : Type} [Arithmetic α] (lookup : Lookup α) (offset : α) :
    Directive → Option (OpacityArg × Opacity α)
  | opacityEase arg => (arg.resolve lookup offset).toOption.map fun opacity => (arg, opacity)
  | _ => none

def fadeArg? {α : Type} [Arithmetic α] (lookup : Lookup α) (offset : α)
    (directives : List Directive) : Option OpacityArg :=
  (lastValue (Directive.fade? lookup offset) directives).map Prod.fst

inductive Opacity.Fades {α : Type} (offset : α) : Easing α → Easing α → Opacity α → Prop
  | symmetric (curve : Easing α) : Fades offset curve curve (.symmetric curve offset)
  | split (fadeIn fadeOut : Easing α) : Fades offset fadeIn fadeOut (.split fadeIn fadeOut offset)

section

variable {α : Type} [Arithmetic α] {lookup : Lookup α} {offset : α}

theorem Directive.opacity?_eq_map (directive : Directive) :
    directive.opacity? lookup offset = (directive.fade? lookup offset).map Prod.snd := by
  cases directive with
  | opacityEase arg =>
    rw [opacity?, fade?, Option.map_map]
    exact Option.map_id'.symm
  | _ => rfl

theorem resolve_of_fadeArg? {arg : OpacityArg} {directives : List Directive}
    (last : fadeArg? lookup offset directives = some arg) :
    ∃ opacity, arg.resolve lookup offset = .ok opacity ∧
      lastValue (Directive.opacity? lookup offset) directives = some opacity := by
  obtain ⟨⟨arg, opacity⟩, found, rfl⟩ := Option.map_eq_some_iff.mp last
  have values : Directive.opacity? lookup offset =
      fun directive => (directive.fade? lookup offset).map Prod.snd :=
    funext Directive.opacity?_eq_map
  obtain ⟨directive, _, sets⟩ := List.mem_filterMap.mp (List.mem_of_getLast? found)
  refine ⟨opacity, ?_, by rw [values, lastValue_map, found]; rfl⟩
  cases directive with
  | opacityEase other =>
    obtain ⟨value, made, same⟩ := Option.map_eq_some_iff.mp sets
    cases same
    dsimp only
    cases answer : arg.resolve lookup offset with
    | error problem =>
      rw [answer] at made
      cases made
    | ok other =>
      rw [answer] at made
      cases made
      rfl
  | _ => cases sets

theorem OpacityArg.exists_fades {arg : OpacityArg} {opacity : Opacity α} (own : arg.targets = [])
    (made : arg.resolve lookup offset = .ok opacity) :
    ∃ fadeIn fadeOut, opacity.Fades offset fadeIn fadeOut := by
  cases arg with
  | symmetric controls =>
    obtain ⟨curve, _, made⟩ := exists_of_bind made
    cases made
    exact ⟨curve, curve, .symmetric curve⟩
  | split first second =>
    obtain ⟨fadeIn, _, made⟩ := exists_of_bind made
    obtain ⟨fadeOut, _, made⟩ := exists_of_bind made
    cases made
    exact ⟨fadeIn, fadeOut, .split fadeIn fadeOut⟩
  | like target => cases own

end

/-! ### The even rise -/

theorem fadeOffset_eq {height : Rat} (low : 0 ≤ height) (high : height < 100) :
    fadeOffset false height = height / (100 + height) := by
  have whole : 0 < 100 + height := by linarith
  rw [fadeOffset, Bool.false_or, zero_rat, half_rat, viewportSpan_rat, lesser_rat]
  by_cases flat : height ≤ 0
  · rw [if_pos (decide_eq_true flat), le_antisymm flat low]
    norm_num
  · rw [if_neg (mt of_decide_eq_true flat), min_eq_left]
    rw [div_le_div_iff₀ whole two_pos]
    linarith

/-- Where the upper edge of an element is on an even rise. -/
def riseAt (height progress : Rat) : Rat := 100 - progress * (100 + height)

theorem Record.yAt_of_even {record : Record Rat} (rises : record.absolute = false)
    (even : record.positionCurve.isIdentity = true) (progress : Rat) :
    record.yAt progress = .vh (riseAt record.height progress) := by
  rw [yAt, rises, viewportSpan_rat, Easing.evaluate, if_pos even]
  rfl

section

variable {height : Rat} (low : 0 ≤ height) (progress : Rat)

include low

theorem le_offset_iff : progress ≤ height / (100 + height) ↔ 100 ≤ riseAt height progress + height := by
  rw [le_div_iff₀ (by linarith), riseAt]
  constructor <;> intro bound <;> linarith

theorem one_sub_offset_le_iff : 1 - height / (100 + height) ≤ progress ↔ riseAt height progress ≤ 0 := by
  have whole : 0 < 100 + height := by linarith
  have rest : 1 - height / (100 + height) = 100 / (100 + height) := by
    rw [one_sub_div whole.ne', add_sub_cancel_right]
  rw [rest, div_le_iff₀ whole, riseAt, sub_nonpos]

theorem riseAt_eq_middle_iff : riseAt height progress = (100 - height) / 2 ↔ progress = 1 / 2 := by
  have whole : 100 + height ≠ 0 := by linarith
  rw [riseAt]
  constructor
  · intro middle
    refine mul_right_cancel₀ whole ?_
    linarith
  · rintro rfl
    ring

end

/-- How the phase of a fade follows the box of an element, the upper edge of which is at `y`. -/
structure FollowsBox (height y progress phase : Rat) : Prop where
  eq_zero_iff : phase = 0 ↔ y ≤ 0 ∨ 100 ≤ y + height
  eq_one_iff : phase = 1 ↔ progress = 1 / 2
  middle_iff : y = (100 - height) / 2 ↔ progress = 1 / 2

theorem followsBox_phase {height : Rat} (low : 0 ≤ height)
    (long : 1 / 2 ^ 52 < 1 / 2 - height / (100 + height)) (progress : Rat) :
    FollowsBox height (riseAt height progress) progress
      (Opacity.phase (height / (100 + height)) progress) where
  eq_zero_iff := by
    rw [(Opacity.isFade_phase long).eq_zero_iff, le_offset_iff low, one_sub_offset_le_iff low, or_comm]
  eq_one_iff := (Opacity.isFade_phase long).eq_one_iff progress
  middle_iff := riseAt_eq_middle_iff low progress

/-- If an element rises evenly and is not as tall as the viewport, a fade of its own follows what is on
screen: it is at its start just while the element is not strictly inside the viewport, and at its height
just in the middle of the lifetime, when the element is in the middle of the viewport. -/
theorem fade_onScreen (entries : List Entry) (geometry : Geometry Rat) (options : CompileOptions)
    (report : Report Rat) (compiled : compile entries geometry options = .ok report)
    (index : Nat) (entry : Entry) (there : entries[index]? = some entry) (record : Record Rat)
    (stored : report.records[index]? = some record) (rises : record.absolute = false)
    (low : 0 ≤ record.height) (high : record.height < 100)
    (even : record.positionCurve.isIdentity = true) (arg : OpacityArg) :
    let offset := fadeOffset record.absolute record.height
    1 / 2 ^ 52 < 1 / 2 - offset →
    fadeArg? report.lookup offset (Script.written entry.directives) = some arg →
    arg.targets = [] →
    ∃ fadeIn fadeOut, record.opacity.Fades offset fadeIn fadeOut ∧
      ∀ progress, let phase := Opacity.phase offset progress
        record.opacityAt progress =
          .opacity ((if progress ≤ 1 / 2 then fadeIn else fadeOut).evaluate phase) ∧
        ∃ y, record.yAt progress = .vh y ∧ FollowsBox record.height y progress phase := by
  intro offset long last own
  have declares : record = (entry.prepare geometry options.idPrefix index).finish
      (Draft.declared report.lookup (Script.ofText entry.directives).absolute
        (entry.prepare geometry options.idPrefix index).offset
        (Script.written entry.directives)) :=
    report.record_eq_declared compiled there stored
  have offsets : (entry.prepare geometry options.idPrefix index).offset = offset := by
    change _ = fadeOffset record.absolute record.height
    rw [declares]
    rfl
  obtain ⟨opacity, resolves, sets⟩ := resolve_of_fadeArg? last
  have fades : record.opacity = opacity := by
    rw [declares, offsets]
    change (lastValue (Directive.opacity? report.lookup offset) _).getD .constant = opacity
    rw [sets]
    rfl
  obtain ⟨fadeIn, fadeOut, shape⟩ := OpacityArg.exists_fades own resolves
  refine ⟨fadeIn, fadeOut, fades ▸ shape, ?_⟩
  intro progress phase
  refine ⟨?_, _, record.yAt_of_even rises even progress, ?_⟩
  · rw [Record.opacityAt, fades]
    cases shape with
    | symmetric => rw [Opacity.evaluate_symmetric, ite_self]
    | split => rw [Opacity.evaluate_split]
  · have part : offset = record.height / (100 + record.height) :=
      (congrArg (fadeOffset · record.height) rises).trans (fadeOffset_eq low high)
    have follows := followsBox_phase low (part ▸ long) progress
    rwa [← part] at follows

def fading : List Entry :=
  [⟨some "a", "opacity-ease 1 0 0 1", 0⟩,
    ⟨some "b", "opacity-ease like a; opacity-ease 0.5 0 1 1 0 0 0.5 1; opacity-ease like c", 1⟩]

theorem fade_onScreen_quarter :
    ∃ report record, compile fading (Geometry.ofHeights (1000 : Rat) [0, 250]) .default = .ok report ∧
      report.records[1]? = some record ∧ record.absolute = false ∧ record.height = 25 ∧
      record.positionCurve = .linear ∧ fadeOffset false 25 = (1 / 5 : Rat) ∧
      (∃ arg, fadeArg? report.lookup (1 / 5 : Rat) (Script.written fading[1].directives) = some arg ∧
        arg.targets = []) ∧
      ∃ fadeIn fadeOut, record.opacity.Fades (1 / 5) fadeIn fadeOut ∧
        record.opacityAt (9 / 10) = .opacity (fadeOut.evaluate (Opacity.phase (1 / 5) (9 / 10))) ∧
        ∃ y, record.yAt (9 / 10) = .vh y ∧
          FollowsBox 25 y (9 / 10) (Opacity.phase (1 / 5) (9 / 10)) := by
  let arg : OpacityArg := .split ⟨⟨false, 5, -1⟩, ⟨false, 0, 0⟩, ⟨false, 1, 0⟩, ⟨false, 1, 0⟩⟩
    ⟨⟨false, 0, 0⟩, ⟨false, 0, 0⟩, ⟨false, 5, -1⟩, ⟨false, 1, 0⟩⟩
  have values : (compile fading (Geometry.ofHeights (1000 : Rat) [0, 250]) .default).map
      (fun report =>
        (report.records[1]?.map fun record => (record.absolute, record.height, record.positionCurve),
          fadeArg? report.lookup (1 / 5 : Rat) (Script.written fading[1].directives))) =
      .ok (some (false, 25, .linear), some arg) := by
    decide +kernel
  have fifth : fadeOffset false 25 = (1 / 5 : Rat) := by decide +kernel
  cases compiled : compile fading (Geometry.ofHeights (1000 : Rat) [0, 250]) .default with
  | error error =>
    rw [compiled] at values
    cases values
  | ok report =>
    rw [compiled] at values
    obtain ⟨fields, last⟩ := Prod.mk.inj (Except.ok.inj values)
    obtain ⟨record, stored, shape⟩ := Option.map_eq_some_iff.mp fields
    obtain ⟨rises, shape⟩ := Prod.mk.inj shape
    obtain ⟨height, even⟩ := Prod.mk.inj shape
    have offset : fadeOffset record.absolute record.height = 1 / 5 := by rw [rises, height, fifth]
    obtain ⟨fadeIn, fadeOut, fades, follows⟩ :=
      fade_onScreen fading _ .default report compiled 1 _ rfl record stored rises
        (by rw [height]; norm_num) (by rw [height]; norm_num) (by rw [even]; decide +kernel) arg
        (by rw [offset]; norm_num) (by rw [offset]; exact last) rfl
    obtain ⟨eased, box⟩ := follows (9 / 10)
    rw [offset] at fades eased box
    rw [height] at box
    rw [if_neg (by norm_num)] at eased
    exact ⟨report, record, rfl, stored, rises, height, even, fifth, ⟨arg, last, rfl⟩, fadeIn, fadeOut,
      fades, eased, box⟩

end ScrollTimeline
