import ScrollTimeline.Proofs.Track.LeadIn

/-!
How a track of waypoints moves.

In exact fractions every waypoint is passed at its share of the progress, and between two of them the curve
eases. Over any numbers, whatever the progress is, only waypoints of the list are read.
-/
set_option autoImplicit false

namespace ScrollTimeline

open Arithmetic

/-! ### Reading the list -/

namespace Waypoints

section

variable {α : Type} [Arithmetic α]

/-- Evaluation by places in the list; it fails where a place outside the list is read. -/
def evaluate? (values : List α) (curve : Easing α) (progress : α) : Option α :=
  match values.head?, values.getLast? with
  | some first, some last =>
    if progress ≤ 0.0 then some first
    else if 1.0 ≤ progress then some last
    else
      let legs := values.length - 1
      if legs = 0 then some first
      else
        let scaled := progress * (legs : α)
        let leg := legOf legs scaled
        match values[leg]?, values[leg + 1]? with
        | some start, some stop => some (blend start stop (curve.evaluate (scaled - (leg : α))))
        | _, _ => none
  | _, _ => some 0.0

theorem legOf_lt {legs : Nat} (some : 0 < legs) (scaled : α) : legOf legs scaled < legs := by
  rw [legOf]
  omega

theorem evaluate?_eq (values : List α) (curve : Easing α) (progress : α) :
    evaluate? values curve progress = some (evaluate values curve progress) := by
  match values with
  | [] => rfl
  | [only] =>
    rw [evaluate?, evaluate]
    simp
  | first :: second :: rest =>
    have inside : legOf (rest.length + 1) (progress * ((rest.length + 1 : Nat) : α)) <
        rest.length + 1 := legOf_lt (Nat.succ_pos _) _
    have start : legOf (rest.length + 1) (progress * ((rest.length + 1 : Nat) : α)) <
        (first :: second :: rest).length := by
      simp only [List.length_cons]
      omega
    have stop : legOf (rest.length + 1) (progress * ((rest.length + 1 : Nat) : α)) + 1 <
        (first :: second :: rest).length := by
      simp only [List.length_cons]
      omega
    rw [evaluate?, evaluate]
    simp only [List.head?_cons, List.getLast?_eq_some_getLast (List.cons_ne_nil _ _), List.length_cons,
      Nat.add_sub_cancel, Nat.succ_ne_zero, if_false]
    split
    · rfl
    split
    · rfl
    simp only [List.getElem?_eq_getElem start, List.getElem?_eq_getElem stop]
    rfl

end

/-! ### In exact fractions -/

variable {values : List Rat} (curve : Easing Rat) {progress : Rat}

theorem evaluate_of_before (several : 2 ≤ values.length) (before : progress ≤ 0) :
    values.head? = some (evaluate values curve progress) := by
  match values, several with
  | first :: second :: rest, _ =>
    rw [evaluate, zero_rat]
    simp [before]

theorem evaluate_of_after (several : 2 ≤ values.length) (after : 1 ≤ progress) :
    values.getLast? = some (evaluate values curve progress) := by
  match values, several with
  | first :: second :: rest, _ =>
    have positive : ¬ progress ≤ 0 := not_le.mpr (zero_lt_one.trans_le after)
    rw [evaluate, zero_rat, one_rat, if_neg positive, if_pos after]
    exact List.getLast?_eq_some_getLast _

theorem evaluate_clamp (several : 2 ≤ values.length) :
    evaluate values curve (max 0 (min 1 progress)) = evaluate values curve progress := by
  rcases le_or_gt progress 0 with early | after
  · have first := evaluate_of_before curve several early
    rw [min_eq_right (early.trans zero_le_one), max_eq_left early]
    exact Option.some.inj ((evaluate_of_before curve several le_rfl).symm.trans first)
  rcases le_or_gt 1 progress with late | before
  · have last := evaluate_of_after curve several late
    rw [min_eq_left late, max_eq_right zero_le_one]
    exact Option.some.inj ((evaluate_of_after curve several le_rfl).symm.trans last)
  · rw [min_eq_right before.le, max_eq_right after.le]

section

variable {legs k : Nat} (count : values.length = legs + 1)

include count

theorem stop_le_one (several : 0 < legs) (inside : k + 1 < values.length) :
    ((k : Rat) + 1) / legs ≤ 1 := by
  have positive : (0 : Rat) < legs := Nat.cast_pos.mpr several
  have last : k + 1 ≤ legs := by omega
  exact (div_le_one positive).mpr (by exact_mod_cast last)

theorem evaluate_of_leg (inside : k + 1 < values.length) (after : 0 < progress) (before : progress < 1)
    (low : (k : Rat) ≤ progress * legs) (high : progress * legs < k + 1) :
    evaluate values curve progress =
      values[k] + (values[k + 1] - values[k]) * curve.evaluate (progress * legs - k) := by
  match values, count, inside with
  | first :: second :: rest, count, inside =>
    obtain rfl : rest.length + 1 = legs := by simpa using count
    have leg : k = legOf (rest.length + 1) (progress * ((rest.length + 1 : Nat) : Rat)) := by
      rw [legOf, floorNat_rat low high]
      simp only [List.length_cons] at inside
      omega
    subst leg
    rw [evaluate, zero_rat, one_rat, if_neg (not_le.mpr after), if_neg (not_le.mpr before), between,
      blend_rat]

theorem evaluate_of_waypoint (several : 0 < legs) (inside : k < values.length) :
    evaluate values curve (k / legs) = values[k] := by
  have positive : (0 : Rat) < legs := Nat.cast_pos.mpr several
  have whole : (k : Rat) / legs * legs = k := div_mul_cancel₀ _ positive.ne'
  have many : 2 ≤ values.length := by omega
  rcases Nat.eq_zero_or_pos k with rfl | after
  · have start : ((0 : Nat) : Rat) / legs ≤ 0 := by simp
    have first := evaluate_of_before curve many start
    rw [List.head?_eq_getElem?, List.getElem?_eq_getElem inside] at first
    exact (Option.some.inj first).symm
  rcases Nat.lt_or_ge k legs with before | last
  · have leg := evaluate_of_leg curve count (by omega : k + 1 < values.length)
      (div_pos (Nat.cast_pos.mpr after) positive)
      ((div_lt_one positive).mpr (Nat.cast_lt.mpr before)) whole.ge (by linarith)
    rw [leg, whole, sub_self, Easing.evaluate_zero, mul_zero, add_zero]
  · obtain rfl : k = legs := by omega
    have stop : 1 ≤ (k : Rat) / k := (div_self positive.ne').ge
    have final := evaluate_of_after curve many stop
    rw [List.getLast?_eq_getElem?, count, Nat.add_sub_cancel, List.getElem?_eq_getElem inside] at final
    exact (Option.some.inj final).symm

theorem mean_of_leg (straight : curve.isIdentity = true) (several : 0 < legs)
    (inside : k + 1 < values.length) (low : (k : Rat) / legs ≤ progress)
    (high : progress ≤ (k + 1) / legs) :
    min values[k] values[k + 1] ≤ evaluate values curve progress ∧
      evaluate values curve progress ≤ max values[k] values[k + 1] := by
  have positive : (0 : Rat) < legs := Nat.cast_pos.mpr several
  rcases low.eq_or_lt with rfl | behind
  · rw [evaluate_of_waypoint curve count several (by omega : k < values.length)]
    exact ⟨min_le_left _ _, le_max_left _ _⟩
  rcases high.eq_or_lt with rfl | short
  · have next := evaluate_of_waypoint curve count several inside
    rw [Nat.cast_add, Nat.cast_one] at next
    rw [next]
    exact ⟨min_le_right _ _, le_max_right _ _⟩
  have scaledLow : (k : Rat) < progress * legs := (div_lt_iff₀ positive).mp behind
  have scaledHigh : progress * legs < k + 1 := (lt_div_iff₀ positive).mp short
  have after : 0 < progress := lt_of_le_of_lt (by positivity) behind
  have before : progress < 1 := short.trans_le (stop_le_one count several inside)
  rw [evaluate_of_leg curve count inside after before scaledLow.le scaledHigh, Easing.evaluate,
    if_pos straight]
  generalize values[k] = a, values[k + 1] = b
  have share : 0 ≤ progress * legs - k ∧ progress * legs - k ≤ 1 := ⟨by linarith, by linarith⟩
  generalize progress * legs - k = t at share
  rcases le_total a b with up | down
  · have rise : 0 ≤ (b - a) * t := mul_nonneg (sub_nonneg.mpr up) share.1
    have whole : (b - a) * t ≤ b - a := mul_le_of_le_one_right (sub_nonneg.mpr up) share.2
    rw [min_eq_left up, max_eq_right up]
    constructor <;> linarith
  · have fall : 0 ≤ (a - b) * t := mul_nonneg (sub_nonneg.mpr down) share.1
    have whole : (a - b) * t ≤ a - b := mul_le_of_le_one_right (sub_nonneg.mpr down) share.2
    rw [min_eq_right down, max_eq_left down]
    constructor <;> linarith

end

/-- How an element moves along `n` waypoints, as a function of its progress: from one to the next in each
of `n - 1` equal shares of the progress, and not at all outside of its lifetime. -/
structure Visits (values : List Rat) (curve : Easing Rat) (position : Rat → Rat) : Prop where
  hits : ∀ k (inside : k < values.length), position (k / (values.length - 1)) = values[k]
  eases : ∀ k (inside : k + 1 < values.length) (progress : Rat),
    k / (values.length - 1 : Rat) < progress → progress < (k + 1) / (values.length - 1) →
      position progress = values[k] +
        (values[k + 1] - values[k]) * curve.evaluate (progress * (values.length - 1) - k)
  waits : ∀ progress ≤ 0, values.head? = some (position progress)
  stays : ∀ progress, 1 ≤ progress → values.getLast? = some (position progress)
  /-- Without easing it stands between the two waypoints; outside of its lifetime these are the first two
  and the last two. -/
  between : curve.isIdentity = true → ∀ k (inside : k + 1 < values.length) (progress : Rat),
    k / (values.length - 1 : Rat) ≤ max 0 (min 1 progress) →
      max 0 (min 1 progress) ≤ (k + 1) / (values.length - 1 : Rat) →
        min values[k] values[k + 1] ≤ position progress ∧
          position progress ≤ max values[k] values[k + 1]

theorem visits (several : 2 ≤ values.length) : Visits values curve (evaluate values curve) := by
  obtain ⟨legs, count⟩ : ∃ legs, values.length = legs + 1 := ⟨values.length - 1, by omega⟩
  have some : 0 < legs := by omega
  have positive : (0 : Rat) < legs := Nat.cast_pos.mpr some
  have shares : (values.length : Rat) - 1 = legs := by
    rw [count, Nat.cast_add, Nat.cast_one, add_sub_cancel_right]
  constructor
  case hits =>
    intro k inside
    rw [shares]
    exact evaluate_of_waypoint curve count some inside
  case eases =>
    intro k inside progress behind short
    rw [shares] at behind short ⊢
    have after : 0 < progress := lt_of_le_of_lt (by positivity) behind
    have before : progress < 1 := short.trans_le (stop_le_one count some inside)
    exact evaluate_of_leg curve count inside after before ((div_lt_iff₀ positive).mp behind).le
      ((lt_div_iff₀ positive).mp short)
  case waits => exact fun progress before => evaluate_of_before curve several before
  case stays => exact fun progress after => evaluate_of_after curve several after
  case between =>
    intro straight k inside progress low high
    rw [shares] at low high
    rw [← evaluate_clamp curve several]
    exact mean_of_leg curve count straight some inside low high

end Waypoints

/-- A track of at least two waypoints visits them, however long the element lives and whatever the curve
is. And over any numbers, at any progress and for any number of waypoints, all places that are read are in
the list. -/
theorem evaluate_waypoints :
    (∀ (values : List Rat) (curve : Easing Rat) (duration : Rat), 2 ≤ values.length →
      ∃ position, Waypoints.Visits values curve position ∧
        ∀ progress, (Track.waypoints values curve).evaluate progress duration =
          some (position progress)) ∧
    ∀ (α : Type) [Arithmetic α] (values : List α) (curve : Easing α) (progress duration : α),
      (Track.waypoints values curve).evaluate progress duration =
        Waypoints.evaluate? values curve progress ∧
      (Waypoints.evaluate? values curve progress).isSome = true := by
  constructor
  · intro values curve duration several
    exact ⟨_, Waypoints.visits curve several, fun _ => rfl⟩
  · intro α _ values curve progress duration
    rw [Waypoints.evaluate?_eq]
    exact ⟨rfl, rfl⟩

theorem evaluate_waypoints_third :
    2 ≤ [(0 : Rat), 10, 40, 30].length ∧
      (Track.waypoints [(0 : Rat), 10, 40, 30] ⟨1, 0, 0, 1⟩).evaluate (1 / 3) 100 = some 10 := by
  have several : 2 ≤ [(0 : Rat), 10, 40, 30].length := by decide
  obtain ⟨position, visits, evaluates⟩ :=
    evaluate_waypoints.1 [(0 : Rat), 10, 40, 30] ⟨1, 0, 0, 1⟩ 100 several
  have second := visits.hits 1 (by decide)
  have place : ((1 : Nat) : Rat) / (([(0 : Rat), 10, 40, 30].length : Rat) - 1) = 1 / 3 := by norm_num
  rw [place] at second
  rw [evaluates, second]
  exact ⟨several, rfl⟩

end ScrollTimeline
