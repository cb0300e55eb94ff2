import Mathlib.Data.List.Pairwise
import Mathlib.Data.List.Nodup
import ScrollTimeline.Proofs.Number.Lawful
import ScrollTimeline.Track.Resolution

/-!
The segments of a custom timeline, sorted.

Segments of different clauses never tie, so putting them one by one into their places gives a strict
order, the latest first.
-/
set_option autoImplicit false

namespace ScrollTimeline.Segment

open Arithmetic

variable {α : Type} [Arithmetic α]

/-- Ends later, or at the same time but was written later. -/
def Later (a b : Segment α) : Prop :=
  order b.endTime a.endTime = .lt ∨ order b.endTime a.endTime = .eq ∧ b.clause < a.clause

theorem later_of_precedes {a b : Segment α} (different : a.clause ≠ b.clause)
    (first : a.precedes b = true) : a.Later b := by
  rw [precedes] at first
  cases between : order b.endTime a.endTime with
  | lt => exact .inl between
  | eq =>
    rw [between] at first
    have ordered : b.clause ≤ a.clause := of_decide_eq_true first
    exact .inr ⟨between, by omega⟩
  | gt =>
    rw [between] at first
    cases first

theorem place_perm (a : Segment α) (segments : List (Segment α)) :
    (a.place segments).Perm (a :: segments) := by
  induction segments with
  | nil => exact .refl _
  | cons b rest ih =>
    rw [place]
    split
    · exact .refl _
    · exact (ih.cons b).trans (.swap a b rest)

theorem latestFirst_perm (segments : List (Segment α)) :
    (latestFirst segments).Perm segments := by
  induction segments with
  | nil => exact .refl _
  | cons a rest ih => exact (place_perm a _).trans (ih.cons a)

section

variable [LawfulArithmetic α]

instance : Std.TransCmp (order : α → α → Ordering) := LawfulArithmetic.transCmp_order

theorem later_of_not_precedes {a b : Segment α} (second : ¬ a.precedes b = true) : b.Later a := by
  rw [precedes] at second
  have back : order a.endTime b.endTime = (order b.endTime a.endTime).swap :=
    Std.OrientedCmp.eq_swap
  cases between : order b.endTime a.endTime with
  | lt =>
    rw [between] at second
    exact absurd rfl second
  | eq =>
    rw [between] at second back
    have ordered : ¬ b.clause ≤ a.clause := fun below => second (decide_eq_true below)
    exact .inr ⟨back, by omega⟩
  | gt =>
    rw [between] at back
    exact .inl back

theorem Later.trans {a b c : Segment α} (first : a.Later b) (second : b.Later c) : a.Later c := by
  rcases first with before | ⟨same, lower⟩ <;> rcases second with before' | ⟨same', lower'⟩
  · exact .inl (Std.TransCmp.lt_trans before' before)
  · exact .inl (Std.TransCmp.lt_of_eq_of_lt same' before)
  · exact .inl (Std.TransCmp.lt_of_lt_of_eq before' same)
  · exact .inr ⟨Std.TransCmp.eq_trans same' same, lower'.trans lower⟩

theorem pairwise_place {a : Segment α} {segments : List (Segment α)}
    (sorted : segments.Pairwise Later) (fresh : ∀ b ∈ segments, a.clause ≠ b.clause) :
    (a.place segments).Pairwise Later := by
  induction segments with
  | nil => exact List.pairwise_singleton ..
  | cons b rest ih =>
    obtain ⟨after, sortedRest⟩ := List.pairwise_cons.mp sorted
    obtain ⟨different, freshRest⟩ := List.forall_mem_cons.mp fresh
    rw [place]
    split
    · rename_i first
      have ahead : a.Later b := later_of_precedes different first
      refine List.pairwise_cons.mpr ⟨?_, sorted⟩
      intro c member
      rcases List.mem_cons.mp member with rfl | later
      · exact ahead
      · exact ahead.trans (after c later)
    · rename_i second
      refine List.pairwise_cons.mpr ⟨?_, ih sortedRest freshRest⟩
      intro c member
      rcases List.mem_cons.mp ((place_perm a rest).mem_iff.mp member) with rfl | later
      · exact later_of_not_precedes second
      · exact after c later

theorem pairwise_latestFirst {segments : List (Segment α)}
    (distinct : (segments.map clause).Nodup) : (latestFirst segments).Pairwise Later := by
  induction segments with
  | nil => exact .nil
  | cons a rest ih =>
    obtain ⟨fresh, distinctRest⟩ := List.nodup_cons.mp distinct
    refine pairwise_place (ih distinctRest) ?_
    intro b member same
    exact fresh (same ▸ List.mem_map_of_mem ((latestFirst_perm rest).mem_iff.mp member))

end

end ScrollTimeline.Segment
