import ScrollTimeline.Proofs.Track.Motion

/-!
How a custom timeline moves before any of its clauses has ended, in exact fractions.

Up to time 0 the element stands where the timeline starts. From then on the clause written first moves
it, even if another one ends earlier: the earliest clause has the lead-in to itself only if it is written
first as well.
-/
set_option autoImplicit false

namespace ScrollTimeline

open Arithmetic

/-! ### The clause written first -/

namespace Timeline

section

variable {α : Type} (best : Segment α) (segments : List (Segment α))

theorem firstWritten_mem : firstWritten best segments ∈ best :: segments := by
  induction segments generalizing best with
  | nil => exact List.mem_cons_self
  | cons segment rest ih =>
    rw [firstWritten]
    split
    · exact List.mem_cons_of_mem best (ih segment)
    · rcases List.mem_cons.mp (ih best) with same | later
      · exact List.mem_cons.mpr (.inl same)
      · exact List.mem_cons_of_mem best (List.mem_cons_of_mem segment later)

theorem clause_firstWritten_le :
    ∀ segment ∈ best :: segments, (firstWritten best segments).clause ≤ segment.clause := by
  induction segments generalizing best with
  | nil => simp [firstWritten]
  | cons segment rest ih =>
    intro other member
    rw [firstWritten]
    by_cases before : segment.clause < best.clause
    · rw [if_pos before]
      obtain ⟨least, leastRest⟩ := List.forall_mem_cons.mp (ih segment)
      rcases List.mem_cons.mp member with rfl | member
      · exact least.trans before.le
      rcases List.mem_cons.mp member with rfl | later
      · exact least
      · exact leastRest other later
    · rw [if_neg before]
      obtain ⟨least, leastRest⟩ := List.forall_mem_cons.mp (ih best)
      rcases List.mem_cons.mp member with rfl | member
      · exact least
      rcases List.mem_cons.mp member with rfl | later
      · exact least.trans (not_lt.mp before)
      · exact leastRest other later

end

section

variable {α : Type} [Arithmetic α] {elapsed : α}

theorem afterEnd?_eq_none (active : Segment α) {earlier : List (Segment α)}
    (pending : ∀ segment ∈ earlier, ¬ segment.endTime ≤ elapsed) :
    afterEnd? elapsed active earlier = none := by
  induction earlier generalizing active with
  | nil => rfl
  | cons segment earlier ih =>
    obtain ⟨waits, pendingRest⟩ := List.forall_mem_cons.mp pending
    rw [afterEnd?, if_neg waits]
    exact ih segment pendingRest

/-- As long as no segment has ended, one moves away from the start: the one whose clause was written
before all others. -/
theorem evaluate_eq_ease_first (initial : α) {segments : List (Segment α)} {first : Segment α}
    (member : first ∈ segments) (distinct : (segments.map Segment.clause).Nodup)
    (least : ∀ segment ∈ segments, first.clause ≤ segment.clause)
    (pending : ∀ segment ∈ segments, ¬ segment.endTime ≤ elapsed) :
    evaluate initial segments elapsed = ease first initial (phase elapsed 0.0 first.endTime) := by
  cases segments with
  | nil => simp at member
  | cons latest earlier =>
    obtain ⟨waits, pendingRest⟩ := List.forall_mem_cons.mp pending
    have found : firstWritten latest earlier = first := by
      refine List.inj_on_of_nodup_map distinct (firstWritten_mem latest earlier) member ?_
      exact le_antisymm (clause_firstWritten_le latest earlier first member)
        (least _ (firstWritten_mem latest earlier))
    rw [evaluate, if_neg waits, afterEnd?_eq_none latest pendingRest]
    dsimp only
    rw [found]

end

variable {elapsed : Rat}

theorem phase_of_nonpos {stop : Rat} (early : elapsed ≤ 0) (pending : elapsed < stop) :
    phase elapsed 0 stop = 0 := by
  rw [phase, zero_rat]
  split
  · exact if_neg (not_le.mpr pending)
  · rename_i apart
    have positive : 0 < stop := not_le.mp apart
    rw [clampUnit, zero_rat, one_rat, sub_zero, sub_zero]
    exact clamp_of_le zero_le_one (div_nonpos_of_nonpos_of_nonneg early positive.le)

end Timeline

theorem Easing.evaluate_zero (curve : Easing Rat) : curve.evaluate 0 = 0 := by
  rw [evaluate, zero_rat]
  simp

/-! ### Before the first end -/

namespace Clause.Authored

variable {α : Type} [Arithmetic α] {lookup : Lookup α} {axis : Axis} {enterAt : α} {index : Nat}
  {previousTime previousStop : α} {clauses : List Clause} {rows : List (Segment α)}

theorem clause_head_le {first : Segment α}
    (authored : Authored lookup axis enterAt index previousTime previousStop clauses rows)
    (head : rows.head? = some first) : ∀ row ∈ rows, first.clause ≤ row.clause := by
  intro row member
  obtain ⟨place, inside, rfl⟩ := List.getElem_of_mem member
  have nonempty : 0 < rows.length := by omega
  obtain ⟨_, _, _, _, yields⟩ := authored.yields_getElem inside
  obtain ⟨_, _, _, _, yieldsFirst⟩ := authored.yields_getElem nonempty
  have same : rows[0] = first := by
    rw [List.head?_eq_getElem?, List.getElem?_eq_getElem nonempty] at head
    exact Option.some.inj head
  rw [← same, yields.number, yieldsFirst.number]
  omega

theorem endTime_of_literal
    (authored : Authored lookup axis enterAt index previousTime previousStop clauses rows)
    {place : Nat} (inside : place < rows.length) {clause : Clause} {n : Numeral}
    (there : clauses[place]? = some clause) (literal : clause.time = .literal n) :
    rows[place].endTime = n.value := by
  obtain ⟨other, _, _, here, yields⟩ := authored.yields_getElem inside
  obtain rfl := Option.some.inj (here.symm.trans there)
  have means := yields.endTime
  rw [literal] at means
  generalize rows[place].endTime = endTime at means
  cases means
  rfl

end Clause.Authored

namespace Segment

structure Earliest (rows : List (Segment Rat)) (row : Segment Rat) : Prop where
  member : row ∈ rows
  least : ∀ other ∈ rows, row.key ≤ other.key

theorem exists_earliest {rows : List (Segment Rat)} (nonempty : rows ≠ []) :
    ∃ row, Earliest rows row := by
  obtain ⟨row, member, least⟩ :=
    Multiset.exists_min_image (s := (rows : Multiset (Segment Rat))) key (by simpa using nonempty)
  exact ⟨row, member, least⟩

theorem Earliest.endTime_le {rows : List (Segment Rat)} {row : Segment Rat}
    (earliest : Earliest rows row) : ∀ other ∈ rows, row.endTime ≤ other.endTime := by
  intro other member
  exact Prod.Lex.monotone_fst _ _ (earliest.least other member)

end Segment

/-- Before any clause has ended, an element waits at the start of its timeline until time 0, and then is on
its way from there to the end of the clause written first, eased over the time up to that end. If the
clause that ends first is written first, it is the one that moves the element. -/
theorem evaluate_before_end (lookup : Lookup Rat) (axis : Axis) (enterAt : Rat) (initial : Scalar)
    (clauses : List Clause) (track : Track Rat)
    (accepted : AxisArg.resolve lookup axis enterAt (.timeline initial clauses) = .ok track) :
    ∃ start rows, initial.Means lookup axis start ∧
      Timeline.Authored lookup axis enterAt start clauses rows ∧
      ∀ first, rows.head? = some first → ∃ earliest, Segment.Earliest rows earliest ∧
        ∀ progress duration : Rat, progress * duration < earliest.endTime →
          let elapsed := progress * duration
          (elapsed ≤ 0 → track.evaluate progress duration = some start) ∧
          (0 < elapsed → track.evaluate progress duration =
            some (start + (first.endPos - start) *
              first.easing.evaluate (elapsed / first.endTime))) := by
  obtain ⟨start, rows, started, authored, rfl⟩ := Timeline.exists_authored accepted
  refine ⟨start, rows, started, authored, ?_⟩
  intro first head
  have member : first ∈ rows := List.mem_of_mem_head? head
  obtain ⟨earliest, is⟩ := Segment.exists_earliest (List.ne_nil_of_mem member)
  refine ⟨earliest, is, ?_⟩
  intro progress duration early elapsed
  have waits : ∀ row ∈ rows, elapsed < row.endTime := fun row there =>
    early.trans_le (is.endTime_le row there)
  have sorted := Segment.latestFirst_perm rows
  have moves : Timeline.evaluate start (Segment.latestFirst rows) elapsed =
      Timeline.ease first start (Timeline.phase elapsed 0.0 first.endTime) := by
    refine Timeline.evaluate_eq_ease_first start (sorted.mem_iff.mpr member) ?_ ?_ ?_
    · exact (sorted.map Segment.clause).nodup_iff.mpr authored.nodup_clause
    · intro row there
      exact authored.clause_head_le head row (sorted.mem_iff.mp there)
    · intro row there
      exact not_le.mpr (waits row (sorted.mem_iff.mp there))
  rw [Track.evaluate, moves, Timeline.ease_rat, zero_rat]
  refine ⟨?_, ?_⟩
  · intro before
    rw [Timeline.phase_of_nonpos before (waits first member), Easing.evaluate_zero, mul_zero, add_zero]
  · intro begun
    rw [Timeline.phase_rat begun.le (waits first member), sub_zero, sub_zero]

def lateFirst : List Clause :=
  [⟨.literal ⟨false, 40, 0⟩, none, .literal ⟨false, 10, 0⟩, none⟩,
    ⟨.literal ⟨false, 10, 0⟩, none, .literal ⟨false, 20, 0⟩, none⟩]

theorem evaluate_before_end_lateFirst :
    ∃ track, AxisArg.resolve nobody .x 0 (.timeline (.literal ⟨false, 0, 0⟩) lateFirst) = .ok track ∧
      ∃ start rows first earliest,
        Timeline.Authored nobody .x 0 start lateFirst rows ∧ rows.head? = some first ∧
        Segment.Earliest rows earliest ∧ (1/20 * 100 : Rat) < earliest.endTime ∧
        track.evaluate (1/20) 100 = some (start + (first.endPos - start) *
          first.easing.evaluate (1/20 * 100 / first.endTime)) := by
  cases accepted : AxisArg.resolve nobody .x 0 (.timeline (.literal ⟨false, 0, 0⟩) lateFirst) with
  | error problem =>
    have made : (AxisArg.resolve nobody .x 0 (.timeline (.literal ⟨false, 0, 0⟩) lateFirst)).isOk =
        true := by decide +kernel
    rw [accepted] at made
    cases made
  | ok track =>
    obtain ⟨start, rows, _, authored, moves⟩ := evaluate_before_end _ _ _ _ _ track accepted
    have length : rows.length = 2 := authored.length
    have inside : 0 < rows.length := by omega
    obtain ⟨earliest, is, law⟩ := moves rows[0] (List.head?_eq_getElem? ▸ List.getElem?_eq_getElem inside)
    have waits : (1/20 * 100 : Rat) < earliest.endTime := by
      obtain ⟨place, within, same⟩ := List.getElem_of_mem is.member
      rw [← same]
      rcases (by omega : place = 0 ∨ place = 1) with rfl | rfl
      · rw [authored.endTime_of_literal within rfl rfl]
        decide +kernel
      · rw [authored.endTime_of_literal within rfl rfl]
        decide +kernel
    exact ⟨track, rfl, start, rows, rows[0], earliest, authored,
      List.head?_eq_getElem? ▸ List.getElem?_eq_getElem inside, is, waits,
      (law _ _ waits).2 (by norm_num)⟩

/-- At time 5 of 10 the earlier clause has moved nothing. -/
theorem lead_in_lateFirst :
    ∃ track start rows earliest,
      AxisArg.resolve nobody .x 0 (.timeline (.literal ⟨false, 0, 0⟩) lateFirst) = .ok track ∧
      Timeline.Authored nobody .x 0 start lateFirst rows ∧ Segment.Earliest rows earliest ∧
      (0 : Rat) < 1/20 * 100 ∧ (1/20 * 100 : Rat) < earliest.endTime ∧
      track.evaluate (1/20) 100 ≠ some (start + (earliest.endPos - start) *
        earliest.easing.evaluate (1/20 * 100 / earliest.endTime)) := by
  let late : Segment Rat := ⟨0, 40, 0, 10, .linear⟩
  let early : Segment Rat := ⟨1, 10, 10, 20, .linear⟩
  have made : AxisArg.resolve nobody .x 0 (.timeline (.literal ⟨false, 0, 0⟩) lateFirst) =
      .ok (.custom 0 [late, early]) := by decide +kernel
  have resolved : Clause.resolveAll nobody .x 0 0 0.0 0 lateFirst = .ok [late, early] := by
    decide +kernel
  refine ⟨_, 0, [late, early], early, made, Clause.authored_of_resolveAll resolved, ⟨?_, ?_⟩,
    by norm_num, by decide +kernel, by decide +kernel⟩
  · exact List.mem_cons_of_mem late (List.mem_singleton_self early)
  · decide +kernel

end ScrollTimeline
