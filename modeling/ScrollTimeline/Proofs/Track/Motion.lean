import Mathlib.Data.Prod.Lex
import ScrollTimeline.Proofs.Record.Window
import ScrollTimeline.Proofs.Track.Authored

/-!
How a custom timeline moves, in exact fractions.

Once a clause has ended, the element is on its way to the end of the clause that ends next. Which clause
that is depends on their times alone, and on the order of writing where times are equal.
-/
set_option autoImplicit false

namespace ScrollTimeline

open Arithmetic

/-! ### From one segment to the next -/

namespace Timeline

section

variable {α : Type} [Arithmetic α] {elapsed : α}

/-- The search stops at the first segment that has ended; the one in front of it moves. -/
theorem afterEnd?_eq {above below earlier : List (Segment α)} {first active ended : Segment α}
    (split : first :: earlier = above ++ active :: ended :: below)
    (pending : ∀ segment ∈ above ++ [active], ¬ segment.endTime ≤ elapsed)
    (done : ended.endTime ≤ elapsed) :
    afterEnd? elapsed first earlier =
      some (ease active active.startPos (phase elapsed ended.endTime active.endTime)) := by
  induction above generalizing first earlier with
  | nil =>
    obtain ⟨rfl, rfl⟩ := List.cons.inj split
    rw [afterEnd?, if_pos done]
  | cons latest above ih =>
    rw [List.cons_append] at split pending
    obtain ⟨rfl, rest⟩ := List.cons.inj split
    obtain ⟨_, pendingRest⟩ := List.forall_mem_cons.mp pending
    cases above with
    | nil =>
      rw [rest, List.nil_append, afterEnd?,
        if_neg (pendingRest active (List.mem_singleton_self active))]
      exact ih rfl pendingRest
    | cons second above =>
      rw [rest, List.cons_append, afterEnd?, if_neg (pendingRest second List.mem_cons_self)]
      exact ih rfl pendingRest

theorem evaluate_eq_ease (initial : α) {above below : List (Segment α)} {active ended : Segment α}
    (pending : ∀ segment ∈ above ++ [active], ¬ segment.endTime ≤ elapsed)
    (done : ended.endTime ≤ elapsed) :
    evaluate initial (above ++ active :: ended :: below) elapsed =
      ease active active.startPos (phase elapsed ended.endTime active.endTime) := by
  cases split : above ++ active :: ended :: below with
  | nil => simp at split
  | cons first earlier =>
    have later : ¬ first.endTime ≤ elapsed := by
      refine pending first ?_
      cases above with
      | nil =>
        obtain ⟨rfl, _⟩ := List.cons.inj split
        exact List.mem_singleton_self _
      | cons second above =>
        obtain ⟨rfl, _⟩ := List.cons.inj split
        exact List.mem_cons_self
    rw [evaluate, if_neg later, afterEnd?_eq split.symm pending done]

theorem exists_first_ended {segments : List (Segment α)}
    (begun : ∃ segment ∈ segments, segment.endTime ≤ elapsed) :
    ∃ above ended below, segments = above ++ ended :: below ∧ ended.endTime ≤ elapsed ∧
      ∀ segment ∈ above, ¬ segment.endTime ≤ elapsed := by
  cases found : segments.find? fun segment => segment.endTime ≤ elapsed with
  | none =>
    obtain ⟨segment, member, done⟩ := begun
    exact absurd (decide_eq_true done) (List.find?_eq_none.mp found segment member)
  | some ended =>
    obtain ⟨done, above, below, split, pending⟩ := List.find?_eq_some_iff_append.mp found
    refine ⟨above, ended, below, split, of_decide_eq_true done, ?_⟩
    intro segment member
    simpa using pending segment member

end

variable {elapsed : Rat}

theorem phase_rat {start stop : Rat} (started : start ≤ elapsed) (pending : elapsed < stop) :
    phase elapsed start stop = (elapsed - start) / (stop - start) := by
  have apart : start < stop := lt_of_le_of_lt started pending
  have span : 0 < stop - start := sub_pos.mpr apart
  rw [phase, if_neg (not_le.mpr apart), clampUnit, zero_rat, one_rat]
  refine clamp_of_mem ?_ ?_
  · exact div_nonneg (sub_nonneg.mpr started) span.le
  · exact (div_le_one span).mpr (sub_le_sub_right pending.le start)

theorem ease_rat (segment : Segment Rat) (origin t : Rat) :
    ease segment origin t = origin + (segment.endPos - origin) * segment.easing.evaluate t := by
  rw [ease, blend_rat]

end Timeline

/-! ### The order of clauses -/

namespace Segment

/-- Clauses are ordered by their times, and those with equal times as they are written. -/
def key (row : Segment Rat) : Rat ×ₗ Nat := toLex (row.endTime, row.clause)

theorem later_iff_key_lt (a b : Segment Rat) : a.Later b ↔ b.key < a.key := by
  have compared : order b.endTime a.endTime = if b.endTime < a.endTime then .lt
      else if a.endTime < b.endTime then .gt else .eq := rfl
  rw [key, key, Prod.Lex.toLex_lt_toLex, Later, compared]
  rcases lt_trichotomy b.endTime a.endTime with before | same | after
  · simp [before]
  · simp [same]
  · simp [after, after.not_gt, after.ne']

structure LastEnded (rows : List (Segment Rat)) (elapsed : Rat) (row : Segment Rat) : Prop where
  member : row ∈ rows
  ended : row.endTime ≤ elapsed
  greatest : ∀ other ∈ rows, other.endTime ≤ elapsed → other.key ≤ row.key

structure NextToEnd (rows : List (Segment Rat)) (elapsed : Rat) (row : Segment Rat) : Prop where
  member : row ∈ rows
  pending : elapsed < row.endTime
  least : ∀ other ∈ rows, elapsed < other.endTime → row.key ≤ other.key

theorem lastEnded_of_split {rows above below : List (Segment Rat)} {elapsed : Rat}
    {ended : Segment Rat} (members : ∀ row, row ∈ rows ↔ row ∈ above ++ ended :: below)
    (ordered : (above ++ ended :: below).Pairwise Later)
    (pending : ∀ row ∈ above, ¬ row.endTime ≤ elapsed) (done : ended.endTime ≤ elapsed) :
    LastEnded rows elapsed ended := by
  refine ⟨(members ended).mpr List.mem_append_cons_self, done, ?_⟩
  intro other member passed
  rcases List.mem_append.mp ((members other).mp member) with before | after
  · exact absurd passed (pending other before)
  rcases List.mem_cons.mp after with rfl | after
  · exact le_rfl
  · have later := List.rel_of_pairwise_cons (List.pairwise_append.mp ordered).2.1 after
    exact ((later_iff_key_lt _ _).mp later).le

theorem nextToEnd_of_split {rows above below : List (Segment Rat)} {elapsed : Rat}
    {active : Segment Rat} (members : ∀ row, row ∈ rows ↔ row ∈ above ++ active :: below)
    (ordered : (above ++ active :: below).Pairwise Later) (pending : elapsed < active.endTime)
    (done : ∀ row ∈ below, row.endTime ≤ elapsed) : NextToEnd rows elapsed active := by
  refine ⟨(members active).mpr List.mem_append_cons_self, pending, ?_⟩
  intro other member ahead
  rcases List.mem_append.mp ((members other).mp member) with before | after
  · have later := (List.pairwise_append.mp ordered).2.2 other before active List.mem_cons_self
    exact ((later_iff_key_lt _ _).mp later).le
  rcases List.mem_cons.mp after with rfl | after
  · exact le_rfl
  · exact absurd ahead (not_lt.mpr (done other after))

theorem endTime_le_of_ordered {below : List (Segment Rat)} {ended : Segment Rat}
    (ordered : (ended :: below).Pairwise Later) :
    ∀ row ∈ ended :: below, row.endTime ≤ ended.endTime := by
  intro row member
  rcases List.mem_cons.mp member with rfl | after
  · exact le_rfl
  · have later := (later_iff_key_lt _ _).mp (List.rel_of_pairwise_cons ordered after)
    exact Prod.Lex.monotone_fst _ _ later.le

end Segment

/-- From the end of the first clause on, an element is on its way from the start of the clause that ends
next to its end, eased over the time since the last end; after the last clause it stays. -/
theorem evaluate_after_end (lookup : Lookup Rat) (axis : Axis) (enterAt : Rat) (initial : Scalar)
    (clauses : List Clause) (track : Track Rat)
    (accepted : AxisArg.resolve lookup axis enterAt (.timeline initial clauses) = .ok track) :
    ∃ start rows, initial.Means lookup axis start ∧
      Timeline.Authored lookup axis enterAt start clauses rows ∧
      ∀ progress duration : Rat, (∃ row ∈ rows, row.endTime ≤ progress * duration) →
        let elapsed := progress * duration
        ∃ ended, Segment.LastEnded rows elapsed ended ∧
          ((∀ row ∈ rows, row.endTime ≤ elapsed) ∧
              track.evaluate progress duration = some ended.endPos ∨
            ∃ active, Segment.NextToEnd rows elapsed active ∧
              track.evaluate progress duration =
                some (active.startPos + (active.endPos - active.startPos) *
                  active.easing.evaluate
                    ((elapsed - ended.endTime) / (active.endTime - ended.endTime)))) := by
  obtain ⟨start, rows, started, authored, rfl⟩ := Timeline.exists_authored accepted
  refine ⟨start, rows, started, authored, ?_⟩
  intro progress duration begun elapsed
  have members (row : Segment Rat) : row ∈ rows ↔ row ∈ Segment.latestFirst rows :=
    (Segment.latestFirst_perm rows).mem_iff.symm
  have ordered := Segment.pairwise_latestFirst authored.nodup_clause
  have begun : ∃ row ∈ Segment.latestFirst rows, row.endTime ≤ elapsed := by
    obtain ⟨row, member, passed⟩ := begun
    exact ⟨row, (members row).mp member, passed⟩
  -- The latest stand first, so all behind the first one that has ended have ended too.
  obtain ⟨above, ended, below, split, done, pending⟩ := Timeline.exists_first_ended begun
  rw [split] at members ordered
  have passed : ∀ row ∈ ended :: below, row.endTime ≤ elapsed := fun row member =>
    (Segment.endTime_le_of_ordered (List.pairwise_append.mp ordered).2.1 row member).trans done
  refine ⟨ended, Segment.lastEnded_of_split members ordered pending done, ?_⟩
  rw [Track.evaluate, split]
  rcases List.eq_nil_or_concat above with rfl | ⟨above, active, rfl⟩
  · refine .inl ⟨fun row member => passed row ((members row).mp member), ?_⟩
    exact congrArg some (if_pos done)
  · rw [List.concat_append] at members ordered ⊢
    rw [List.concat_eq_append] at pending
    have waits : elapsed < active.endTime :=
      not_le.mp (pending active (List.mem_append_right _ (List.mem_singleton_self active)))
    refine .inr ⟨active, Segment.nextToEnd_of_split members ordered waits passed, ?_⟩
    rw [Timeline.evaluate_eq_ease start pending done, Timeline.ease_rat,
      Timeline.phase_rat done waits]

def nobody : Lookup Rat := fun _ => .error .noSuchElement

theorem evaluate_after_end_unordered :
    let clauses : List Clause :=
      [⟨.literal ⟨false, 40, 0⟩, none, .literal ⟨false, 10, 0⟩, none⟩,
        ⟨.literal ⟨false, 10, 0⟩, none, .literal ⟨false, 20, 0⟩, none⟩,
        ⟨.after ⟨false, 0, 0⟩, none, .literal ⟨false, 30, 0⟩, none⟩,
        ⟨.after ⟨false, 15, 0⟩, none, .literal ⟨false, 4, 0⟩, none⟩]
    ∃ track, AxisArg.resolve nobody .y 5 (.timeline (.literal ⟨false, 0, 0⟩) clauses) = .ok track ∧
      track.evaluate (1/2) 40 = some (38/3) ∧
      ∃ start rows, Timeline.Authored nobody .y 5 start clauses rows ∧
        ∃ ended active, Segment.LastEnded rows 20 ended ∧ Segment.NextToEnd rows 20 active ∧
          38/3 = active.startPos + (active.endPos - active.startPos) *
            active.easing.evaluate ((20 - ended.endTime) / (active.endTime - ended.endTime)) := by
  intro clauses
  have made : (AxisArg.resolve nobody .y 5 (.timeline (.literal ⟨false, 0, 0⟩) clauses)).map
      (fun track => track.evaluate (1/2) 40) = .ok (some (38/3)) := by
    decide +kernel
  cases accepted : AxisArg.resolve nobody .y 5 (.timeline (.literal ⟨false, 0, 0⟩) clauses) with
  | error error =>
    rw [accepted] at made
    cases made
  | ok track =>
    rw [accepted] at made
    have position : track.evaluate (1/2) 40 = some (38/3) := Except.ok.inj made
    obtain ⟨start, rows, started, authored, moves⟩ := evaluate_after_end _ _ _ _ _ track accepted
    have timed {place : Nat} {clause : Clause} {n : Numeral}
        (there : clauses[place]? = some clause) (literal : clause.time = .literal n) :
        ∃ row ∈ rows, row.endTime = n.value := by
      have inside : place < rows.length :=
        authored.length ▸ (List.getElem?_eq_some_iff.mp there).1
      obtain ⟨other, _, _, here, yields⟩ := authored.yields_getElem inside
      obtain rfl := Option.some.inj (here.symm.trans there)
      have same {previous endTime : Rat}
          (means : (ClauseTime.literal n).Means nobody 5 previous endTime) : endTime = n.value := by
        cases means
        rfl
      exact ⟨rows[place], List.getElem_mem inside, same (literal ▸ yields.endTime)⟩
    have elapsed : (1/2 * 40 : Rat) = 20 := by norm_num
    obtain ⟨early, inRows, ends⟩ := timed (show clauses[1]? = some _ from rfl) rfl
    obtain ⟨late, inRows', ends'⟩ := timed (show clauses[0]? = some _ from rfl) rfl
    obtain ⟨ended, last, still | ⟨active, next, moving⟩⟩ := moves (1/2) 40 ⟨early, inRows, by
      rw [ends]
      decide +kernel⟩
    · have passed := still.1 late inRows'
      rw [ends'] at passed
      exact absurd passed (by decide +kernel)
    · rw [elapsed] at last next
      rw [position, elapsed] at moving
      exact ⟨track, rfl, position, start, rows, authored, ended, active, last, next,
        Option.some.inj moving⟩

end ScrollTimeline
