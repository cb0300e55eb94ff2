import ScrollTimeline.Proofs.Script.Soundness
import ScrollTimeline.Track.Resolution

/-!
The clauses of a custom timeline as they were written.

Each clause has a time, a start, an end and a curve, of which some are left to the clause written before
it. A timeline is accepted if all of them stand for something, and then its segments are these rows.
-/
set_option autoImplicit false

namespace ScrollTimeline

variable {α : Type} [Arithmetic α]

inductive Scalar.Means (lookup : Lookup α) (axis : Axis) : Scalar → α → Prop where
  | literal (n : Numeral) : Means lookup axis (.literal n) n.value
  | like {target : String} {other : Record α} {value : α} (found : lookup target = .ok other)
      (pinned : other.track axis = .fixed value) : Means lookup axis (.like target) value

/-- The time that a clause of an element ends at, counted from where the element enters. -/
inductive ClauseTime.Means (lookup : Lookup α) (enterAt previous : α) : ClauseTime → α → Prop where
  | literal (n : Numeral) : Means lookup enterAt previous (.literal n) n.value
  | after (n : Numeral) : Means lookup enterAt previous (.after n) (previous + n.value)
  | withExit {target : String} {other : Record α} (found : lookup target = .ok other) :
      Means lookup enterAt previous (.reference .withExit target) (other.leaveAt - enterAt)
  | withEntry {target : String} {other : Record α} (found : lookup target = .ok other) :
      Means lookup enterAt previous (.reference .withEntry target) (other.enterAt - enterAt)
  | like {target : String} {other : Record α} (found : lookup target = .ok other) :
      Means lookup enterAt previous (.reference .like target) (other.enterAt - enterAt)

inductive CurveArg.Means (lookup : Lookup α) (axis : Axis) : CurveArg → Easing α → Prop where
  | given (controls : Controls) {curve : Easing α} (admissible : curve.Admissible)
      (same : curve = ⟨controls.x1.value, controls.y1.value, controls.x2.value, controls.y2.value⟩) :
      Means lookup axis (.given controls) curve
  | like {target : String} {other : Record α} {values : List α} {curve : Easing α}
      (found : lookup target = .ok other) (curved : other.track axis = .waypoints values curve) :
      Means lookup axis (.like target) curve

/-- The row of a clause. A start that is left out is where the clause written before it ended. -/
structure Clause.Yields (lookup : Lookup α) (axis : Axis) (enterAt : α) (index : Nat)
    (previousTime previousStop : α) (clause : Clause) (row : Segment α) : Prop where
  number : row.clause = index
  endTime : clause.time.Means lookup enterAt previousTime row.endTime
  startPos : match clause.start with
    | none => row.startPos = previousStop
    | some scalar => scalar.Means lookup axis row.startPos
  endPos : clause.stop.Means lookup axis row.endPos
  easing : match clause.curve with
    | none => row.easing = .linear
    | some curve => curve.Means lookup axis row.easing

/-- The rows of some clauses, of which the first has the given number. In front of it are a time and a
position; every other one looks back at the row in front of it. -/
structure Clause.Authored (lookup : Lookup α) (axis : Axis) (enterAt : α) (index : Nat)
    (previousTime previousStop : α) (clauses : List Clause) (rows : List (Segment α)) : Prop where
  length : rows.length = clauses.length
  yields : ∀ before row after, rows = before ++ row :: after →
    ∀ clause, clauses[before.length]? = some clause →
      clause.Yields lookup axis enterAt (index + before.length)
        ((before.getLast?.map Segment.endTime).getD previousTime)
        ((before.getLast?.map Segment.endPos).getD previousStop) row

def Timeline.Authored (lookup : Lookup α) (axis : Axis) (enterAt start : α) (clauses : List Clause)
    (rows : List (Segment α)) : Prop :=
  Clause.Authored lookup axis enterAt 0 0.0 start clauses rows

/-! ### What has been accepted -/

variable {lookup : Lookup α} {axis : Axis} {enterAt : α}

omit [Arithmetic α] in
theorem Lookup.eq_ok_of_record {id : String} {other : Record α}
    (found : lookup.record id = .ok other) : lookup id = .ok other := by
  rw [Lookup.record] at found
  cases answer : lookup id with
  | error reason =>
    rw [answer] at found
    cases found
  | ok record =>
    rw [answer] at found
    cases found
    rfl

theorem Scalar.means_of_resolve {scalar : Scalar} {value : α}
    (made : scalar.resolve lookup axis = .ok value) : scalar.Means lookup axis value := by
  cases scalar with
  | literal n =>
    cases made
    exact .literal n
  | like target =>
    obtain ⟨other, found, made⟩ := exists_of_bind made
    cases pinned : other.track axis with
    | fixed position =>
      rw [pinned] at made
      cases made
      exact .like (Lookup.eq_ok_of_record found) pinned
    | _ =>
      rw [pinned] at made
      cases made

theorem ClauseTime.means_of_resolve {time : ClauseTime} {previous endTime : α}
    (made : time.resolve lookup enterAt previous = .ok endTime) :
    time.Means lookup enterAt previous endTime := by
  cases time with
  | literal n =>
    cases made
    exact .literal n
  | after n =>
    cases made
    exact .after n
  | reference edge target =>
    obtain ⟨other, found, made⟩ := exists_of_bind made
    have found := Lookup.eq_ok_of_record found
    cases edge with
    | like =>
      cases made
      exact .like found
    | withEntry =>
      cases made
      exact .withEntry found
    | withExit =>
      cases made
      exact .withExit found

theorem CurveArg.means_of_resolve {arg : CurveArg} {curve : Easing α}
    (made : arg.resolve lookup axis = .ok curve) : arg.Means lookup axis curve := by
  cases arg with
  | given controls =>
    rw [resolve, Controls.resolve] at made
    cases built : Easing.ofControls (α := α) controls.x1.value controls.y1.value controls.x2.value
        controls.y2.value with
    | error problem =>
      rw [built] at made
      cases made
    | ok other =>
      rw [built] at made
      cases made
      obtain ⟨same, admissible⟩ := (Easing.ofControls_eq_ok_iff _ _ _ _ _).mp built
      exact .given controls admissible same
  | like target =>
    obtain ⟨other, found, made⟩ := exists_of_bind made
    cases curved : other.track axis with
    | waypoints values between =>
      rw [curved] at made
      cases made
      exact .like (Lookup.eq_ok_of_record found) curved
    | _ =>
      rw [curved] at made
      cases made

theorem Clause.yields_of_resolve {index : Nat} {previousTime previousStop : α} {clause : Clause}
    {row : Segment α}
    (made : clause.resolve lookup axis enterAt index previousTime previousStop = .ok row) :
    clause.Yields lookup axis enterAt index previousTime previousStop row := by
  obtain ⟨time, start, stop, curve⟩ := clause
  obtain ⟨endTime, timed, made⟩ := exists_of_bind made
  obtain ⟨startPos, started, made⟩ := exists_of_bind made
  obtain ⟨endPos, stopped, made⟩ := exists_of_bind made
  obtain ⟨easing, curved, made⟩ := exists_of_bind made
  cases made
  refine ⟨rfl, ClauseTime.means_of_resolve timed, ?_, Scalar.means_of_resolve stopped, ?_⟩
  · cases start with
    | none =>
      cases started
      rfl
    | some scalar => exact Scalar.means_of_resolve started
  · cases curve with
    | none =>
      cases curved
      rfl
    | some arg => exact CurveArg.means_of_resolve curved

theorem Clause.authored_of_resolveAll {clauses : List Clause} {index : Nat}
    {previousTime previousStop : α} {rows : List (Segment α)}
    (made : Clause.resolveAll lookup axis enterAt index previousTime previousStop clauses = .ok rows) :
    Clause.Authored lookup axis enterAt index previousTime previousStop clauses rows := by
  induction clauses generalizing index previousTime previousStop rows with
  | nil =>
    cases made
    refine ⟨rfl, ?_⟩
    intro before row after split
    simp at split
  | cons clause rest ih =>
    obtain ⟨first, resolved, made⟩ := exists_of_bind made
    obtain ⟨later, others, made⟩ := exists_of_bind made
    cases made
    have authored := ih others
    refine ⟨congrArg (· + 1) authored.length, ?_⟩
    intro before row after split written there
    cases before with
    | nil =>
      obtain ⟨rfl, rfl⟩ := List.cons.inj split
      obtain rfl := Option.some.inj there
      exact Clause.yields_of_resolve resolved
    | cons second before =>
      obtain ⟨rfl, rest⟩ := List.cons.inj split
      -- The row in front of this one is the first row, unless one of `before` stands in between.
      have back {β : Type} (field : Segment α → β) (default : β) :
          (((first :: before).getLast?).map field).getD default =
            (before.getLast?.map field).getD (field first) := by
        rw [List.getLast?_cons]
        cases before.getLast? <;> rfl
      rw [back, back, List.length_cons, ← Nat.add_assoc, Nat.add_right_comm]
      exact authored.yields before row after rest written there

theorem Timeline.exists_authored {initial : Scalar} {clauses : List Clause} {track : Track α}
    (accepted : AxisArg.resolve lookup axis enterAt (.timeline initial clauses) = .ok track) :
    ∃ start rows, initial.Means lookup axis start ∧
      Timeline.Authored lookup axis enterAt start clauses rows ∧
      track = .custom start (Segment.latestFirst rows) := by
  obtain ⟨start, started, made⟩ := exists_of_bind accepted
  obtain ⟨rows, resolved, made⟩ := exists_of_bind made
  cases made
  exact ⟨start, rows, Scalar.means_of_resolve started, Clause.authored_of_resolveAll resolved, rfl⟩

namespace Clause.Authored

variable {index : Nat} {previousTime previousStop : α} {clauses : List Clause}
  {rows : List (Segment α)}

theorem yields_getElem
    (authored : Authored lookup axis enterAt index previousTime previousStop clauses rows)
    {place : Nat} (inside : place < rows.length) :
    ∃ clause time position, clauses[place]? = some clause ∧
      clause.Yields lookup axis enterAt (index + place) time position rows[place] := by
  have split : rows = rows.take place ++ rows[place] :: rows.drop (place + 1) := by
    rw [List.getElem_cons_drop, List.take_append_drop]
  have before : (rows.take place).length = place := by
    rw [List.length_take]
    omega
  have written : place < clauses.length := authored.length ▸ inside
  have there := List.getElem?_eq_getElem written
  have yields := authored.yields _ _ _ split clauses[place] (by rw [before, there])
  rw [before] at yields
  exact ⟨_, _, _, there, yields⟩

theorem nodup_clause
    (authored : Authored lookup axis enterAt index previousTime previousStop clauses rows) :
    (rows.map Segment.clause).Nodup := by
  have numbers : rows.map Segment.clause = List.range' index rows.length := by
    refine List.ext_getElem (by simp) ?_
    intro place inside _
    rw [List.length_map] at inside
    obtain ⟨_, _, _, _, yields⟩ := authored.yields_getElem inside
    simp [yields.number]
  rw [numbers]
  exact List.nodup_range'

end Clause.Authored

end ScrollTimeline
