import ScrollTimeline.Proofs.Record.WellFormed

/-!
Lifetimes and the range of scroll positions, in exact fractions.

The last lifetime ends where scrolling does, so clamping moves no end of a lifetime that can be scrolled
to. An absolute element is shown by its two ends, and other channels follow its progress; since
durations are positive, the two describe one window.
-/
set_option autoImplicit false

namespace ScrollTimeline

open Arithmetic

theorem viewportSpan_rat : (viewportSpan : Rat) = 100 := by decide +kernel

theorem isGreatest_foldl_greater (first : Rat) (rest : List Rat) :
    IsGreatest {time | time ∈ first :: rest} (rest.foldl greater first) := by
  induction rest generalizing first with
  | nil => exact ⟨List.mem_singleton_self first, fun time member => (List.mem_singleton.mp member).le⟩
  | cons second rest ih =>
    obtain ⟨reached, bound⟩ := ih (greater first second)
    rw [greater_rat] at reached bound
    have ends : max first second ≤ rest.foldl greater (max first second) :=
      bound List.mem_cons_self
    rw [List.foldl_cons, greater_rat]
    constructor
    · rcases List.mem_cons.mp reached with same | later
      · rw [same]
        rcases max_choice first second with left | right
        · rw [left]
          exact List.mem_cons_self
        · rw [right]
          exact List.mem_cons_of_mem _ List.mem_cons_self
      · exact List.mem_cons_of_mem _ (List.mem_cons_of_mem _ later)
    · intro time member
      rcases List.mem_cons.mp member with rfl | member
      · exact (le_max_left _ _).trans ends
      rcases List.mem_cons.mp member with rfl | later
      · exact (le_max_right _ _).trans ends
      · exact bound (List.mem_cons_of_mem _ later)

/-! ### One record -/

namespace Record

variable {record : Record Rat}

theorem WellFormed.duration_pos_rat (wellFormed : record.WellFormed) : 0 < record.duration := by
  have positive := wellFormed.duration_pos
  rw [zero_rat] at positive
  exact positive

theorem progressAt_enterAt (record : Record Rat) : record.progressAt record.enterAt = 0 := by
  have still : record.enterAt - record.enterAt = 0 := sub_self _
  rw [progressAt, still]
  exact zero_div _

theorem WellFormed.progressAt_leaveAt (wellFormed : record.WellFormed) :
    record.progressAt record.leaveAt = 1 := by
  have passed : record.leaveAt - record.enterAt = record.duration := by
    rw [wellFormed.leaveAt_eq]
    exact add_sub_cancel_left _ _
  rw [progressAt, passed]
  exact div_self wellFormed.duration_pos_rat.ne'

theorem WellFormed.progressAt_nonneg_iff (wellFormed : record.WellFormed) (scroll : Rat) :
    0 ≤ record.progressAt scroll ↔ record.enterAt ≤ scroll :=
  (le_div_iff₀ wellFormed.duration_pos_rat).trans (by rw [zero_mul]; exact sub_nonneg)

theorem WellFormed.progressAt_le_one_iff (wellFormed : record.WellFormed) (scroll : Rat) :
    record.progressAt scroll ≤ 1 ↔ scroll ≤ record.leaveAt := by
  rw [wellFormed.leaveAt_eq]
  exact (div_le_one wellFormed.duration_pos_rat).trans sub_le_iff_le_add'

theorem WellFormed.visibleAt_iff (wellFormed : record.WellFormed) (scroll : Rat) :
    record.visibleAt scroll = true ↔
      record.absolute = false ∨ 0 ≤ record.progressAt scroll ∧ record.progressAt scroll ≤ 1 := by
  rw [wellFormed.progressAt_nonneg_iff, wellFormed.progressAt_le_one_iff, visibleAt]
  simp only [Bool.or_eq_true, Bool.not_eq_true', Bool.or_eq_false_iff, decide_eq_false_iff_not]
  exact or_congr Iff.rfl (and_congr not_lt not_lt)

end Record

/-! ### All records -/

theorem isGreatest_extentOf {records : List (Record Rat)} (inhabited : records ≠ [])
    (wellFormed : ∀ record ∈ records, record.WellFormed) :
    IsGreatest {time | ∃ record ∈ records, record.leaveAt = time} (extentOf records + 100) := by
  have ends : {time | ∃ record ∈ records, record.leaveAt = time} =
      {time | time ∈ records.map fun record => record.enterAt + record.duration} := by
    ext time
    constructor
    · rintro ⟨record, member, rfl⟩
      exact List.mem_map.mpr ⟨record, member, (wellFormed record member).leaveAt_eq.symm⟩
    · intro listed
      obtain ⟨record, member, rfl⟩ := List.mem_map.mp listed
      exact ⟨record, member, (wellFormed record member).leaveAt_eq⟩
  rw [ends]
  cases records with
  | nil => exact absurd rfl inhabited
  | cons first rest =>
    have span : extentOf (first :: rest) + 100 =
        (rest.map fun record => record.enterAt + record.duration).foldl greater
          (first.enterAt + first.duration) := by
      rw [extentOf, List.map_cons, viewportSpan_rat]
      exact sub_add_cancel _ _
    rw [span]
    exact isGreatest_foldl_greater _ _

theorem Report.clampScroll_of_le {report : Report Rat} {scroll : Rat} (reachable : 0 ≤ scroll)
    (below : scroll ≤ report.totalExtent + 100) : report.clampScroll scroll = scroll := by
  have inside : scroll ≤ report.maxScroll := by
    rw [maxScroll, greater_rat, viewportSpan_rat]
    exact below.trans (le_max_left _ _)
  rw [clampScroll, isUndefined_rat, zero_rat]
  exact clamp_of_mem reachable inside

/-- A page can be scrolled just up to where its last element leaves. So each end of a lifetime that is not
above the page can be scrolled to, and progress is 0 at the first end and 1 at the second; and an
element is shown during its lifetime, or always if it is not absolute. -/
theorem windows_of_compile (entries : List Entry) (geometry : Geometry Rat)
    (options : CompileOptions) (report : Report Rat)
    (compiled : compile entries geometry options = .ok report) :
    (report.records ≠ [] →
      IsGreatest {time | ∃ record ∈ report.records, record.leaveAt = time}
        (report.totalExtent + 100)) ∧
    ∀ record ∈ report.records,
      (0 ≤ record.enterAt → report.clampScroll record.enterAt = record.enterAt ∧
        record.progressAt record.enterAt = 0) ∧
      (0 ≤ record.leaveAt → report.clampScroll record.leaveAt = record.leaveAt ∧
        record.progressAt record.leaveAt = 1) ∧
      ∀ scroll, record.visibleAt scroll = true ↔
        record.absolute = false ∨ 0 ≤ record.progressAt scroll ∧ record.progressAt scroll ≤ 1 := by
  have made := (compile_eq_ok compiled).2
  have wellFormed : ∀ record ∈ report.records, record.WellFormed := by
    refine Pass.wellFormed_of_compileElements ?_ made
    intro element member
    obtain ⟨index, inside, rfl⟩ := List.mem_mapIdx.mp member
    exact Script.isSound_ofText _
  have extent : report.totalExtent = extentOf report.records := by
    obtain ⟨_, _, _, shape⟩ := Pass.compileElements_eq_ok made
    rw [shape]
    rfl
  have last (inhabited : report.records ≠ []) :=
    extent ▸ isGreatest_extentOf inhabited wellFormed
  refine ⟨last, ?_⟩
  intro record member
  have sound := wellFormed record member
  have leaves : record.leaveAt ≤ report.totalExtent + 100 :=
    (last (List.ne_nil_of_mem member)).2 ⟨record, member, rfl⟩
  have enters : record.enterAt ≤ record.leaveAt := by
    rw [sound.leaveAt_eq]
    exact le_add_of_nonneg_right sound.duration_pos_rat.le
  refine ⟨?_, ?_, sound.visibleAt_iff⟩
  · intro reachable
    exact ⟨Report.clampScroll_of_le reachable (enters.trans leaves), record.progressAt_enterAt⟩
  · intro reachable
    exact ⟨Report.clampScroll_of_le reachable leaves, sound.progressAt_leaveAt⟩

/-- Lifetimes that end above the page, that start above it, and that lie on it. -/
def early : List Entry :=
  [⟨some "a", "enter -250; duration 40", 0⟩,
    ⟨some "b", "!absolute; enter with-exit a; leave 60; x 0 10", 1⟩,
    ⟨some "c", "enter 20.5; duration like a", 2⟩]

theorem windows_of_compile_early :
    let geometry := Geometry.ofHeights (1000 : Rat) [0, 250]
    ∃ report, compile early geometry .default = .ok report ∧
      report.records.map (fun record => (record.enterAt, record.leaveAt)) =
        [(-250, -210), (-210, 60), (41/2, 121/2)] ∧
      report.totalExtent = -79/2 ∧
      IsGreatest {time | ∃ record ∈ report.records, record.leaveAt = time}
        (report.totalExtent + 100) ∧
      ∀ record ∈ report.records, record.leaveAt = 60 → report.clampScroll 60 = 60 ∧
        record.progressAt 60 = 1 := by
  intro geometry
  have values : (compile early geometry .default).map (fun report =>
      (report.records.map (fun record => (record.enterAt, record.leaveAt)), report.totalExtent)) =
        .ok ([(-250, -210), (-210, 60), (41/2, 121/2)], -79/2) := by
    decide +kernel
  cases compiled : compile early geometry .default with
  | error error =>
    rw [compiled] at values
    cases values
  | ok report =>
    rw [compiled] at values
    obtain ⟨times, extent⟩ := Prod.mk.inj (Except.ok.inj values)
    obtain ⟨last, windows⟩ := windows_of_compile early geometry .default report compiled
    have inhabited : report.records ≠ [] := by
      intro empty
      rw [empty] at times
      cases times
    refine ⟨report, rfl, times, extent, last inhabited, ?_⟩
    intro record member leaves
    have shown := (windows record member).2.1
    rw [leaves] at shown
    exact shown (by norm_num)

end ScrollTimeline
