import ScrollTimeline.Proofs.Pass.Results
import ScrollTimeline.Proofs.Script.Soundness
import ScrollTimeline.Proofs.Track.LatestFirst

/-!
What holds of every record.

A directive takes a draft that is well formed to another one, as long as the records that it reads from
are well formed, and so a pass never stores any other record.
-/
set_option autoImplicit false

namespace ScrollTimeline

open Arithmetic

variable {α : Type} [Arithmetic α]

/-! ### Well-formed parts -/

namespace Opacity

/-- Fades leave out at most half of a lifetime. -/
def IsOffset (offset : α) : Prop := 0.0 ≤ offset ∧ offset ≤ 0.5

def WellFormed : Opacity α → Prop
  | constant => True
  | symmetric curve offset => curve.Admissible ∧ IsOffset offset
  | split fadeIn fadeOut offset => fadeIn.Admissible ∧ fadeOut.Admissible ∧ IsOffset offset

end Opacity

/-- Segments of a custom timeline, with each of its clauses once. -/
structure Timeline.WellFormed (segments : List (Segment α)) : Prop where
  nonempty : segments ≠ []
  clauses : (segments.map Segment.clause).Perm (List.range segments.length)
  latestFirst : segments.Pairwise Segment.Later
  admissible : ∀ segment ∈ segments, segment.easing.Admissible

def Track.WellFormed : Track α → Prop
  | unpositioned => True
  | fixed _ => True
  | waypoints values curve => 2 ≤ values.length ∧ curve.Admissible
  | custom _ segments => Timeline.WellFormed segments

structure Draft.WellFormed (absolute : Bool) (draft : Draft α) : Prop where
  isUndefined_enterAt : isUndefined draft.enterAt = false
  isFinite_duration : isFinite draft.duration = true
  duration_pos : 0.0 < draft.duration
  positionCurve : draft.positionCurve.Admissible
  linear : absolute = true → draft.positionCurve = .linear
  opacity : draft.opacity.WellFormed
  x : draft.x.WellFormed
  y : draft.y.WellFormed
  unpositioned : absolute = false → draft.x = .unpositioned ∧ draft.y = .unpositioned

structure Record.WellFormed (record : Record α) : Prop where
  isUndefined_enterAt : isUndefined record.enterAt = false
  isFinite_duration : isFinite record.duration = true
  duration_pos : 0.0 < record.duration
  leaveAt_eq : record.leaveAt = record.enterAt + record.duration
  positionCurve : record.positionCurve.Admissible
  linear : record.absolute = true → record.positionCurve = .linear
  opacity : record.opacity.WellFormed
  x : record.x.WellFormed
  y : record.y.WellFormed
  unpositioned : record.absolute = false → record.x = .unpositioned ∧ record.y = .unpositioned

/-- All records that are found are well formed. -/
def Lookup.WellFormed (lookup : Lookup α) : Prop :=
  ∀ id record, lookup id = .ok record → record.WellFormed

theorem Lookup.WellFormed.of_record {lookup : Lookup α} (known : lookup.WellFormed) {id : String}
    {record : Record α} (found : lookup.record id = .ok record) : record.WellFormed := by
  rw [Lookup.record] at found
  cases answer : lookup id with
  | error reason =>
    rw [answer] at found
    cases found
  | ok other =>
    rw [answer] at found
    cases found
    exact known id record answer

theorem Record.WellFormed.track {record : Record α} (wellFormed : record.WellFormed) (axis : Axis) :
    (record.track axis).WellFormed := by
  cases axis with
  | x => exact wellFormed.x
  | y => exact wellFormed.y

/-! ### From the arguments to the parts -/

section

variable [LawfulArithmetic α] {lookup : Lookup α}

open LawfulArithmetic

theorem Record.WellFormed.isUndefined_leaveAt {record : Record α} (wellFormed : record.WellFormed) :
    isUndefined record.leaveAt = false := by
  rw [wellFormed.leaveAt_eq]
  exact isUndefined_add wellFormed.isUndefined_enterAt wellFormed.isFinite_duration

theorem Moment.isUndefined_of_resolve (known : lookup.WellFormed) {edge : Edge} {moment : Moment}
    (bounded : moment.IsBounded) {time : α} (made : moment.resolve lookup edge = .ok time) :
    isUndefined time = false := by
  cases moment with
  | literal n =>
    cases made
    exact isUndefined_of_isFinite (isFinite_value n bounded)
  | reference form target offset =>
    obtain ⟨other, found, made⟩ := exists_of_bind made
    have wellFormed := known.of_record found
    have enters := wellFormed.isUndefined_enterAt
    have leaves := wellFormed.isUndefined_leaveAt
    have shift : isFinite (offset.value : α) = true := isFinite_value offset bounded
    cases form with
    | like =>
      cases made
      cases edge with
      | enter => exact enters
      | leave => exact leaves
    | withEntry =>
      cases made
      exact enters
    | withExit =>
      cases made
      exact leaves
    | afterEntry =>
      cases made
      exact isUndefined_add enters shift
    | afterExit =>
      cases made
      exact isUndefined_add leaves shift

theorem Easing.admissible_linear : (Easing.linear : Easing α).Admissible := by
  refine ⟨?_, inUnit_zero, inUnit_one⟩
  simp [Easing.isFinite, Easing.linear, isFinite_zero, isFinite_one]

theorem isOffset_fadeOffset (absolute : Bool) (height : α) :
    Opacity.IsOffset (fadeOffset absolute height) := by
  have zero : (0.0 : α) ≤ 0.0 := of_decide_eq_true (Bool.and_eq_true_iff.mp inUnit_zero).1
  rw [fadeOffset]
  split
  · exact ⟨zero, zero_le_half⟩
  · rename_i fades
    simp only [Bool.or_eq_true, decide_eq_true_eq, not_or] at fades
    rw [lesser]
    split
    · exact ⟨zero_le_half, half_le_half⟩
    · rename_i less
      simp only [Bool.or_eq_true, decide_eq_true_eq, not_or, Bool.not_eq_true] at less
      refine ⟨share_nonneg fades.2 less.2, ?_⟩
      exact le_of_not_lt less.2 (isUndefined_of_isFinite isFinite_half) less.1

omit [LawfulArithmetic α] in
theorem Controls.admissible_of_resolve {controls : Controls} {curve : Easing α}
    (made : controls.resolve = .ok curve) : curve.Admissible := by
  rw [Controls.resolve] at made
  cases built : Easing.ofControls (α := α) controls.x1.value controls.y1.value controls.x2.value
      controls.y2.value with
  | error problem =>
    rw [built] at made
    cases made
  | ok other =>
    rw [built] at made
    cases made
    exact ((Easing.ofControls_eq_ok_iff _ _ _ _ _).mp built).2

omit [LawfulArithmetic α] in
theorem Lookup.WellFormed.admissible_of_waypointCurve (known : lookup.WellFormed) {axis : Axis}
    {id : String} {curve : Easing α} (made : lookup.waypointCurve axis id = .ok curve) :
    curve.Admissible := by
  obtain ⟨other, found, made⟩ := exists_of_bind made
  have wellFormed := (known.of_record found).track axis
  cases followed : other.track axis with
  | waypoints values curve' =>
    rw [followed] at made wellFormed
    cases made
    exact wellFormed.2
  | _ =>
    rw [followed] at made
    cases made

theorem CurveArg.admissible_of_resolveOr (known : lookup.WellFormed) {axis : Axis}
    {arg : Option CurveArg} {curve : Easing α}
    (made : CurveArg.resolveOr lookup axis arg = .ok curve) : curve.Admissible := by
  match arg with
  | none =>
    cases made
    exact Easing.admissible_linear
  | some (.given controls) => exact Controls.admissible_of_resolve made
  | some (.like target) => exact known.admissible_of_waypointCurve made

theorem Clause.wellFormed_of_resolve (known : lookup.WellFormed) {axis : Axis}
    {enterAt previousTime previousStop : α} {index : Nat} {clause : Clause} {segment : Segment α}
    (made : clause.resolve lookup axis enterAt index previousTime previousStop = .ok segment) :
    segment.clause = index ∧ segment.easing.Admissible := by
  obtain ⟨endTime, _, made⟩ := exists_of_bind made
  obtain ⟨startPos, _, made⟩ := exists_of_bind made
  obtain ⟨endPos, _, made⟩ := exists_of_bind made
  obtain ⟨easing, curved, made⟩ := exists_of_bind made
  cases made
  exact ⟨rfl, CurveArg.admissible_of_resolveOr known curved⟩

theorem Clause.wellFormed_of_resolveAll (known : lookup.WellFormed) {axis : Axis} {enterAt : α}
    {clauses : List Clause} {index : Nat} {previousTime previousStop : α}
    {segments : List (Segment α)} (made : Clause.resolveAll lookup axis enterAt index previousTime
      previousStop clauses = .ok segments) :
    segments.map Segment.clause = List.range' index clauses.length ∧
      ∀ segment ∈ segments, segment.easing.Admissible := by
  induction clauses generalizing index previousTime previousStop segments with
  | nil =>
    cases made
    simp
  | cons clause rest ih =>
    obtain ⟨segment, first, made⟩ := exists_of_bind made
    obtain ⟨later, others, made⟩ := exists_of_bind made
    cases made
    obtain ⟨number, admissible⟩ := wellFormed_of_resolve known first
    obtain ⟨numbers, allAdmissible⟩ := ih others
    refine ⟨?_, ?_⟩
    · rw [List.map_cons, number, numbers, List.length_cons, List.range'_succ]
    · exact List.forall_mem_cons.mpr ⟨admissible, allAdmissible⟩

theorem Timeline.wellFormed_latestFirst {segments : List (Segment α)} (nonempty : segments ≠ [])
    (numbers : segments.map Segment.clause = List.range segments.length)
    (admissible : ∀ segment ∈ segments, segment.easing.Admissible) :
    Timeline.WellFormed (Segment.latestFirst segments) := by
  have perm := Segment.latestFirst_perm segments
  refine ⟨?_, ?_, ?_, ?_⟩
  · intro empty
    rw [empty] at perm
    exact nonempty (List.nil_perm.mp perm)
  · rw [perm.length_eq, ← numbers]
    exact perm.map _
  · refine Segment.pairwise_latestFirst ?_
    rw [numbers]
    exact List.nodup_range
  · intro segment member
    exact admissible segment (perm.mem_iff.mp member)

omit [LawfulArithmetic α] in
theorem Scalar.length_of_mapM_resolve {axis : Axis} {values : List Scalar} {positions : List α}
    (made : values.mapM (Scalar.resolve lookup axis) = .ok positions) :
    positions.length = values.length := by
  induction values generalizing positions with
  | nil =>
    cases made
    rfl
  | cons value rest ih =>
    rw [List.mapM_cons] at made
    obtain ⟨position, _, made⟩ := exists_of_bind made
    obtain ⟨others, read, made⟩ := exists_of_bind made
    cases made
    rw [List.length_cons, List.length_cons, ih read]

theorem AxisArg.wellFormed_of_resolve (known : lookup.WellFormed) {axis : Axis} {enterAt : α}
    {arg : AxisArg} (inhabited : arg.IsInhabited) {track : Track α}
    (made : arg.resolve lookup axis enterAt = .ok track) : track.WellFormed := by
  cases arg with
  | waypoints values curve =>
    obtain ⟨positions, read, made⟩ := exists_of_bind made
    have count := Scalar.length_of_mapM_resolve read
    match positions with
    | [] => exact absurd (List.length_eq_zero_iff.mp count.symm) inhabited
    | [value] =>
      cases made
      trivial
    | first :: second :: rest =>
      obtain ⟨easing, curved, made⟩ := exists_of_bind made
      cases made
      exact ⟨by simp, CurveArg.admissible_of_resolveOr known curved⟩
  | timeline initial clauses =>
    obtain ⟨start, _, made⟩ := exists_of_bind made
    obtain ⟨segments, resolved, made⟩ := exists_of_bind made
    cases made
    obtain ⟨numbers, admissible⟩ := Clause.wellFormed_of_resolveAll known resolved
    have count : segments.length = clauses.length := by
      have lengths := congrArg List.length numbers
      simpa using lengths
    refine Timeline.wellFormed_latestFirst ?_ ?_ admissible
    · intro empty
      rw [empty] at count
      exact inhabited (List.length_eq_zero_iff.mp count.symm)
    · rw [numbers, count, List.range_eq_range']

omit [LawfulArithmetic α] in
theorem OpacityArg.wellFormed_of_resolve (known : lookup.WellFormed) {offset : α}
    (inside : Opacity.IsOffset offset) {arg : OpacityArg} {opacity : Opacity α}
    (made : arg.resolve lookup offset = .ok opacity) : opacity.WellFormed := by
  cases arg with
  | symmetric controls =>
    obtain ⟨curve, curved, made⟩ := exists_of_bind made
    cases made
    exact ⟨Controls.admissible_of_resolve curved, inside⟩
  | split first second =>
    obtain ⟨fadeIn, curved, made⟩ := exists_of_bind made
    obtain ⟨fadeOut, curved', made⟩ := exists_of_bind made
    cases made
    exact ⟨Controls.admissible_of_resolve curved, Controls.admissible_of_resolve curved', inside⟩
  | like target =>
    obtain ⟨other, found, made⟩ := exists_of_bind made
    cases made
    exact (known.of_record found).opacity

omit [LawfulArithmetic α] in
theorem isSize_of_checkDuration {keyword : Keyword} {duration checked : α}
    (made : checkDuration keyword duration = .ok checked) :
    isFinite checked = true ∧ 0.0 < checked := by
  rw [checkDuration] at made
  split at made
  · rename_i size
    cases made
    simpa using size
  · cases made

/-! ### From one draft to the next -/

theorem Draft.wellFormed_initial (absolute : Bool) : (Draft.initial : Draft α).WellFormed absolute := by
  have size := isSize_viewportSpan (α := α)
  rw [Geometry.isSize, Bool.and_eq_true, decide_eq_true_eq] at size
  exact
    { isUndefined_enterAt := isUndefined_of_isFinite isFinite_zero
      isFinite_duration := size.1
      duration_pos := size.2
      positionCurve := Easing.admissible_linear
      linear := fun _ => rfl
      opacity := trivial
      x := trivial
      y := trivial
      unpositioned := fun _ => ⟨rfl, rfl⟩ }

theorem Directive.wellFormed_of_apply (known : lookup.WellFormed) {absolute : Bool} {offset : α}
    (inside : Opacity.IsOffset offset) {draft next : Draft α} (before : draft.WellFormed absolute)
    {directive : Directive} (sound : directive.IsSound)
    (made : directive.apply lookup absolute offset draft = .ok next) :
    next.WellFormed absolute := by
  rw [Directive.apply] at made
  split at made
  · rename_i allowed
    cases directive with
    | enter moment =>
      obtain ⟨time, resolved, made⟩ := exists_of_bind made
      cases made
      exact { before with
        isUndefined_enterAt := Moment.isUndefined_of_resolve known sound resolved }
    | leave moment =>
      obtain ⟨time, _, made⟩ := exists_of_bind made
      obtain ⟨length, checked, made⟩ := exists_of_bind made
      cases made
      obtain ⟨finite, positive⟩ := isSize_of_checkDuration checked
      exact { before with isFinite_duration := finite, duration_pos := positive }
    | duration value =>
      cases value with
      | literal n =>
        obtain ⟨length, checked, made⟩ := exists_of_bind made
        cases made
        obtain ⟨finite, positive⟩ := isSize_of_checkDuration checked
        exact { before with isFinite_duration := finite, duration_pos := positive }
      | like target =>
        obtain ⟨other, found, made⟩ := exists_of_bind made
        cases made
        have wellFormed := known.of_record found
        exact { before with
          isFinite_duration := wellFormed.isFinite_duration
          duration_pos := wellFormed.duration_pos }
    | ease arg =>
      have mode : absolute = false := by simpa [isAllowed] using allowed
      have never : absolute = true → ∀ curve : Easing α, curve = .linear := by simp [mode]
      cases arg with
      | given controls =>
        obtain ⟨curve, curved, made⟩ := exists_of_bind made
        cases made
        exact { before with
          positionCurve := Controls.admissible_of_resolve curved
          linear := fun flagged => never flagged curve }
      | like target =>
        obtain ⟨other, found, made⟩ := exists_of_bind made
        cases made
        exact { before with
          positionCurve := (known.of_record found).positionCurve
          linear := fun flagged => never flagged _ }
    | opacityEase arg =>
      obtain ⟨opacity, resolved, made⟩ := exists_of_bind made
      cases made
      exact { before with opacity := OpacityArg.wellFormed_of_resolve known inside resolved }
    | position axis arg =>
      have mode : absolute = true := by simpa [isAllowed] using allowed
      cases axis with
      | x =>
        obtain ⟨track, resolved, made⟩ := exists_of_bind made
        cases made
        exact { before with
          x := AxisArg.wellFormed_of_resolve known sound resolved
          unpositioned := by simp [mode] }
      | y =>
        obtain ⟨track, resolved, made⟩ := exists_of_bind made
        cases made
        exact { before with
          y := AxisArg.wellFormed_of_resolve known sound resolved
          unpositioned := by simp [mode] }
  · cases made

theorem Directive.wellFormed_applyAll (known : lookup.WellFormed) {absolute : Bool} {offset : α}
    (inside : Opacity.IsOffset offset) {draft : Draft α} (before : draft.WellFormed absolute)
    {directives : List Directive} (sound : ∀ directive ∈ directives, directive.IsSound) :
    (applyAll lookup absolute offset draft directives).1.WellFormed absolute := by
  induction directives generalizing draft with
  | nil => exact before
  | cons directive rest ih =>
    obtain ⟨soundFirst, soundRest⟩ := List.forall_mem_cons.mp sound
    rw [applyAll]
    cases applied : directive.apply lookup absolute offset draft with
    | ok next => exact ih (wellFormed_of_apply known inside before soundFirst applied) soundRest
    | error problem => exact ih before soundRest

theorem Element.wellFormed_compile (known : lookup.WellFormed) (element : Element α)
    (sound : ∀ directive ∈ element.script.directives, directive.IsSound) :
    (element.compile lookup).record.WellFormed := by
  have drafted := Directive.wellFormed_applyAll known
    (isOffset_fadeOffset element.script.absolute element.height)
    (Draft.wellFormed_initial element.script.absolute) sound
  exact { drafted with leaveAt_eq := rfl }

/-! ### Pages -/

namespace Pass

variable {elements : List (Element α)}

/-- All records stored so far are well formed. -/
def WellFormed (results : Results α elements.length) : Prop :=
  ∀ index compiled, results.get index = some compiled → compiled.record.WellFormed

omit [LawfulArithmetic α] in
theorem wellFormed_lookup {results : Results α elements.length} (stored : WellFormed results) :
    (Pass.lookup elements results).WellFormed := by
  intro id record found
  rw [Pass.lookup] at found
  cases place : indexOf? elements id with
  | none =>
    rw [place] at found
    cases found
  | some index =>
    simp only [place] at found
    cases known : results.get index with
    | none =>
      rw [known] at found
      cases found
    | some compiled =>
      rw [known] at found
      cases found
      exact stored index compiled known

variable (sound : ∀ element ∈ elements, ∀ directive ∈ element.script.directives, directive.IsSound)

include sound

theorem WellFormed.step {results : Results α elements.length} (stored : WellFormed results)
    (index : Fin elements.length) : WellFormed (step elements results index) := by
  intro other compiled known
  by_cases same : other = index
  · subst same
    rw [get_step_self] at known
    cases known
    exact Element.wellFormed_compile (wellFormed_lookup stored) _ (sound _ (List.get_mem elements other))
  · rw [get_step_of_ne results (Ne.symm same)] at known
    exact stored other compiled known

theorem wellFormed_foldl (order : List (Fin elements.length)) {results : Results α elements.length}
    (stored : WellFormed results) : WellFormed (order.foldl (Pass.step elements) results) := by
  induction order generalizing results with
  | nil => exact stored
  | cons index rest ih => exact ih (stored.step sound index)

theorem wellFormed_run (order : List (Fin elements.length)) : WellFormed (run elements order) := by
  refine wellFormed_foldl sound order ?_
  intro index compiled known
  simp [Vector.get] at known

theorem wellFormed_of_compileElements {report : Report α}
    (made : compileElements elements = .ok report) : ∀ record ∈ report.records, record.WellFormed := by
  obtain ⟨order, _, known, shape⟩ := compileElements_eq_ok made
  have stored := wellFormed_lookup (wellFormed_run sound order)
  rw [known] at stored
  intro record member
  rw [shape, records_ofCompiled] at member
  obtain ⟨element, there, rfl⟩ := List.mem_map.mp member
  exact Element.wellFormed_compile stored element (sound element there)

end Pass

end

/-- Every record of a page has a lifetime, admissible curves and tracks that fit its mode. -/
theorem wellFormed_of_compile (entries : List Entry) (geometry : Geometry Float)
    (options : CompileOptions) (report : Report Float)
    (compiled : compile entries geometry options = .ok report) :
    ∀ record ∈ report.records, record.WellFormed := by
  refine Pass.wellFormed_of_compileElements ?_ (compile_eq_ok compiled).2
  intro element member
  obtain ⟨index, inside, rfl⟩ := List.mem_mapIdx.mp member
  exact Script.isSound_ofText _

/-- An absolute element with a custom timeline out of order, and one that fades and copies from it. -/
def mixedModes : List Entry :=
  [⟨some "a", "!absolute; x 0 . 20: - 1 | 0 0 1 1 | 5: 3 -4; y 0 10 -0.5; duration 30", 0⟩,
    ⟨none, "enter with-exit a; duration like a; ease 0.25 0.1 0.25 1; opacity-ease 0 0 0.5 2", 1⟩]

theorem wellFormed_of_compile_mixedModes :
    let geometry := Geometry.ofHeights (1000 : Float) [200, 250]
    ∃ report, compile mixedModes geometry .default = .ok report ∧
      report.records.map Record.enterAt = [0, 30] ∧ report.diagnostics.length = 0 ∧
      ∀ record ∈ report.records, record.WellFormed := by
  intro geometry
  have values : (compile mixedModes geometry .default).map (fun report =>
      (report.records.map Record.enterAt, report.diagnostics.length)) = .ok ([0, 30], 0) := by
    decide +kernel
  cases compiled : compile mixedModes geometry .default with
  | error error =>
    rw [compiled] at values
    cases values
  | ok report =>
    rw [compiled] at values
    obtain ⟨times, count⟩ := Prod.mk.inj (Except.ok.inj values)
    exact ⟨report, rfl, times, count,
      wellFormed_of_compile mixedModes geometry .default report compiled⟩

end ScrollTimeline
