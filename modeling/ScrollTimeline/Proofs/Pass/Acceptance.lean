import ScrollTimeline.Proofs.Pass.Accounts
import ScrollTimeline.Proofs.Record.WellFormed

/-!
What strict compilation vouches for.

A directive that takes effect has found every element that it names and has been given admissible
curves, with one exception: the curve after a single position is not looked at. So if a page compiles
strictly, all its other names are ids of the page and all its other curves are admissible.
-/
set_option autoImplicit false

namespace ScrollTimeline

/-! ### Curves that are written out -/

def CurveArg.controls : CurveArg → List Controls
  | given controls => [controls]
  | like _ => []

def OpacityArg.controls : OpacityArg → List Controls
  | symmetric controls => [controls]
  | split fadeIn fadeOut => [fadeIn, fadeOut]
  | like _ => []

def Clause.controls (clause : Clause) : List Controls := clause.curve.elim [] CurveArg.controls

def AxisArg.controls : AxisArg → List Controls
  | waypoints _ curve => curve.elim [] CurveArg.controls
  | timeline _ clauses => clauses.flatMap Clause.controls

def Directive.controls : Directive → List Controls
  | ease curve => curve.controls
  | opacityEase arg => arg.controls
  | position _ arg => arg.controls
  | _ => []

/-! ### Curves that nothing is eased by -/

namespace AxisArg

/-- The curve after a single position. -/
def idleCurve? : AxisArg → Option CurveArg
  | waypoints [_] curve => curve
  | _ => none

def withoutIdle : AxisArg → AxisArg
  | waypoints [value] _ => waypoints [value] none
  | arg => arg

end AxisArg

namespace Directive

def idleCurve? : Directive → Option CurveArg
  | position _ arg => arg.idleCurve?
  | _ => none

def withoutIdle : Directive → Directive
  | position axis arg => position axis arg.withoutIdle
  | directive => directive

end Directive

/-! ### Names and curves that hold good -/

/-- The controls make a curve. -/
def Controls.Accepted (α : Type) [Arithmetic α] (controls : Controls) : Prop :=
  ∃ curve : Easing α, Easing.ofControls controls.x1.value controls.y1.value controls.x2.value
    controls.y2.value = .ok curve

/-- The names are among the ids, and the controls make curves. -/
structure Settled (α : Type) [Arithmetic α] (ids names : List String) (controls : List Controls) :
    Prop where
  known : names ⊆ ids
  accepted : ∀ c ∈ controls, c.Accepted α

def CurveArg.IsSettled (α : Type) [Arithmetic α] (ids : List String) (curve : CurveArg) : Prop :=
  Settled α ids curve.targets curve.controls

def Directive.IsSettled (α : Type) [Arithmetic α] (ids : List String) (directive : Directive) :
    Prop :=
  Settled α ids directive.targets directive.controls

def Lookup.Within {α : Type} (lookup : Lookup α) (ids : List String) : Prop :=
  ∀ id record, lookup id = .ok record → id ∈ ids

variable {α : Type} {ids : List String}

theorem Lookup.Within.of_record {lookup : Lookup α} (within : lookup.Within ids) {id : String}
    {record : Record α} (found : lookup.record id = .ok record) : id ∈ ids := by
  rw [Lookup.record] at found
  cases answer : lookup id with
  | error reason =>
    rw [answer] at found
    cases found
  | ok other => exact within id other answer

theorem Lookup.Within.of_bind {β : Type} {lookup : Lookup α} (within : lookup.Within ids)
    {id : String} {next : Record α → Except (DirectiveError α) β} {b : β}
    (made : lookup.record id >>= next = .ok b) : [id] ⊆ ids := by
  obtain ⟨record, found, _⟩ := exists_of_bind made
  exact List.cons_subset.mpr ⟨within.of_record found, List.nil_subset ids⟩

variable [Arithmetic α]

namespace Settled

theorem of_names {names : List String} (known : names ⊆ ids) : Settled α ids names [] :=
  ⟨known, fun _ absent => by cases absent⟩

theorem of_nothing : Settled α ids [] [] := of_names (List.nil_subset ids)

theorem append {names names' : List String} {controls controls' : List Controls}
    (first : Settled α ids names controls) (second : Settled α ids names' controls') :
    Settled α ids (names ++ names') (controls ++ controls') := by
  refine ⟨List.append_subset.mpr ⟨first.known, second.known⟩, ?_⟩
  intro c member
  rcases List.mem_append.mp member with inFirst | inSecond
  · exact first.accepted c inFirst
  · exact second.accepted c inSecond

theorem append_iff {names names' : List String} {controls controls' : List Controls} :
    Settled α ids (names ++ names') (controls ++ controls') ↔
      Settled α ids names controls ∧ Settled α ids names' controls' := by
  constructor
  · intro settled
    obtain ⟨known, known'⟩ := List.append_subset.mp settled.known
    exact ⟨⟨known, fun c member => settled.accepted c (List.mem_append_left _ member)⟩,
      ⟨known', fun c member => settled.accepted c (List.mem_append_right _ member)⟩⟩
  · rintro ⟨first, second⟩
    exact first.append second

end Settled

/-! ### Arguments that are resolved -/

section

variable {lookup : Lookup α} (within : lookup.Within ids)

include within

theorem Moment.settled_of_resolve {edge : Edge} {moment : Moment} {time : α}
    (made : moment.resolve lookup edge = .ok time) : moment.targets ⊆ ids := by
  cases moment with
  | literal n => exact List.nil_subset ids
  | reference form target offset => exact within.of_bind made

theorem Scalar.settled_of_resolve {axis : Axis} {scalar : Scalar} {value : α}
    (made : scalar.resolve lookup axis = .ok value) : scalar.targets ⊆ ids := by
  cases scalar with
  | literal n => exact List.nil_subset ids
  | like target => exact within.of_bind made

theorem Scalar.settled_of_resolveOr {axis : Axis} {default value : α} {scalar : Option Scalar}
    (made : Scalar.resolveOr lookup axis default scalar = .ok value) :
    scalar.elim [] Scalar.targets ⊆ ids := by
  cases scalar with
  | none => exact List.nil_subset ids
  | some scalar => exact Scalar.settled_of_resolve within made

theorem Scalar.settled_of_mapM {axis : Axis} {values : List Scalar} {positions : List α}
    (made : values.mapM (Scalar.resolve lookup axis) = .ok positions) :
    values.flatMap Scalar.targets ⊆ ids := by
  induction values generalizing positions with
  | nil => exact List.nil_subset ids
  | cons value rest ih =>
    rw [List.mapM_cons] at made
    obtain ⟨position, first, made⟩ := exists_of_bind made
    obtain ⟨others, later, _⟩ := exists_of_bind made
    rw [List.flatMap_cons]
    exact List.append_subset.mpr ⟨Scalar.settled_of_resolve within first, ih later⟩

omit within in
theorem Controls.accepted_of_resolve {controls : Controls} {curve : Easing α}
    (made : controls.resolve = .ok curve) : controls.Accepted α := by
  rw [Controls.resolve] at made
  cases built : Easing.ofControls (α := α) controls.x1.value controls.y1.value controls.x2.value
      controls.y2.value with
  | error problem =>
    rw [built] at made
    cases made
  | ok other => exact ⟨other, built⟩

omit within in
theorem Controls.settled_of_resolve {controls : Controls} {curve : Easing α}
    (made : controls.resolve = .ok curve) : Settled α ids [] [controls] :=
  ⟨List.nil_subset ids, List.forall_mem_singleton.mpr (Controls.accepted_of_resolve made)⟩

theorem CurveArg.settled_of_resolve {axis : Axis} {arg : CurveArg} {curve : Easing α}
    (made : arg.resolve lookup axis = .ok curve) : arg.IsSettled α ids := by
  cases arg with
  | given controls => exact Controls.settled_of_resolve made
  | like target => exact .of_names (within.of_bind made)

theorem CurveArg.settled_of_resolveOr {axis : Axis} {arg : Option CurveArg} {curve : Easing α}
    (made : CurveArg.resolveOr lookup axis arg = .ok curve) :
    Settled α ids (arg.elim [] CurveArg.targets) (arg.elim [] CurveArg.controls) := by
  cases arg with
  | none => exact .of_nothing
  | some arg => exact CurveArg.settled_of_resolve within made

theorem ClauseTime.settled_of_resolve {enterAt previous : α} {time : ClauseTime} {value : α}
    (made : time.resolve lookup enterAt previous = .ok value) : Clause.timeTargets time ⊆ ids := by
  cases time with
  | reference edge target => exact within.of_bind made
  | _ => exact List.nil_subset ids

theorem Clause.settled_of_resolve {axis : Axis} {enterAt previousTime previousStop : α}
    {index : Nat} {clause : Clause} {segment : Segment α}
    (made : clause.resolve lookup axis enterAt index previousTime previousStop = .ok segment) :
    Settled α ids clause.targets clause.controls := by
  obtain ⟨endTime, timed, made⟩ := exists_of_bind made
  obtain ⟨startPos, started, made⟩ := exists_of_bind made
  obtain ⟨endPos, stopped, made⟩ := exists_of_bind made
  obtain ⟨easing, curved, _⟩ := exists_of_bind made
  have times := ClauseTime.settled_of_resolve within timed
  have starts := Scalar.settled_of_resolveOr within started
  have stops := Scalar.settled_of_resolve within stopped
  have positions : Settled α ids (timeTargets clause.time ++ clause.start.elim [] Scalar.targets ++
      clause.stop.targets) [] :=
    .of_names (List.append_subset.mpr ⟨List.append_subset.mpr ⟨times, starts⟩, stops⟩)
  exact positions.append (CurveArg.settled_of_resolveOr within curved)

theorem Clause.settled_of_resolveAll {axis : Axis} {enterAt : α} {clauses : List Clause}
    {index : Nat} {previousTime previousStop : α} {segments : List (Segment α)}
    (made : Clause.resolveAll lookup axis enterAt index previousTime previousStop clauses =
      .ok segments) :
    Settled α ids (clauses.flatMap Clause.targets) (clauses.flatMap Clause.controls) := by
  induction clauses generalizing index previousTime previousStop segments with
  | nil => exact .of_nothing
  | cons clause rest ih =>
    obtain ⟨segment, first, made⟩ := exists_of_bind made
    obtain ⟨later, others, _⟩ := exists_of_bind made
    rw [List.flatMap_cons, List.flatMap_cons]
    exact (Clause.settled_of_resolve within first).append (ih others)

theorem AxisArg.settled_of_resolve {axis : Axis} {enterAt : α} {arg : AxisArg} {track : Track α}
    (made : arg.resolve lookup axis enterAt = .ok track) :
    Settled α ids arg.withoutIdle.targets arg.withoutIdle.controls := by
  cases arg with
  | waypoints values curve =>
    obtain ⟨positions, read, made⟩ := exists_of_bind made
    have named : Settled α ids (values.flatMap Scalar.targets) [] :=
      .of_names (Scalar.settled_of_mapM within read)
    have count := Scalar.length_of_mapM_resolve read
    match values, positions with
    | [], [] =>
      obtain ⟨easing, curved, _⟩ := exists_of_bind made
      exact named.append (CurveArg.settled_of_resolveOr within curved)
    | [value], [position] => exact named.append .of_nothing
    | _ :: _ :: _, _ :: _ :: _ =>
      obtain ⟨easing, curved, _⟩ := exists_of_bind made
      exact named.append (CurveArg.settled_of_resolveOr within curved)
  | timeline initial clauses =>
    obtain ⟨start, started, made⟩ := exists_of_bind made
    obtain ⟨segments, resolved, _⟩ := exists_of_bind made
    have first : Settled α ids initial.targets [] :=
      .of_names (Scalar.settled_of_resolve within started)
    exact first.append (Clause.settled_of_resolveAll within resolved)

theorem OpacityArg.settled_of_resolve {offset : α} {arg : OpacityArg} {opacity : Opacity α}
    (made : arg.resolve lookup offset = .ok opacity) : Settled α ids arg.targets arg.controls := by
  cases arg with
  | symmetric controls =>
    obtain ⟨curve, curved, _⟩ := exists_of_bind made
    exact Controls.settled_of_resolve curved
  | split first second =>
    obtain ⟨fadeIn, curved, made⟩ := exists_of_bind made
    obtain ⟨fadeOut, curved', _⟩ := exists_of_bind made
    exact (Controls.settled_of_resolve curved).append (Controls.settled_of_resolve curved')
  | like target => exact .of_names (within.of_bind made)

/-! ### Directives that take effect -/

namespace Directive

theorem settled_of_effect {offset : α} {draft next : Draft α} {directive : Directive}
    (made : directive.effect lookup offset draft = .ok next) :
    directive.withoutIdle.IsSettled α ids := by
  cases directive with
  | enter moment =>
    obtain ⟨time, resolved, _⟩ := exists_of_bind made
    exact .of_names (Moment.settled_of_resolve within resolved)
  | leave moment =>
    obtain ⟨time, resolved, _⟩ := exists_of_bind made
    exact .of_names (Moment.settled_of_resolve within resolved)
  | duration value =>
    cases value with
    | literal n => exact .of_nothing
    | like target => exact .of_names (within.of_bind made)
  | ease arg =>
    cases arg with
    | given controls =>
      obtain ⟨curve, curved, _⟩ := exists_of_bind made
      exact Controls.settled_of_resolve curved
    | like target => exact .of_names (within.of_bind made)
  | opacityEase arg =>
    obtain ⟨opacity, resolved, _⟩ := exists_of_bind made
    exact OpacityArg.settled_of_resolve within resolved
  | position axis arg =>
    cases axis with
    | x =>
      obtain ⟨track, resolved, _⟩ := exists_of_bind made
      exact AxisArg.settled_of_resolve within resolved
    | y =>
      obtain ⟨track, resolved, _⟩ := exists_of_bind made
      exact AxisArg.settled_of_resolve within resolved

theorem settled_of_apply {absolute : Bool} {offset : α} {draft next : Draft α}
    {directive : Directive} (made : directive.apply lookup absolute offset draft = .ok next) :
    directive.withoutIdle.IsSettled α ids := by
  rw [apply] at made
  split at made
  · exact settled_of_effect within made
  · cases made

theorem settled_of_applyAll {absolute : Bool} {offset : α} {draft : Draft α}
    {directives : List Directive}
    (silent : (applyAll lookup absolute offset draft directives).2 = []) :
    ∀ directive ∈ directives, directive.withoutIdle.IsSettled α ids := by
  induction directives generalizing draft with
  | nil =>
    intro directive absent
    cases absent
  | cons first rest ih =>
    rw [applyAll] at silent
    cases applied : first.apply lookup absolute offset draft with
    | ok next =>
      rw [applied] at silent
      exact List.forall_mem_cons.mpr ⟨settled_of_apply within applied, ih silent⟩
    | error error =>
      rw [applied] at silent
      cases silent

end Directive

end

/-- A directive holds good when it does without its idle curve and that curve does too. -/
theorem Directive.isSettled_iff (directive : Directive) :
    directive.IsSettled α ids ↔ directive.withoutIdle.IsSettled α ids ∧
      ∀ curve ∈ directive.idleCurve?, curve.IsSettled α ids := by
  have nothing : ∀ {p : Prop}, p ↔ p ∧ ∀ curve ∈ (none : Option CurveArg), curve.IsSettled α ids := by
    simp
  cases directive with
  | position axis arg =>
    match arg with
    | .waypoints [value] (some curve) =>
      have whole : Settled α ids ([value].flatMap Scalar.targets ++ curve.targets)
          ([] ++ curve.controls) ↔ _ := Settled.append_iff
      have bare : [value].flatMap Scalar.targets ++ [] = [value].flatMap Scalar.targets :=
        List.append_nil _
      simp only [IsSettled, withoutIdle, idleCurve?, AxisArg.withoutIdle, AxisArg.idleCurve?,
        AxisArg.targets, AxisArg.controls, Directive.targets, Directive.controls, Option.elim,
        CurveArg.IsSettled, bare, Option.mem_def, Option.some.injEq, forall_eq']
      exact whole
    | .waypoints [value] none => exact nothing
    | .waypoints [] curve => exact nothing
    | .waypoints (_ :: _ :: _) curve => exact nothing
    | .timeline initial clauses => exact nothing
  | _ => exact nothing

/-! ### Pages -/

omit [Arithmetic α] in
theorem Pass.within_complete (elements : List (Element α)) (records : List (Record α)) :
    (complete elements records).Within (elements.map Element.id) := by
  intro id record found
  cases place : indexOf? elements id with
  | none =>
    rw [complete_of_none place] at found
    cases found
  | some index =>
    rw [← id_of_indexOf? place]
    exact mem_ids elements index

theorem Pass.errors_eq_nil {elements : List (Element α)} {report : Report α}
    (made : compileElements elements = .ok report) (silent : report.diagnostics = [])
    {element : Element α} (member : element ∈ elements) :
    (element.compile (complete elements report.records)).errors = [] := by
  obtain ⟨_, _, _, shape⟩ := compileElements_eq_ok made
  rw [shape, diagnostics_ofCompiled, List.flatMap_eq_nil_iff] at silent
  have unreported := silent element member
  rw [Element.diagnostics, List.map_eq_nil_iff, List.append_eq_nil_iff] at unreported
  exact unreported.2

theorem compileElements_of_strict {entries : List Entry} {geometry : Geometry α}
    {idPrefix : String} {report : Report α}
    (compiled : compile entries geometry ⟨true, idPrefix⟩ = .ok report) :
    compileElements (elementsOf entries geometry idPrefix) = .ok report ∧
      report.diagnostics = [] := by
  refine ⟨(compile_eq_ok compiled).2, ?_⟩
  rcases compile_modes entries geometry idPrefix with ⟨error, _, fails⟩ | ⟨other, enforced⟩
  · rw [fails true] at compiled
    cases compiled
  · rw [enforced true] at compiled
    obtain rfl := Report.eq_of_enforce compiled
    unfold Report.enforce at compiled
    split at compiled
    · cases compiled
    · rename_i lenient
      cases known : other.diagnostics with
      | nil => rfl
      | cons first rest => exact absurd known (lenient first rest rfl)

/-- In a page that compiles strictly, every name is an id of the page and every curve is admissible, but
for curves after a single position: these are right exactly if nothing on the page is wrong. -/
theorem settled_of_strict (entries : List Entry) (geometry : Geometry α) (idPrefix : String)
    (report : Report α) (compiled : compile entries geometry ⟨true, idPrefix⟩ = .ok report) :
    let ids := entries.mapIdx (Entry.effectiveId idPrefix)
    let directives := entries.flatMap fun entry => (Script.ofText entry.directives).meaningful
    (∀ directive ∈ directives, directive.withoutIdle.IsSettled α ids) ∧
      ((∀ directive ∈ directives, directive.IsSettled α ids) ↔
        ∀ directive ∈ directives, ∀ curve ∈ directive.idleCurve?, curve.IsSettled α ids) := by
  intro ids directives
  obtain ⟨made, silent⟩ := compileElements_of_strict compiled
  have within := Pass.within_complete (elementsOf entries geometry idPrefix) report.records
  rw [map_id_elementsOf] at within
  have settled : ∀ directive ∈ directives, directive.withoutIdle.IsSettled α ids := by
    intro directive member
    obtain ⟨entry, there, meaningful⟩ := List.mem_flatMap.mp member
    obtain ⟨index, inside, rfl⟩ := List.getElem_of_mem there
    have prepared : entries[index].prepare geometry idPrefix index ∈
        elementsOf entries geometry idPrefix := List.mem_mapIdx.mpr ⟨index, inside, rfl⟩
    have errors := Pass.errors_eq_nil made silent prepared
    exact Directive.settled_of_applyAll within errors directive (List.mem_filter.mp meaningful).1
  refine ⟨settled, ?_⟩
  constructor
  · intro right directive member
    exact (directive.isSettled_iff.mp (right directive member)).2
  · intro idle directive member
    exact directive.isSettled_iff.mpr ⟨settled directive member, idle directive member⟩

def cleanly : List Entry :=
  [⟨some "a", "!absolute; enter with-exit b; duration like b; x 1 like c | 0 0 1 1 |; y 5 | like c |", 0⟩,
    ⟨some "b", "ease 0.25 0.1 0.25 1; opacity-ease 0 0 1 1 0.5 0 1 1; leave 40", 1⟩,
    ⟨some "c", "!absolute; x 3; y 0 . with-entry b: - 4 | 0 0 1 1 |; opacity-ease like b", 2⟩]

theorem settled_of_strict_cleanly :
    let geometry := Geometry.ofHeights (1000 : Float) [0, 250]
    ∃ report, compile cleanly geometry ⟨true, "scroll-"⟩ = .ok report ∧
      ∀ directive ∈ cleanly.flatMap fun entry => (Script.ofText entry.directives).meaningful,
        directive.IsSettled Float ["a", "b", "c"] := by
  intro geometry
  have made : (compile cleanly geometry ⟨true, "scroll-"⟩).isOk = true := by decide +kernel
  obtain ⟨report, compiled⟩ := exists_of_isOk made
  refine ⟨report, compiled, ?_⟩
  obtain ⟨_, right⟩ := settled_of_strict cleanly geometry "scroll-" report compiled
  refine right.mpr ?_
  have idle : (cleanly.flatMap fun entry => (Script.ofText entry.directives).meaningful).filterMap
      Directive.idleCurve? = [.like "c"] := by
    decide +kernel
  intro directive member curve there
  have listed : curve ∈ [CurveArg.like "c"] := by
    rw [← idle]
    exact List.mem_filterMap.mpr ⟨directive, member, there⟩
  rw [List.mem_singleton.mp listed]
  exact .of_names (by decide)

/-- Two curves after single positions: one is that of no element, the other is no curve. -/
def idleCurves : List Entry :=
  [⟨some "a", "!absolute; x 5 | like b |; y 5 | 2 0 0 1 |", 0⟩]

/-- A page compiles strictly although it names an element that there is not, and although it gives the
controls of no curve. -/
theorem unsettled_idleCurves :
    let geometry := Geometry.ofHeights (1000 : Float) []
    let ids := idleCurves.mapIdx (Entry.effectiveId "scroll-")
    let directives := idleCurves.flatMap fun entry => (Script.ofText entry.directives).meaningful
    (∃ report, compile idleCurves geometry ⟨true, "scroll-"⟩ = .ok report) ∧
      (∃ directive ∈ directives, "b" ∈ directive.targets ∧ "b" ∉ ids) ∧
      ∃ directive ∈ directives, ∃ controls ∈ directive.controls, ¬ controls.Accepted Float := by
  intro geometry ids directives
  have read : directives = [.position .x (.waypoints [.literal ⟨false, 5, 0⟩] (some (.like "b"))),
      .position .y (.waypoints [.literal ⟨false, 5, 0⟩]
        (some (.given ⟨⟨false, 2, 0⟩, ⟨false, 0, 0⟩, ⟨false, 0, 0⟩, ⟨false, 1, 0⟩⟩)))] := by
    decide +kernel
  rw [read]
  refine ⟨?_, ⟨_, List.mem_cons_self, by decide, by decide +kernel⟩,
    ⟨_, List.mem_cons_of_mem _ List.mem_cons_self, _, List.mem_cons_self, ?_⟩⟩
  · have made : (compile idleCurves geometry ⟨true, "scroll-"⟩).isOk = true := by decide +kernel
    exact exists_of_isOk made
  · rintro ⟨curve, accepted⟩
    have refused : (Easing.ofControls (Numeral.value ⟨false, 2, 0⟩ : Float)
        (Numeral.value ⟨false, 0, 0⟩) (Numeral.value ⟨false, 0, 0⟩)
        (Numeral.value ⟨false, 1, 0⟩)).isOk = false := by
      decide +kernel
    rw [accepted] at refused
    cases refused

end ScrollTimeline
