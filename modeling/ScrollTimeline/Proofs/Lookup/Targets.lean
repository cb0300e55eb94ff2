import ScrollTimeline.Element
import ScrollTimeline.Proofs.Lookup.Consultation

/-!
Compiling an element asks for no other records than those of the ids that its directives name.

There is one lemma for each form of argument, which goes through it in the order in which it is
resolved; those of a directive, of all directives and of an element are put together from them.
-/
set_option autoImplicit false

namespace ScrollTimeline

variable {α : Type} {ids : List String}

/-! ### Arguments -/

theorem Lookup.consults_fixed (axis : Axis) {target : String} (named : target ∈ ids) :
    Consults (α := α) ids fun lookup => lookup.fixed axis target := by
  refine Consults.read named _ ?_ ?_
  · intro record handle
    cases axis <;> rfl
  · intro record other reason failed
    split at failed
    · cases failed
    · cases failed
      exact id

theorem Lookup.consults_waypointCurve (axis : Axis) {target : String} (named : target ∈ ids) :
    Consults (α := α) ids fun lookup => lookup.waypointCurve axis target := by
  refine Consults.read named _ ?_ ?_
  · intro record handle
    cases axis <;> rfl
  · intro record other reason failed
    split at failed
    · cases failed
    · cases failed
      exact id

variable [Arithmetic α]

theorem Moment.consults_resolve (edge : Edge) : (moment : Moment) → moment.targets ⊆ ids →
    Consults (α := α) ids fun lookup => moment.resolve lookup edge
  | .literal n, _ => .ok n.value
  | .reference form target offset, named => by
    refine Consults.read (named (List.mem_singleton_self target)) _ ?_ ?_
    · intro record handle
      cases form <;> cases edge <;> rfl
    · intro record other reason failed
      cases form <;> cases failed

theorem Controls.resolve_ne_unresolvable (controls : Controls) (target : String)
    (reason : Unresolved) :
    controls.resolve (α := α) ≠ .error (.unresolvable target reason) := by
  unfold Controls.resolve
  intro failed
  cases made : Easing.ofControls (α := α) controls.x1.value controls.y1.value controls.x2.value
      controls.y2.value with
  | ok curve =>
    rw [made] at failed
    cases failed
  | error error =>
    rw [made] at failed
    cases failed

theorem Controls.consults_resolve (controls : Controls) :
    Consults (α := α) ids fun _ => controls.resolve :=
  .answer controls.resolve fun target reason failed =>
    absurd failed (controls.resolve_ne_unresolvable target reason)

theorem Scalar.consults_resolve (axis : Axis) : (scalar : Scalar) → scalar.targets ⊆ ids →
    Consults (α := α) ids fun lookup => scalar.resolve lookup axis
  | .literal n, _ => .ok n.value
  | .like target, named => Lookup.consults_fixed axis (named (List.mem_singleton_self target))

theorem Scalar.consults_resolveOr (axis : Axis) (default : α) : (scalar : Option Scalar) →
    scalar.elim [] Scalar.targets ⊆ ids →
    Consults ids fun lookup => Scalar.resolveOr lookup axis default scalar
  | none, _ => .ok default
  | some scalar, named => scalar.consults_resolve axis named

theorem CurveArg.consults_resolve (axis : Axis) : (curve : CurveArg) → curve.targets ⊆ ids →
    Consults (α := α) ids fun lookup => curve.resolve lookup axis
  | .given controls, _ => controls.consults_resolve
  | .like target, named =>
    Lookup.consults_waypointCurve axis (named (List.mem_singleton_self target))

theorem CurveArg.consults_resolveOr (axis : Axis) : (curve : Option CurveArg) →
    curve.elim [] CurveArg.targets ⊆ ids →
    Consults (α := α) ids fun lookup => CurveArg.resolveOr lookup axis curve
  | none, _ => .ok Easing.linear
  | some curve, named => curve.consults_resolve axis named

theorem ClauseTime.consults_resolve (enterAt previous : α) : (time : ClauseTime) →
    Clause.timeTargets time ⊆ ids →
    Consults ids fun lookup => time.resolve lookup enterAt previous
  | .literal n, _ => .ok n.value
  | .after n, _ => .ok (previous + n.value)
  | .reference edge target, named => by
    refine Consults.read (named (List.mem_singleton_self target)) _ ?_ ?_
    · intro record handle
      cases edge <;> rfl
    · intro record other reason failed
      cases edge <;> cases failed

theorem Clause.consults_resolve (axis : Axis) (enterAt : α) (index : Nat)
    (previousTime previousStop : α) (clause : Clause) (named : clause.targets ⊆ ids) :
    Consults ids fun lookup =>
      clause.resolve lookup axis enterAt index previousTime previousStop := by
  simp only [Clause.targets, List.append_subset] at named
  obtain ⟨⟨⟨timeNamed, startNamed⟩, stopNamed⟩, curveNamed⟩ := named
  refine (clause.time.consults_resolve enterAt previousTime timeNamed).bind fun endTime => ?_
  refine (Scalar.consults_resolveOr axis previousStop clause.start startNamed).bind
    fun startPos => ?_
  refine (clause.stop.consults_resolve axis stopNamed).bind fun endPos => ?_
  exact (CurveArg.consults_resolveOr axis clause.curve curveNamed).bind fun easing => .ok _

theorem Clause.consults_resolveAll (axis : Axis) (enterAt : α) (clauses : List Clause)
    (named : clauses.flatMap Clause.targets ⊆ ids) (index : Nat) (previousTime previousStop : α) :
    Consults ids fun lookup =>
      Clause.resolveAll lookup axis enterAt index previousTime previousStop clauses := by
  induction clauses generalizing index previousTime previousStop with
  | nil => exact .ok []
  | cons clause rest ih =>
    rw [List.flatMap_cons, List.append_subset] at named
    refine (clause.consults_resolve axis enterAt index previousTime previousStop named.1).bind
      fun segment => ?_
    exact (ih named.2 (index + 1) segment.endTime segment.endPos).bind fun later => .ok _

theorem Scalar.consults_mapM (axis : Axis) (values : List Scalar)
    (named : values.flatMap Scalar.targets ⊆ ids) :
    Consults (α := α) ids fun lookup => values.mapM (Scalar.resolve lookup axis) := by
  induction values with
  | nil => exact .ok []
  | cons value rest ih =>
    rw [List.flatMap_cons, List.append_subset] at named
    simp only [List.mapM_cons]
    refine (value.consults_resolve axis named.1).bind fun position => ?_
    exact (ih named.2).bind fun positions => .ok _

theorem AxisArg.consults_resolve (axis : Axis) (enterAt : α) : (arg : AxisArg) →
    arg.targets ⊆ ids → Consults ids fun lookup => arg.resolve lookup axis enterAt
  | .waypoints values curve, named => by
    obtain ⟨valuesNamed, curveNamed⟩ := List.append_subset.mp named
    refine (Scalar.consults_mapM axis values valuesNamed).bind fun positions => ?_
    have several : Consults (α := α) ids fun lookup => do
        return Track.waypoints positions (← CurveArg.resolveOr lookup axis curve) :=
      (CurveArg.consults_resolveOr axis curve curveNamed).bind fun _ => .ok _
    match positions with
    | [] => exact several
    | [value] => exact .ok _
    | _ :: _ :: _ => exact several
  | .timeline initial clauses, named => by
    obtain ⟨initialNamed, clausesNamed⟩ := List.append_subset.mp named
    refine (initial.consults_resolve axis initialNamed).bind fun position => ?_
    exact (Clause.consults_resolveAll axis enterAt clauses clausesNamed 0 0.0 position).bind
      fun segments => .ok _

theorem OpacityArg.consults_resolve (offset : α) : (arg : OpacityArg) → arg.targets ⊆ ids →
    Consults ids fun lookup => arg.resolve lookup offset
  | .symmetric controls, _ => controls.consults_resolve.bind fun _ => .ok _
  | .split fadeIn fadeOut, _ =>
    fadeIn.consults_resolve.bind fun _ => fadeOut.consults_resolve.bind fun _ => .ok _
  | .like target, named => by
    refine Consults.read (named (List.mem_singleton_self target)) _ ?_ ?_
    · intro record handle
      rfl
    · intro record other reason failed
      cases failed

theorem consults_checkDuration (keyword : Keyword) (duration : α) :
    Consults ids fun _ => checkDuration keyword duration := by
  refine .answer (checkDuration keyword duration) ?_
  intro target reason failed
  unfold checkDuration at failed
  split at failed <;> cases failed

/-! ### Directives -/

namespace Directive

theorem consults_effect (offset : α) (draft : Draft α) : (directive : Directive) →
    directive.targets ⊆ ids → Consults ids fun lookup => directive.effect lookup offset draft
  | enter moment, named => (moment.consults_resolve .enter named).bind fun _ => .ok _
  | leave moment, named =>
    (moment.consults_resolve .leave named).bind fun _ =>
      (consults_checkDuration .leave _).bind fun _ => .ok _
  | duration (.literal n), _ => (consults_checkDuration .duration n.value).bind fun _ => .ok _
  | duration (.like target), named => by
    refine Consults.read (named (List.mem_singleton_self target)) _ ?_ ?_
    · intro record handle
      rfl
    · intro record other reason failed
      cases failed
  | ease (.given controls), _ => controls.consults_resolve.bind fun _ => .ok _
  | ease (.like target), named => by
    refine Consults.read (named (List.mem_singleton_self target)) _ ?_ ?_
    · intro record handle
      rfl
    · intro record other reason failed
      cases failed
  | opacityEase arg, named => (arg.consults_resolve offset named).bind fun _ => .ok _
  | position .x arg, named => (arg.consults_resolve .x draft.enterAt named).bind fun _ => .ok _
  | position .y arg, named => (arg.consults_resolve .y draft.enterAt named).bind fun _ => .ok _

/-- A directive that is not allowed in the element's mode asks for nothing. -/
theorem consults_apply (absolute : Bool) (offset : α) (draft : Draft α) (directive : Directive)
    (named : directive.isAllowed absolute = true → directive.targets ⊆ ids) :
    Consults ids fun lookup => directive.apply lookup absolute offset draft := by
  unfold apply
  split
  · rename_i allowed
    exact directive.consults_effect offset draft (named allowed)
  · refine .answer _ ?_
    intro target reason failed
    cases failed

theorem applyAll_congr {one other : Lookup α} (absolute : Bool) (offset : α)
    (directives : List Directive)
    (same : ∀ directive ∈ directives, ∀ draft,
      directive.apply one absolute offset draft = directive.apply other absolute offset draft)
    (draft : Draft α) :
    applyAll one absolute offset draft directives =
      applyAll other absolute offset draft directives := by
  induction directives generalizing draft with
  | nil => rfl
  | cons directive rest ih =>
    obtain ⟨sameFirst, sameRest⟩ := List.forall_mem_cons.mp same
    simp only [applyAll, sameFirst draft, ih sameRest]

theorem missing_of_applyAll {lookup : Lookup α} (absolute : Bool) (offset : α)
    (directives : List Directive)
    (named : ∀ directive ∈ directives, directive.isAllowed absolute = true →
      directive.targets ⊆ ids)
    (draft : Draft α) {id : String} {reason : Unresolved} (isMissing : reason.IsMissing)
    (reported : DirectiveError.unresolvable id reason ∈
      (applyAll lookup absolute offset draft directives).2) :
    id ∈ ids ∧ lookup id = .error reason := by
  induction directives generalizing draft with
  | nil => cases reported
  | cons directive rest ih =>
    obtain ⟨namedFirst, namedRest⟩ := List.forall_mem_cons.mp named
    rw [applyAll] at reported
    cases applied : directive.apply lookup absolute offset draft with
    | ok next =>
      rw [applied] at reported
      exact ih namedRest next reported
    | error error =>
      rw [applied] at reported
      rcases List.mem_cons.mp reported with same | later
      · rw [← same] at applied
        exact (directive.consults_apply absolute offset draft namedFirst).missing applied isMissing
      · exact ih namedRest draft later

end Directive

namespace Element

omit [Arithmetic α] in
theorem targets_of_directive (element : Element α) (directive : Directive)
    (member : directive ∈ element.script.directives)
    (allowed : directive.isAllowed element.script.absolute = true) :
    directive.targets ⊆ element.targets := by
  intro id named
  exact List.mem_flatMap.mpr ⟨directive, List.mem_filter.mpr ⟨member, allowed⟩, named⟩

theorem consults_directive (element : Element α) {directive : Directive}
    (member : directive ∈ element.script.directives) (draft : Draft α) :
    Consults element.targets fun lookup =>
      directive.apply lookup element.script.absolute element.offset draft :=
  directive.consults_apply element.script.absolute element.offset draft
    (element.targets_of_directive directive member)

theorem compile_congr (element : Element α) {one other : Lookup α}
    (same : ∀ directive ∈ element.script.directives, ∀ draft,
      directive.apply one element.script.absolute element.offset draft =
        directive.apply other element.script.absolute element.offset draft) :
    element.compile one = element.compile other := by
  simp only [compile, Directive.applyAll_congr element.script.absolute element.offset
    element.script.directives same]

theorem compile_eq_of_alike (element : Element α) {one other : Lookup α}
    (alike : ∀ id ∈ element.targets, one.AlikeAt other id) :
    element.compile one = element.compile other :=
  element.compile_congr fun _ member draft =>
    (element.consults_directive member draft).eq_of_alike alike

/-- One of the element's directives asks for the record with an id. -/
def Asks (element : Element α) (lookup : Lookup α) (id : String) : Prop :=
  ∃ directive ∈ element.script.directives, ∃ draft,
    ScrollTimeline.Asks lookup
      (fun lookup => directive.apply lookup element.script.absolute element.offset draft) id

theorem mem_targets_of_asks (element : Element α) {lookup : Lookup α} {id : String}
    (asks : element.Asks lookup id) : id ∈ element.targets := by
  obtain ⟨directive, member, draft, asked⟩ := asks
  exact (element.consults_directive member draft).mem_of_asks asked

/-- The records that are asked for decide what the element compiles to. -/
theorem compile_eq_of_asks (element : Element α) {one other : Lookup α}
    (same : ∀ id, element.Asks one id → other id = one id) :
    element.compile other = element.compile one := by
  refine element.compile_congr fun directive member draft => ?_
  refine (element.consults_directive member draft).eq_of_asks ?_
  intro id asked
  exact same id ⟨directive, member, draft, asked⟩

theorem missing_of_compile (element : Element α) {lookup : Lookup α} {id : String}
    {reason : Unresolved} (isMissing : reason.IsMissing)
    (reported : DirectiveError.unresolvable id reason ∈ (element.compile lookup).errors) :
    id ∈ element.targets ∧ lookup id = .error reason :=
  Directive.missing_of_applyAll element.script.absolute element.offset element.script.directives
    element.targets_of_directive .initial isMissing reported

end Element

end ScrollTimeline
