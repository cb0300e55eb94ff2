import ScrollTimeline.Proofs.Pass.Fixpoint

/-!
Which questions a pass answers.

The pass comes to an element when exactly the elements in front of it in the order have been compiled.
By then the records that its directives ask for are there, unless no element has the id. So the only
reason for a missing record that can show up in a report is that there is no such element.
-/
set_option autoImplicit false

namespace ScrollTimeline.Pass

variable {α : Type} [Arithmetic α] {elements : List (Element α)}

def ComesTo (elements : List (Element α)) (done : List (Fin elements.length))
    (index : Fin elements.length) : Prop :=
  ∃ later, (graph elements).order = .ok (done ++ index :: later)

/-- An error speaks of a missing record only when there is no element with the id. -/
def Justified (ids : List String) (error : DirectiveError α) : Prop :=
  (∀ id, error ≠ .unresolvable id .notCompiled) ∧
    ∀ id, error = .unresolvable id .noSuchElement → id ∉ ids

theorem isSome_of_asks (distinct : (elements.map Element.id).Nodup)
    {done : List (Fin elements.length)} {index : Fin elements.length}
    (comes : ComesTo elements done index) {id : String}
    (asks : (elements.get index).Asks (lookup elements (run elements done)) id)
    {other : Fin elements.length} (named : (elements.get other).id = id) :
    ((run elements done).get other).isSome = true := by
  obtain ⟨later, found⟩ := comes
  have ordered := ReferenceGraph.ordered_of_order found
  have read := (elements.get index).mem_targets_of_asks asks
  rw [← named] at read
  have edge := mem_targetsOf_of_mem_targets distinct read
  have earlier : other ∈ done := ordered.earlier done index later rfl edge
  exact isSome_get_run (List.Nodup.of_append_left ordered.distinct) earlier

omit [Arithmetic α] in
theorem noSuchElement_of_complete {records : List (Record α)}
    (length : records.length = elements.length) {id : String} {reason : Unresolved}
    (missing : complete elements records id = .error reason) :
    reason = .noSuchElement ∧ id ∉ elements.map Element.id := by
  cases found : indexOf? elements id with
  | none =>
    rw [complete_of_none found] at missing
    refine ⟨(Except.error.inj missing).symm, ?_⟩
    intro member
    obtain ⟨element, there, same⟩ := List.mem_map.mp member
    exact (indexOf?_eq_none_iff elements id).mp found element there same
  | some index =>
    have inside : index.val < records.length := by
      rw [length]
      exact index.isLt
    rw [complete_of_some found (List.getElem?_eq_getElem inside)] at missing
    cases missing

theorem justified_of_mem_diagnostics (element : Element α) {records : List (Record α)}
    (length : records.length = elements.length) {diagnostic : Diagnostic α}
    (reported : diagnostic ∈
      element.diagnostics (element.compile (complete elements records)).errors) :
    Justified (elements.map Element.id) diagnostic.error := by
  obtain ⟨error, member, rfl⟩ := List.mem_map.mp reported
  have missing : ∀ id reason, reason.IsMissing → error = .unresolvable id reason →
      reason = .noSuchElement ∧ id ∉ elements.map Element.id := by
    rintro id reason isMissing rfl
    rcases List.mem_append.mp member with unreadable | dropped
    · obtain ⟨_, _, same⟩ := List.mem_map.mp unreadable
      cases same
    · have asked := (element.missing_of_compile isMissing dropped).2
      exact noSuchElement_of_complete length asked
  refine ⟨?_, ?_⟩
  · intro id same
    cases (missing id .notCompiled trivial same).1
  · intro id same
    exact (missing id .noSuchElement trivial same).2

theorem justified_of_compileElements {report : Report α}
    (compiled : compileElements elements = .ok report) :
    ∀ diagnostic ∈ report.diagnostics, Justified (elements.map Element.id) diagnostic.error := by
  obtain ⟨_, _, _, shape⟩ := compileElements_eq_ok compiled
  have length := (isFixpoint_of_compileElements compiled).length
  intro diagnostic reported
  rw [shape, diagnostics_ofCompiled] at reported
  obtain ⟨element, _, here⟩ := List.mem_flatMap.mp reported
  exact justified_of_mem_diagnostics element length here

/-- Whatever an element asks for when the pass comes to it is there, and nothing else matters to it.
So no report and no failure for a dropped directive speaks of a missing record without need. -/
theorem no_unfinished_read (entries : List Entry) (geometry : Geometry α)
    (options : CompileOptions) :
    let elements := elementsOf entries geometry options.idPrefix
    let ids := entries.mapIdx (Entry.effectiveId options.idPrefix)
    (repeatedId? [] ids = none → ∀ done index, ComesTo elements done index →
      let known := lookup elements (run elements done)
      (∀ other : Lookup α, (∀ id, (elements.get index).Asks known id → other id = known id) →
        (elements.get index).compile other = (elements.get index).compile known) ∧
      ∀ id, (elements.get index).Asks known id → ∀ other : Fin elements.length,
        (elements.get other).id = id → ((run elements done).get other).isSome = true) ∧
    (∀ report, compile entries geometry options = .ok report →
      ∀ diagnostic ∈ report.diagnostics, Justified ids diagnostic.error) ∧
    ∀ diagnostic, compile entries geometry options = .error (.dropped diagnostic) →
      Justified ids diagnostic.error := by
  intro elements ids
  have names : elements.map Element.id = ids := map_id_elementsOf entries geometry options.idPrefix
  refine ⟨?_, ?_, ?_⟩
  · intro fresh done index comes known
    refine ⟨fun other same => (elements.get index).compile_eq_of_asks same, ?_⟩
    intro id asks other named
    exact isSome_of_asks (nodup_ids fresh) comes asks named
  · intro report compiled
    rw [← names]
    exact justified_of_compileElements (compile_eq_ok compiled).2
  · intro diagnostic failed
    obtain ⟨report, made, reported⟩ := compile_eq_dropped failed
    rw [← names]
    exact justified_of_compileElements made diagnostic reported

theorem no_unfinished_read_readingAhead :
    let geometry := Geometry.ofHeights (1000 : Rat) []
    let elements := elementsOf readingAhead geometry "scroll-"
    ∃ (done : List (Fin elements.length)) (index other : Fin elements.length),
      ComesTo elements done index ∧ (elements.get other).id = "b" ∧
        (elements.get index).Asks (lookup elements (run elements done)) "b" ∧
        ((run elements done).get other).isSome = true ∧
        ∃ diagnostic, compile readingAhead geometry ⟨true, "scroll-"⟩ = .error (.dropped diagnostic) ∧
          diagnostic.error = .unresolvable "c" .noSuchElement ∧ "c" ∉ ["a", "b"] := by
  intro geometry elements
  obtain ⟨answered, _, strict⟩ := no_unfinished_read readingAhead geometry ⟨true, "scroll-"⟩
  have comes : ComesTo elements [⟨1, by decide⟩] ⟨0, by decide⟩ := ⟨[], by decide +kernel⟩
  have named : (elements.get ⟨1, by decide⟩).id = "b" := by decide +kernel
  have reads : (elements.get ⟨0, by decide⟩).script.directives =
      [.enter (.reference .afterExit "b" ⟨false, 5, 0⟩), .duration (.like "c")] := by
    decide +kernel
  have asks : (elements.get ⟨0, by decide⟩).Asks
      (lookup elements (run elements [⟨1, by decide⟩])) "b" := by
    refine ⟨.enter (.reference .afterExit "b" ⟨false, 5, 0⟩), ?_, .initial, ?_⟩
    · rw [reads]
      exact List.mem_cons_self
    · exact (Asks.now "b" _).bind _
  have failed : compile readingAhead geometry ⟨true, "scroll-"⟩ =
      .error (.dropped ⟨"a", .unresolvable "c" .noSuchElement⟩) := by
    decide +kernel
  have absent := (strict _ failed).2 "c" rfl
  refine ⟨_, _, _, comes, named, asks, ?_, _, failed, rfl, absent⟩
  exact (answered (by decide +kernel) _ _ comes).2 "b" asks _ named

end ScrollTimeline.Pass
