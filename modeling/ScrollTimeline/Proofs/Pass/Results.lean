import ScrollTimeline.Proofs.Lookup.Targets
import ScrollTimeline.Proofs.Pass.Ids

/-!
What a pass leaves behind.

An element is compiled once, after all elements that it reads from, and what has been compiled stays as
it is. So the lookup on which it was compiled gave the same answers to its questions as the one at the
end of the pass, on which all records are known.
-/
set_option autoImplicit false

namespace ScrollTimeline

variable {α : Type} [Arithmetic α]

namespace Pass

variable {elements : List (Element α)}

theorem get_step_self (results : Results α elements.length) (index : Fin elements.length) :
    (step elements results index).get index =
      some ((elements.get index).compile (lookup elements results)) := by
  rw [step]
  exact Vector.getElem_set_self _

theorem get_step_of_ne (results : Results α elements.length) {index other : Fin elements.length}
    (differ : other ≠ index) : (step elements results other).get index = results.get index := by
  have apart : other.val ≠ index.val := fun same => differ (Fin.ext same)
  rw [step]
  exact Vector.getElem_set_ne _ _ apart

theorem get_foldl_step (results : Results α elements.length) (index : Fin elements.length)
    (order : List (Fin elements.length)) (absent : index ∉ order) :
    (order.foldl (step elements) results).get index = results.get index := by
  induction order generalizing results with
  | nil => rfl
  | cons first rest ih =>
    simp only [List.mem_cons, not_or] at absent
    rw [List.foldl_cons, ih _ absent.2, get_step_of_ne results (Ne.symm absent.1)]

theorem run_append (before after : List (Fin elements.length)) :
    run elements (before ++ after) = after.foldl (step elements) (run elements before) := by
  rw [run, List.foldl_append, run]

theorem get_run_of_split (before after : List (Fin elements.length)) (index : Fin elements.length)
    (last : index ∉ after) :
    (run elements (before ++ index :: after)).get index =
      some ((elements.get index).compile (lookup elements (run elements before))) := by
  rw [run_append, List.foldl_cons, get_foldl_step _ index after last, get_step_self]

/-- What has been compiled stays as it is. -/
theorem get_run_append (before after : List (Fin elements.length)) (index : Fin elements.length)
    (absent : index ∉ after) :
    (run elements (before ++ after)).get index = (run elements before).get index := by
  rw [run_append, get_foldl_step _ index after absent]

theorem isSome_get_run {order : List (Fin elements.length)} (distinct : order.Nodup)
    {index : Fin elements.length} (member : index ∈ order) :
    ((run elements order).get index).isSome = true := by
  obtain ⟨before, after, rfl⟩ := List.append_of_mem member
  have last : index ∉ after := (List.nodup_cons.mp distinct.of_append_right).1
  rw [get_run_of_split before after index last]
  rfl

/-! ### Lookups at different moments -/

omit [Arithmetic α] in
theorem lookup_of_indexOf?_none {results : Results α elements.length} {id : String}
    (unknown : indexOf? elements id = none) :
    lookup elements results id = .error .noSuchElement := by
  rw [lookup, unknown]

theorem lookup_run_append (before after : List (Fin elements.length)) (id : String)
    (settled : ∀ index, indexOf? elements id = some index → index ∉ after) :
    lookup elements (run elements (before ++ after)) id = lookup elements (run elements before) id := by
  cases found : indexOf? elements id with
  | none => rw [lookup_of_indexOf?_none found, lookup_of_indexOf?_none found]
  | some index =>
    have same := get_run_append before after index (settled index found)
    simp only [lookup, found, same]

/-- The targets of an element are compiled before it, so it makes no difference to it whether its
record is compiled in its turn or once more at the end. -/
theorem compile_run_append {order before after : List (Fin elements.length)}
    {index : Fin elements.length} (ordered : (graph elements).Ordered order)
    (split : order = before ++ index :: after) :
    (elements.get index).compile (lookup elements (run elements order)) =
      (elements.get index).compile (lookup elements (run elements before)) := by
  refine (elements.get index).compile_eq_of_alike ?_
  intro id named
  refine Lookup.alikeAt_of_eq ?_
  rw [split]
  -- What is compiled from here on answers to none of the named ids.
  refine lookup_run_append before (index :: after) id ?_
  intro target found later
  have edge := (mem_targetsOf_graph elements index target).mpr ⟨id, named, found⟩
  have earlier : target ∈ before := ordered.earlier before index after split edge
  exact ordered.not_mem_after split earlier later

theorem get_run {order : List (Fin elements.length)} (ordered : (graph elements).Ordered order)
    (index : Fin elements.length) :
    (run elements order).get index =
      some ((elements.get index).compile (lookup elements (run elements order))) := by
  obtain ⟨before, after, split⟩ := List.append_of_mem (ordered.complete index)
  have regrouped : order = (before ++ [index]) ++ after := by
    rw [split, List.append_assoc, List.singleton_append]
  have last : index ∉ after :=
    ordered.not_mem_after regrouped (List.mem_append_right before (List.mem_singleton_self index))
  rw [compile_run_append ordered split, split, get_run_of_split before after index last]

theorem toList_run {order : List (Fin elements.length)} (ordered : (graph elements).Ordered order) :
    (run elements order).toList = elements.map fun element =>
      some (element.compile (lookup elements (run elements order))) := by
  refine List.ext_getElem (by simp) ?_
  intro place inRun inElements
  have inside : place < elements.length := by simpa using inElements
  have here := get_run ordered ⟨place, inside⟩
  change (run elements order)[place] = _ at here
  simpa using here

/-! ### The report -/

/-- The lookup in which every element has the record at its place. -/
def complete (elements : List (Element α)) (records : List (Record α)) : Lookup α :=
  fun id =>
    match indexOf? elements id with
    | none => .error .noSuchElement
    | some index =>
      match records[index.val]? with
      | none => .error .notCompiled
      | some record => .ok record

omit [Arithmetic α] in
theorem complete_of_none {records : List (Record α)} {id : String}
    (unknown : indexOf? elements id = none) :
    complete elements records id = .error .noSuchElement := by
  rw [complete, unknown]

omit [Arithmetic α] in
theorem complete_of_some {records : List (Record α)} {id : String} {index : Fin elements.length}
    {record : Record α} (found : indexOf? elements id = some index)
    (there : records[index.val]? = some record) : complete elements records id = .ok record := by
  simp only [complete, found, there]

omit [Arithmetic α] in
theorem complete_congr {records others : List (Record α)} {id : String}
    (same : ∀ index, indexOf? elements id = some index →
      records[index.val]? = others[index.val]?) :
    complete elements records id = complete elements others id := by
  cases found : indexOf? elements id with
  | none => rw [complete_of_none found, complete_of_none found]
  | some index => simp only [complete, found, same index found]

theorem complete_records_run {order : List (Fin elements.length)}
    (ordered : (graph elements).Ordered order) :
    complete elements (elements.map fun element =>
      (element.compile (lookup elements (run elements order))).record) =
      lookup elements (run elements order) := by
  funext id
  cases found : indexOf? elements id with
  | none => rw [complete_of_none found, lookup_of_indexOf?_none found]
  | some index =>
    have compiled := get_run ordered index
    have kept : (elements.map fun element =>
        (element.compile (lookup elements (run elements order))).record)[index.val]? =
        some ((elements.get index).compile (lookup elements (run elements order))).record := by
      simp
    rw [complete_of_some found kept]
    simp only [lookup, found, compiled]

omit [Arithmetic α] in
theorem filterMap_zip_map (elements : List (Element α)) (f : Element α → Compiled α) :
    ((elements.zip (elements.map fun element => some (f element))).filterMap
      fun (element, compiled) => compiled.map fun compiled => (element, compiled)) =
      elements.map fun element => (element, f element) := by
  induction elements with
  | nil => rfl
  | cons element rest ih => simp [ih]

theorem records_ofCompiled (elements : List (Element α)) (f : Element α → Compiled α) :
    (Report.ofCompiled (elements.map fun element => (element, f element))).records =
      elements.map fun element => (f element).record := by
  simp [Report.ofCompiled]

theorem diagnostics_ofCompiled (elements : List (Element α)) (f : Element α → Compiled α) :
    (Report.ofCompiled (elements.map fun element => (element, f element))).diagnostics =
      elements.flatMap fun element => element.diagnostics (f element).errors := by
  simp [Report.ofCompiled, List.flatMap_map]

omit [Arithmetic α] in
/-- What bears the id of an element comes from that element. -/
theorem filter_flatMap_of_labels {β : Type} {f : Element α → List β} {label : β → String}
    (labels : ∀ element, ∀ b ∈ f element, label b = element.id)
    (distinct : (elements.map Element.id).Nodup) {element : Element α}
    (member : element ∈ elements) :
    (elements.flatMap f).filter (fun b => label b = element.id) = f element := by
  induction elements with
  | nil => cases member
  | cons first rest ih =>
    rw [List.map_cons, List.nodup_cons] at distinct
    rw [List.flatMap_cons, List.filter_append]
    rcases List.mem_cons.mp member with rfl | later
    · have own : (f element).filter (fun b => label b = element.id) = f element := by
        rw [List.filter_eq_self]
        intro b there
        exact decide_eq_true (labels element b there)
      have others : (rest.flatMap f).filter (fun b => label b = element.id) = [] := by
        rw [List.filter_eq_nil_iff]
        intro b there same
        obtain ⟨other, inRest, from_other⟩ := List.mem_flatMap.mp there
        have shared : other.id = element.id :=
          (labels other b from_other).symm.trans (of_decide_eq_true same)
        exact distinct.1 (shared ▸ List.mem_map_of_mem inRest)
      rw [own, others, List.append_nil]
    · have others : (f first).filter (fun b => label b = element.id) = [] := by
        rw [List.filter_eq_nil_iff]
        intro b there same
        have shared : first.id = element.id :=
          (labels first b there).symm.trans (of_decide_eq_true same)
        exact distinct.1 (shared ▸ List.mem_map_of_mem later)
      rw [others, List.nil_append, ih distinct.2 later]

theorem filter_diagnostics_ofCompiled (f : Element α → Compiled α)
    (distinct : (elements.map Element.id).Nodup) {element : Element α}
    (member : element ∈ elements) :
    (Report.ofCompiled (elements.map fun element => (element, f element))).diagnostics.filter
      (fun diagnostic => diagnostic.id = element.id) = element.diagnostics (f element).errors := by
  rw [diagnostics_ofCompiled]
  refine filter_flatMap_of_labels ?_ distinct member
  intro other diagnostic there
  obtain ⟨error, _, rfl⟩ := List.mem_map.mp there
  rfl

theorem filter_records_ofCompiled (f : Element α → Compiled α)
    (labels : ∀ element, (f element).record.id = element.id)
    (distinct : (elements.map Element.id).Nodup) {element : Element α}
    (member : element ∈ elements) :
    (Report.ofCompiled (elements.map fun element => (element, f element))).records.filter
      (fun record => record.id = element.id) = [(f element).record] := by
  rw [records_ofCompiled, List.map_eq_flatMap]
  refine filter_flatMap_of_labels ?_ distinct member
  intro other record there
  rw [List.mem_singleton.mp there, labels]

/-- Every record and every error of a report are those that its elements have on its own records. -/
theorem compileElements_eq_ok {report : Report α} (compiled : compileElements elements = .ok report) :
    ∃ order, (graph elements).order = .ok order ∧
      lookup elements (run elements order) = complete elements report.records ∧
      report = .ofCompiled (elements.map fun element =>
        (element, element.compile (complete elements report.records))) := by
  rw [compileElements] at compiled
  cases answer : (graph elements).namedOrder (ids elements) with
  | error cycle =>
    rw [answer] at compiled
    cases compiled
  | ok order =>
    rw [answer] at compiled
    have found := (ReferenceGraph.namedOrder_eq_ok_iff _ _ order).mp answer
    have ordered := ReferenceGraph.ordered_of_order found
    have made := Except.ok.inj compiled
    rw [toList_run ordered, filterMap_zip_map] at made
    have records : report.records = elements.map fun element =>
        (element.compile (lookup elements (run elements order))).record := by
      rw [← made, records_ofCompiled]
    have known : lookup elements (run elements order) = complete elements report.records := by
      rw [records, complete_records_run ordered]
    refine ⟨order, found, known, ?_⟩
    rw [← known]
    exact made.symm

theorem compileElements_ne_dropped (diagnostic : Diagnostic α) :
    compileElements elements ≠ .error (.dropped diagnostic) := by
  intro failed
  unfold compileElements at failed
  split at failed <;> cases failed

end Pass

/-! ### Pages -/

omit [Arithmetic α] in
theorem Report.eq_of_enforce {strict : Bool} {report result : Report α}
    (enforced : report.enforce strict = .ok result) : report = result := by
  unfold Report.enforce at enforced
  split at enforced
  · cases enforced
  · exact Except.ok.inj enforced

omit [Arithmetic α] in
theorem Report.mem_of_enforce {strict : Bool} {report : Report α} {first : Diagnostic α}
    (enforced : report.enforce strict = .error (.dropped first)) : first ∈ report.diagnostics := by
  unfold Report.enforce at enforced
  split at enforced
  · rename_i known
    cases enforced
    rw [known]
    exact List.mem_cons_self
  · cases enforced

variable {entries : List Entry} {geometry : Geometry α} {options : CompileOptions}

theorem compile_of_distinct
    (distinct : repeatedId? [] (entries.mapIdx (Entry.effectiveId options.idPrefix)) = none) :
    compile entries geometry options =
      compileElements (elementsOf entries geometry options.idPrefix) >>=
        Report.enforce options.strict := by
  rw [compile, distinct]

theorem nodup_ids
    (distinct : repeatedId? [] (entries.mapIdx (Entry.effectiveId options.idPrefix)) = none) :
    ((elementsOf entries geometry options.idPrefix).map Element.id).Nodup := by
  rw [map_id_elementsOf]
  exact nodup_of_repeatedId? List.nodup_nil distinct

theorem compile_eq_ok {report : Report α} (compiled : compile entries geometry options = .ok report) :
    ((elementsOf entries geometry options.idPrefix).map Element.id).Nodup ∧
      compileElements (elementsOf entries geometry options.idPrefix) = .ok report := by
  cases distinct : repeatedId? [] (entries.mapIdx (Entry.effectiveId options.idPrefix)) with
  | some repeated =>
    rw [compile, distinct] at compiled
    cases compiled
  | none =>
    refine ⟨nodup_ids distinct, ?_⟩
    rw [compile_of_distinct distinct] at compiled
    cases made : compileElements (elementsOf entries geometry options.idPrefix) with
    | error error =>
      rw [made] at compiled
      cases compiled
    | ok lenient =>
      rw [made] at compiled
      exact congrArg Except.ok (Report.eq_of_enforce compiled)

theorem compile_eq_dropped {diagnostic : Diagnostic α}
    (failed : compile entries geometry options = .error (.dropped diagnostic)) :
    ∃ report, compileElements (elementsOf entries geometry options.idPrefix) = .ok report ∧
      diagnostic ∈ report.diagnostics := by
  cases distinct : repeatedId? [] (entries.mapIdx (Entry.effectiveId options.idPrefix)) with
  | some repeated =>
    rw [compile, distinct] at failed
    cases failed
  | none =>
    rw [compile_of_distinct distinct] at failed
    cases made : compileElements (elementsOf entries geometry options.idPrefix) with
    | error error =>
      rw [made] at failed
      have same : error = .dropped diagnostic := Except.error.inj failed
      exact absurd (same ▸ made) (Pass.compileElements_ne_dropped diagnostic)
    | ok report =>
      rw [made] at failed
      exact ⟨report, rfl, Report.mem_of_enforce failed⟩

end ScrollTimeline
