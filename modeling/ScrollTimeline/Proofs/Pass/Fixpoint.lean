import ScrollTimeline.Proofs.Pass.Results

/-!
A report as the solution of an equation.

A pass compiles each element when some records are still missing. Its records are nevertheless those
that every element has when all of them are known, and since references do not run in circles there are
no other such records.
-/
set_option autoImplicit false

namespace ScrollTimeline.Pass

variable {α : Type} [Arithmetic α] {elements : List (Element α)}

/-- One record for each element, each the one that its element compiles to with all of them known. -/
structure IsFixpoint (elements : List (Element α)) (records : List (Record α)) : Prop where
  length : records.length = elements.length
  fixed : ∀ index : Fin elements.length, records[index.val]? =
    some ((elements.get index).compile (complete elements records)).record

theorem isFixpoint_of_compileElements {report : Report α}
    (compiled : compileElements elements = .ok report) : IsFixpoint elements report.records := by
  obtain ⟨_, _, _, shape⟩ := compileElements_eq_ok compiled
  have records : report.records = elements.map fun element =>
      (element.compile (complete elements report.records)).record := by
    conv_lhs => rw [shape]
    rw [records_ofCompiled]
  refine ⟨?_, ?_⟩
  · rw [records, List.length_map]
  · intro index
    conv_lhs => rw [records]
    simp

theorem IsFixpoint.getElem?_eq {records others : List (Record α)} (one : IsFixpoint elements records)
    (other : IsFixpoint elements others) {index : Fin elements.length}
    (targets : ∀ target ∈ (graph elements).targetsOf index,
      records[target.val]? = others[target.val]?) :
    records[index.val]? = others[index.val]? := by
  rw [one.fixed index, other.fixed index]
  have same : (elements.get index).compile (complete elements records) =
      (elements.get index).compile (complete elements others) := by
    refine (elements.get index).compile_eq_of_alike ?_
    intro id named
    refine Lookup.alikeAt_of_eq (complete_congr ?_)
    intro target found
    exact targets target ((mem_targetsOf_graph elements index target).mpr ⟨id, named, found⟩)
  rw [same]

theorem IsFixpoint.unique {order : List (Fin elements.length)}
    (ordered : (graph elements).Ordered order) {records others : List (Record α)}
    (one : IsFixpoint elements records) (other : IsFixpoint elements others) : records = others := by
  have everywhere : ∀ index : Fin elements.length, records[index.val]? = others[index.val]? :=
    ordered.induction fun index targets => one.getElem?_eq other targets
  refine List.ext_getElem? fun place => ?_
  by_cases inside : place < elements.length
  · exact everywhere ⟨place, inside⟩
  · have beyond := Nat.le_of_not_lt inside
    rw [List.getElem?_eq_none (one.length ▸ beyond), List.getElem?_eq_none (other.length ▸ beyond)]

/-- Compiled once more on the complete records, every element has the record and the errors that it got
in the pass and that the report has for it; and no other records are what their elements compile to. -/
theorem compile_fixpoint (entries : List Entry) (geometry : Geometry α) (options : CompileOptions)
    (report : Report α) (compiled : compile entries geometry options = .ok report) :
    let elements := elementsOf entries geometry options.idPrefix
    report.records.length = entries.length ∧
      (∃ order, (graph elements).order = .ok order ∧ ∀ index : Fin elements.length,
        let again := (elements.get index).compile (complete elements report.records)
        (run elements order).get index = some again ∧
          report.records[index.val]? = some again.record ∧
          report.diagnostics.filter (fun diagnostic => diagnostic.id = (elements.get index).id) =
            (elements.get index).diagnostics again.errors) ∧
      ∀ records : List (Record α), records.length = entries.length →
        (∀ index : Fin elements.length, records[index.val]? =
          some ((elements.get index).compile (complete elements records)).record) →
        records = report.records := by
  intro elements
  obtain ⟨distinct, made⟩ := compile_eq_ok compiled
  obtain ⟨order, found, known, shape⟩ := compileElements_eq_ok made
  have ordered := ReferenceGraph.ordered_of_order found
  have isFixpoint := isFixpoint_of_compileElements made
  have count : elements.length = entries.length := by simp [elements, elementsOf]
  refine ⟨isFixpoint.length.trans count, ⟨order, found, ?_⟩, ?_⟩
  · intro index again
    refine ⟨?_, isFixpoint.fixed index, ?_⟩
    · rw [get_run ordered index, known]
    · conv_lhs => rw [shape]
      exact filter_diagnostics_ofCompiled _ distinct (List.get_mem elements index)
  · intro records length fixed
    have other : IsFixpoint elements records := ⟨length.trans count.symm, fixed⟩
    exact other.unique ordered isFixpoint

def readingAhead : List Entry :=
  [⟨some "a", "enter after-exit b 5; duration like c", 0⟩, ⟨some "b", "enter 20; duration 30", 1⟩]

theorem compile_fixpoint_readingAhead :
    ∃ report, compile readingAhead (Geometry.ofHeights (1000 : Rat) []) .default = .ok report ∧
      report.records.map Record.enterAt = [55, 20] ∧
      report.diagnostics.map Diagnostic.error = [.unresolvable "c" .noSuchElement] ∧
      ∀ records, IsFixpoint (elementsOf readingAhead (Geometry.ofHeights (1000 : Rat) []) "scroll-")
        records → records = report.records := by
  have values : (compile readingAhead (Geometry.ofHeights (1000 : Rat) []) .default).map
      (fun report => (report.records.map Record.enterAt, report.diagnostics.map Diagnostic.error)) =
      .ok ([55, 20], [.unresolvable "c" .noSuchElement]) := by
    decide +kernel
  cases made : compile readingAhead (Geometry.ofHeights (1000 : Rat) []) .default with
  | error error =>
    rw [made] at values
    cases values
  | ok report =>
    rw [made] at values
    obtain ⟨times, errors⟩ := Prod.mk.inj (Except.ok.inj values)
    refine ⟨report, rfl, times, errors, ?_⟩
    intro records isFixpoint
    exact (compile_fixpoint readingAhead _ .default report made).2.2 records isFixpoint.length
      isFixpoint.fixed

end ScrollTimeline.Pass
