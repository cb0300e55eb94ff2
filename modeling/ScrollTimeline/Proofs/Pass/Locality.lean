import Mathlib.Data.Set.Defs
import ScrollTimeline.Proofs.Pass.Fixpoint

/-!
What an element's record depends on.

Two pages may have a group of entries in common that refer to nothing else on either page. Whatever
stands around these entries, and in whichever order all of them come, they compile to the same records
and are reported for the same errors.
-/
set_option autoImplicit false

namespace ScrollTimeline

variable {α : Type} [Arithmetic α]

def Compiled.withHandle {α : Type} (handle : Nat) (compiled : Compiled α) : Compiled α :=
  { compiled with record := compiled.record.withHandle handle }

theorem Element.compile_with_handle (element : Element α) (handle : Nat) (lookup : Lookup α) :
    ({ element with handle := handle } : Element α).compile lookup =
      (element.compile lookup).withHandle handle :=
  rfl

def Describes (entries : List Entry) (geometry : Geometry α) (idPrefix id text : String)
    (height : α) : Prop :=
  ∃ (index : Nat) (entry : Entry), entries[index]? = some entry ∧
    entry.effectiveId idPrefix index = id ∧ entry.directives = text ∧
    geometry.relativeHeight entry.handle = height

theorem Describes.exists_element {entries : List Entry} {geometry : Geometry α}
    {idPrefix id text : String} {height : α}
    (describes : Describes entries geometry idPrefix id text height) :
    ∃ index : Fin (elementsOf entries geometry idPrefix).length, ∃ handle,
      (elementsOf entries geometry idPrefix).get index = ⟨id, handle, height, Script.ofText text⟩ := by
  obtain ⟨index, entry, there, rfl, rfl, rfl⟩ := describes
  have inside : index < entries.length := (List.getElem?_eq_some_iff.mp there).1
  have inElements : index < (elementsOf entries geometry idPrefix).length := by
    simpa [elementsOf] using inside
  refine ⟨⟨index, inElements⟩, entry.handle, ?_⟩
  have same : entries[index] = entry := (List.getElem?_eq_some_iff.mp there).2
  simp [elementsOf, Entry.prepare, same]

/-- Two reports have one record each with this id, the same but perhaps for the handle, and they have the
same diagnostics for it. -/
def Report.AgreeAt (one other : Report α) (id : String) : Prop :=
  (∃ record record', one.records.filter (fun record => record.id = id) = [record] ∧
      other.records.filter (fun record => record.id = id) = [record'] ∧
      record.withHandle record'.handle = record') ∧
    one.diagnostics.filter (fun diagnostic => diagnostic.id = id) =
      other.diagnostics.filter (fun diagnostic => diagnostic.id = id)

namespace Pass

structure Shares (shared : Set String) (elements others : List (Element α)) : Prop where
  same : ∀ id ∈ shared, ∃ (index : Fin elements.length) (other : Fin others.length),
    (elements.get index).id = id ∧
      others.get other = { elements.get index with handle := (others.get other).handle }
  closed : ∀ index : Fin elements.length, (elements.get index).id ∈ shared →
    ∀ target ∈ (elements.get index).targets,
      target ∈ shared ∨ indexOf? elements target = none ∧ indexOf? others target = none

variable {elements others : List (Element α)} {records records' : List (Record α)}
  {shared : Set String}

theorem IsFixpoint.complete_id (isFixpoint : IsFixpoint elements records)
    (distinct : (elements.map Element.id).Nodup) (index : Fin elements.length) :
    complete elements records (elements.get index).id =
      .ok ((elements.get index).compile (complete elements records)).record :=
  complete_of_some (indexOf?_id distinct index) (isFixpoint.fixed index)

theorem Shares.compile_eq (shares : Shares shared elements others) {index : Fin elements.length}
    {other : Fin others.length} (member : (elements.get index).id ∈ shared)
    (same : others.get other = { elements.get index with handle := (others.get other).handle })
    (targets : ∀ target ∈ (elements.get index).targets, target ∈ shared →
      (complete elements records).AlikeAt (complete others records') target) :
    (others.get other).compile (complete others records') =
      ((elements.get index).compile (complete elements records)).withHandle
        (others.get other).handle := by
  have alike : (elements.get index).compile (complete elements records) =
      (elements.get index).compile (complete others records') := by
    refine (elements.get index).compile_eq_of_alike ?_
    intro target named
    rcases shares.closed index member target named with inside | ⟨missing, missing'⟩
    · exact targets target named inside
    · refine Lookup.alikeAt_of_eq ?_
      rw [complete_of_none missing, complete_of_none missing']
  rw [alike, ← Element.compile_with_handle, ← same]

theorem Shares.alikeAt (shares : Shares shared elements others)
    {order : List (Fin elements.length)} (ordered : (graph elements).Ordered order)
    (distinct : (elements.map Element.id).Nodup) (distinct' : (others.map Element.id).Nodup)
    (isFixpoint : IsFixpoint elements records) (isFixpoint' : IsFixpoint others records') :
    ∀ id ∈ shared, (complete elements records).AlikeAt (complete others records') id := by
  -- The induction runs along an order of the first page; that of the second one plays no part.
  have everywhere : ∀ index : Fin elements.length, (elements.get index).id ∈ shared →
      (complete elements records).AlikeAt (complete others records') (elements.get index).id := by
    refine ordered.induction fun index ih member => ?_
    obtain ⟨place, other, sameId, same⟩ := shares.same _ member
    obtain rfl := eq_of_same_id distinct sameId
    have targets : ∀ target ∈ (elements.get place).targets, target ∈ shared →
        (complete elements records).AlikeAt (complete others records') target := by
      intro target named inside
      obtain ⟨read, _, rfl, _⟩ := shares.same target inside
      exact ih read (mem_targetsOf_of_mem_targets distinct named) inside
    have compiled := shares.compile_eq member same targets
    have otherId : (others.get other).id = (elements.get place).id := by
      rw [same]
    have known' := isFixpoint'.complete_id distinct' other
    rw [otherId, compiled] at known'
    rw [Lookup.AlikeAt, isFixpoint.complete_id distinct place, known']
    rfl
  intro id member
  obtain ⟨index, _, rfl, _⟩ := shares.same id member
  exact everywhere index member

theorem Shares.agreeAt {report report' : Report α} (shares : Shares shared elements others)
    (distinct : (elements.map Element.id).Nodup) (distinct' : (others.map Element.id).Nodup)
    (made : compileElements elements = .ok report)
    (made' : compileElements others = .ok report') :
    ∀ id ∈ shared, report.AgreeAt report' id := by
  intro id member
  obtain ⟨order, found, _, shape⟩ := compileElements_eq_ok made
  obtain ⟨_, _, _, shape'⟩ := compileElements_eq_ok made'
  have alike := shares.alikeAt (ReferenceGraph.ordered_of_order found) distinct distinct'
    (isFixpoint_of_compileElements made) (isFixpoint_of_compileElements made')
  obtain ⟨index, other, rfl, same⟩ := shares.same id member
  have again := shares.compile_eq member same fun target _ inside => alike target inside
  have otherId : (others.get other).id = (elements.get index).id := by
    rw [same]
  have inElements : elements.get index ∈ elements := List.get_mem elements index
  have inOthers : others.get other ∈ others := List.get_mem others other
  refine ⟨⟨((elements.get index).compile (complete elements report.records)).record,
    ((others.get other).compile (complete others report'.records)).record, ?_, ?_, ?_⟩, ?_⟩
  · conv_lhs => rw [shape]
    exact filter_records_ofCompiled _ (fun _ => rfl) distinct inElements
  · rw [← otherId]
    conv_lhs => rw [shape']
    exact filter_records_ofCompiled _ (fun _ => rfl) distinct' inOthers
  · rw [again]
    rfl
  · conv_lhs => rw [shape]
    rw [filter_diagnostics_ofCompiled _ distinct inElements, ← otherId]
    conv_rhs => rw [shape']
    rw [filter_diagnostics_ofCompiled _ distinct' inOthers, again, same]
    rfl

end Pass

open Pass

variable {entries entries' : List Entry} {geometry geometry' : Geometry α}
  {options options' : CompileOptions} {shared : Set String}

/-- The chosen ids stand for the same text and the same height on both pages, and the texts name no
other ids that there are on either page. -/
def Common (entries entries' : List Entry) (geometry geometry' : Geometry α)
    (options options' : CompileOptions) (shared : Set String) : Prop :=
  ∀ id ∈ shared, ∃ text height,
    Describes entries geometry options.idPrefix id text height ∧
      Describes entries' geometry' options'.idPrefix id text height ∧
      ∀ directive ∈ (Script.ofText text).meaningful, ∀ target ∈ directive.targets,
        target ∈ shared ∨ target ∉ entries.mapIdx (Entry.effectiveId options.idPrefix) ∧
          target ∉ entries'.mapIdx (Entry.effectiveId options'.idPrefix)

theorem indexOf?_of_not_mem {idPrefix id : String}
    (absent : id ∉ entries.mapIdx (Entry.effectiveId idPrefix)) :
    indexOf? (elementsOf entries geometry idPrefix) id = none := by
  rw [indexOf?_eq_none_iff]
  intro element member same
  rw [← map_id_elementsOf entries geometry] at absent
  exact absent (same ▸ List.mem_map_of_mem member)

theorem shares_of_common (common : Common entries entries' geometry geometry' options options' shared)
    (distinct : ((elementsOf entries geometry options.idPrefix).map Element.id).Nodup) :
    Shares shared (elementsOf entries geometry options.idPrefix)
      (elementsOf entries' geometry' options'.idPrefix) := by
  refine ⟨?_, ?_⟩
  · intro id member
    obtain ⟨text, height, here, there, _⟩ := common id member
    obtain ⟨index, handle, shape⟩ := here.exists_element
    obtain ⟨other, handle', shape'⟩ := there.exists_element
    refine ⟨index, other, ?_, ?_⟩
    · rw [shape]
    · rw [shape, shape']
  · intro index member target named
    obtain ⟨text, height, here, _, closed⟩ := common _ member
    obtain ⟨place, handle, shape⟩ := here.exists_element
    have same : place = index := eq_of_same_id distinct (by rw [shape])
    subst same
    rw [shape] at named
    obtain ⟨directive, meaningful, there⟩ := List.mem_flatMap.mp named
    rcases closed directive meaningful target there with inside | ⟨absent, absent'⟩
    · exact .inl inside
    · exact .inr ⟨indexOf?_of_not_mem absent, indexOf?_of_not_mem absent'⟩

/-- What two pages have in common compiles to the same records, but for the handles, and is reported
for the same errors. -/
theorem compile_local (entries entries' : List Entry) (geometry geometry' : Geometry α)
    (options options' : CompileOptions) (report report' : Report α) (shared : Set String)
    (compiled : compile entries geometry options = .ok report)
    (compiled' : compile entries' geometry' options' = .ok report')
    (common : Common entries entries' geometry geometry' options options' shared) :
    ∀ id ∈ shared, report.AgreeAt report' id := by
  obtain ⟨distinct, made⟩ := compile_eq_ok compiled
  obtain ⟨distinct', made'⟩ := compile_eq_ok compiled'
  exact (shares_of_common common distinct).agreeAt distinct distinct' made made'

def readingBehind : List Entry :=
  [⟨some "d", "leave like a", 0⟩, ⟨some "b", "enter 20; duration 30", 2⟩,
    ⟨some "a", "enter after-exit b 5; duration like c", 3⟩]

theorem compile_local_readingBehind :
    let geometry := Geometry.ofHeights (1000 : Rat) [200, 300]
    let geometry' := Geometry.ofHeights (2000 : Rat) [0, 0, 600, 400]
    ∃ report report', compile readingAhead geometry .default = .ok report ∧
      compile readingBehind geometry' .default = .ok report' ∧
        report.AgreeAt report' "a" ∧ report.AgreeAt report' "b" := by
  intro geometry geometry'
  have common : Common readingAhead readingBehind geometry geometry' .default .default
      {"a", "b"} := by
    rintro id (rfl | rfl)
    · have meaningful : (Script.ofText "enter after-exit b 5; duration like c").meaningful =
          [.enter (.reference .afterExit "b" ⟨false, 5, 0⟩), .duration (.like "c")] := by
        decide +kernel
      refine ⟨_, 20, ⟨0, _, rfl, rfl, rfl, by decide +kernel⟩,
        ⟨2, _, rfl, rfl, rfl, by decide +kernel⟩, ?_⟩
      rw [meaningful]
      rintro directive (_ | ⟨_, _ | ⟨_, last⟩⟩) target named
      · exact .inl (.inr (List.mem_singleton.mp named))
      · rw [List.mem_singleton.mp named]
        exact .inr ⟨by decide +kernel, by decide +kernel⟩
      · cases last
    · have meaningful : (Script.ofText "enter 20; duration 30").meaningful =
          [.enter (.literal ⟨false, 20, 0⟩), .duration (.literal ⟨false, 30, 0⟩)] := by
        decide +kernel
      refine ⟨_, 30, ⟨1, _, rfl, rfl, rfl, by decide +kernel⟩,
        ⟨1, _, rfl, rfl, rfl, by decide +kernel⟩, ?_⟩
      rw [meaningful]
      rintro directive (_ | ⟨_, _ | ⟨_, last⟩⟩) target named
      · cases named
      · cases named
      · cases last
  have made : (compile readingAhead geometry .default).isOk = true := by decide +kernel
  have made' : (compile readingBehind geometry' .default).isOk = true := by decide +kernel
  cases compiled : compile readingAhead geometry .default with
  | error error =>
    rw [compiled] at made
    cases made
  | ok report =>
    cases compiled' : compile readingBehind geometry' .default with
    | error error =>
      rw [compiled'] at made'
      cases made'
    | ok report' =>
      have agree := compile_local readingAhead readingBehind geometry geometry' .default .default
        report report' {"a", "b"} compiled compiled' common
      exact ⟨report, report', rfl, rfl, agree "a" (.inl rfl), agree "b" (.inr rfl)⟩

end ScrollTimeline
