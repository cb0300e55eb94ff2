import ScrollTimeline.Proofs.Pass.Outcome
import ScrollTimeline.Proofs.Script.Places

/-!
Taking out what is dropped.

A directive that fails leaves the draft as it was, so without it the other directives do what they did
before. A page whose texts have lost all the parts that were reported compiles to the same records and
has nothing to report.
-/
set_option autoImplicit false

namespace ScrollTimeline

variable {α : Type} [Arithmetic α]

/-! ### One element -/

namespace Directive

def faults (lookup : Lookup α) (absolute : Bool) (offset : α) (draft : Draft α) :
    List (Directive × Nat) → List (DirectiveError α × Nat)
  | [] => []
  | (directive, place) :: rest =>
    match directive.apply lookup absolute offset draft with
    | .ok next => faults lookup absolute offset next rest
    | .error error => (error, place) :: faults lookup absolute offset draft rest

variable {lookup : Lookup α} {absolute : Bool} {offset : α}

theorem map_fst_faults (directives : List (Directive × Nat)) (draft : Draft α) :
    (faults lookup absolute offset draft directives).map Prod.fst =
      (applyAll lookup absolute offset draft (directives.map Prod.fst)).2 := by
  induction directives generalizing draft with
  | nil => rfl
  | cons first rest ih =>
    obtain ⟨directive, place⟩ := first
    cases applied : directive.apply lookup absolute offset draft with
    | ok next => simp [faults, applyAll, applied, ih]
    | error error => simp [faults, applyAll, applied, ih]

theorem place_of_fault {directives : List (Directive × Nat)} {draft : Draft α}
    {fault : DirectiveError α × Nat}
    (member : fault ∈ faults lookup absolute offset draft directives) :
    ∃ directive ∈ directives, directive.2 = fault.2 := by
  induction directives generalizing draft with
  | nil => cases member
  | cons first rest ih =>
    obtain ⟨directive, place⟩ := first
    rw [faults] at member
    cases applied : directive.apply lookup absolute offset draft with
    | ok next =>
      rw [applied] at member
      obtain ⟨other, there, same⟩ := ih member
      exact ⟨other, List.mem_cons_of_mem _ there, same⟩
    | error error =>
      rw [applied] at member
      rcases List.mem_cons.mp member with rfl | later
      · exact ⟨_, List.mem_cons_self, rfl⟩
      · obtain ⟨other, there, same⟩ := ih later
        exact ⟨other, List.mem_cons_of_mem _ there, same⟩

/-- Without the directives that fail, the others make the same draft and none of them fails. -/
theorem applyAll_filter {directives : List (Directive × Nat)} {draft : Draft α}
    {places : List Nat} (distinct : (directives.map Prod.snd).Nodup)
    (failing : ∀ directive ∈ directives, directive.2 ∈ places ↔
      directive.2 ∈ (faults lookup absolute offset draft directives).map Prod.snd) :
    applyAll lookup absolute offset draft
        ((directives.filter fun directive => directive.2 ∉ places).map Prod.fst) =
      ((applyAll lookup absolute offset draft (directives.map Prod.fst)).1, []) := by
  induction directives generalizing draft with
  | nil => rfl
  | cons first rest ih =>
    obtain ⟨directive, place⟩ := first
    obtain ⟨failingFirst, failingRest⟩ := List.forall_mem_cons.mp failing
    obtain ⟨fresh, distinctRest⟩ := List.nodup_cons.mp distinct
    cases applied : directive.apply lookup absolute offset draft with
    | ok next =>
      simp only [faults, applied] at failingFirst failingRest
      have kept : place ∉ places := by
        rw [failingFirst]
        intro reported
        obtain ⟨fault, member, same⟩ := List.mem_map.mp reported
        obtain ⟨other, there, samePlace⟩ := place_of_fault member
        exact fresh (same ▸ samePlace ▸ List.mem_map_of_mem there)
      have later := ih distinctRest failingRest
      simp only [List.filter_cons, kept, not_false_eq_true, decide_true, if_true, List.map_cons,
        applyAll, applied]
      exact later
    | error error =>
      simp only [faults, applied, List.map_cons, List.mem_cons, true_or, iff_true]
        at failingFirst failingRest
      have later : ∀ other ∈ rest, other.2 ∈ places ↔
          other.2 ∈ (faults lookup absolute offset draft rest).map Prod.snd := by
        intro other there
        have differ : other.2 ≠ place := by
          intro same
          exact fresh (List.mem_map.mpr ⟨other, there, same⟩)
        simpa [differ] using failingRest other there
      have gone := ih distinctRest later
      simp only [List.filter_cons, failingFirst, not_true_eq_false, decide_false,
        Bool.false_eq_true, if_false, List.map_cons, applyAll, applied]
      exact gone

end Directive

namespace Entry

/-- All that is reported of an entry, with the places of the parts it is reported for. -/
def faults (lookup : Lookup α) (geometry : Geometry α) (entry : Entry) :
    List (DirectiveError α × Nat) :=
  let script := PlacedScript.ofText entry.directives
  script.errors.map (fun error => (.unreadable error.1, error.2)) ++
    Directive.faults lookup script.absolute
      (fadeOffset script.absolute (geometry.relativeHeight entry.handle)) .initial
      script.directives

/-- The entry without the parts of its text for which something is reported. -/
def pruned (lookup : Lookup α) (geometry : Geometry α) (entry : Entry) : Entry :=
  { entry with
    directives :=
      Script.without ((entry.faults lookup geometry).map Prod.snd) entry.directives }

variable (lookup : Lookup α) (geometry : Geometry α) (entry : Entry)

theorem directives_pruned : (entry.pruned lookup geometry).directives =
    Script.without ((entry.faults lookup geometry).map Prod.snd) entry.directives := by
  rw [pruned]

theorem handle_pruned : (entry.pruned lookup geometry).handle = entry.handle := by
  rw [pruned]

theorem effectiveId_pruned (idPrefix : String) (index : Nat) :
    (entry.pruned lookup geometry).effectiveId idPrefix index =
      entry.effectiveId idPrefix index := by
  simp only [effectiveId, pruned]

theorem diagnostics_prepare (idPrefix : String) (index : Nat) :
    let element := entry.prepare geometry idPrefix index
    element.diagnostics (element.compile lookup).errors =
      (entry.faults lookup geometry).map fun fault =>
        ⟨entry.effectiveId idPrefix index, fault.1⟩ := by
  intro element
  have script : element.script = (PlacedScript.ofText entry.directives).forget :=
    (PlacedScript.forget_ofText entry.directives).symm
  have dropped : (element.compile lookup).errors =
      (Directive.faults lookup (PlacedScript.ofText entry.directives).absolute
        (fadeOffset (PlacedScript.ofText entry.directives).absolute
          (geometry.relativeHeight entry.handle)) .initial
        (PlacedScript.ofText entry.directives).directives).map Prod.fst := by
    rw [Directive.map_fst_faults]
    simp only [Element.compile, Element.offset, script]
    rfl
  rw [Element.diagnostics, dropped, script]
  simp only [faults, PlacedScript.forget, List.map_append, List.map_map]
  rfl

theorem ofText_pruned :
    Script.ofText (entry.pruned lookup geometry).directives =
      ⟨(PlacedScript.ofText entry.directives).absolute,
        ((PlacedScript.ofText entry.directives).directives.filter fun directive =>
          directive.2 ∉ (entry.faults lookup geometry).map Prod.snd).map Prod.fst,
        []⟩ := by
  rw [directives_pruned]
  refine PlacedScript.ofText_without ?_ ?_
  · intro place taken
    obtain ⟨fault, member, rfl⟩ := List.mem_map.mp taken
    rcases List.mem_append.mp member with unreadable | dropped
    · obtain ⟨error, there, rfl⟩ := List.mem_map.mp unreadable
      exact PlacedScript.place_of_error there
    · obtain ⟨directive, there, same⟩ := Directive.place_of_fault dropped
      exact same ▸ PlacedScript.place_of_directive there
  · intro error there
    exact List.mem_map.mpr ⟨(.unreadable error.1, error.2),
      List.mem_append_left _ (List.mem_map_of_mem there), rfl⟩

theorem applyAll_pruned :
    let script := PlacedScript.ofText entry.directives
    let offset := fadeOffset script.absolute (geometry.relativeHeight entry.handle)
    Directive.applyAll lookup script.absolute offset .initial
        ((script.directives.filter fun directive =>
          directive.2 ∉ (entry.faults lookup geometry).map Prod.snd).map Prod.fst) =
      ((Directive.applyAll lookup script.absolute offset .initial
        (script.directives.map Prod.fst)).1, []) := by
  intro script offset
  refine Directive.applyAll_filter (PlacedScript.nodup_directives entry.directives) ?_
  intro directive there
  -- A place at which a directive stands is none at which a part could not be read.
  have readable : directive.2 ∉
      (script.errors.map fun error =>
        ((DirectiveError.unreadable error.1 : DirectiveError α), error.2)).map Prod.snd := by
    intro taken
    obtain ⟨fault, member, same⟩ := List.mem_map.mp taken
    obtain ⟨error, inErrors, rfl⟩ := List.mem_map.mp member
    exact PlacedScript.place_ne there inErrors same.symm
  rw [faults, List.map_append, List.mem_append]
  exact or_iff_right readable

variable (idPrefix : String) (index : Nat)

theorem compile_prepare_pruned :
    ((entry.pruned lookup geometry).prepare geometry idPrefix index).compile lookup =
      ⟨((entry.prepare geometry idPrefix index).compile lookup).record, []⟩ := by
  have applied := entry.applyAll_pruned lookup geometry
  have script : Script.ofText entry.directives =
      (PlacedScript.ofText entry.directives).forget :=
    (PlacedScript.forget_ofText entry.directives).symm
  simp only [prepare, Element.compile, Element.offset, ofText_pruned, script, handle_pruned,
    effectiveId_pruned, PlacedScript.forget, applied, Element.finish]

theorem meaningful_pruned {directive : Directive}
    (member : directive ∈ (Script.ofText (entry.pruned lookup geometry).directives).meaningful) :
    directive ∈ (Script.ofText entry.directives).meaningful := by
  rw [ofText_pruned] at member
  rw [← PlacedScript.forget_ofText]
  simp only [Script.meaningful, PlacedScript.forget, List.mem_filter, List.mem_map] at member ⊢
  obtain ⟨⟨placed, ⟨there, _⟩, same⟩, allowed⟩ := member
  exact ⟨⟨placed, there, same⟩, allowed⟩

end Entry

/-! ### Pages -/

omit [Arithmetic α] in
theorem Pass.complete_eq_of_ids {elements others : List (Element α)} (records : List (Record α))
    (same : elements.map Element.id = others.map Element.id) :
    complete elements records = complete others records := by
  funext id
  have places : (indexOf? elements id).map Fin.val = (indexOf? others id).map Fin.val := by
    have all : ∀ list : List (Element α), (indexOf? list id).map Fin.val =
        (list.map Element.id).findIdx? (· = id) := by
      intro list
      rw [indexOf?, List.findIdx?_map]
      exact (List.findIdx?_eq_map_findFinIdx?_val).symm
    rw [all, all, same]
  cases found : indexOf? elements id with
  | none =>
    rw [found] at places
    rw [complete_of_none found, complete_of_none (Option.map_eq_none_iff.mp places.symm)]
  | some index =>
    rw [found] at places
    obtain ⟨other, found', value⟩ := Option.map_eq_some_iff.mp places.symm
    simp only [complete, found, found', value]

variable {entries : List Entry} {geometry : Geometry α} {idPrefix : String} {report : Report α}

theorem ids_pruned (lookup : Lookup α) :
    (entries.map (Entry.pruned lookup geometry)).mapIdx (Entry.effectiveId idPrefix) =
      entries.mapIdx (Entry.effectiveId idPrefix) := by
  refine List.ext_getElem? fun index => ?_
  simp only [List.getElem?_mapIdx, List.getElem?_map, Option.map_map, Function.comp_def,
    Entry.effectiveId_pruned]

theorem names_of_pruned (lookup : Lookup α) {source target : String}
    (names : Names (entries.map (Entry.pruned lookup geometry)) idPrefix source target) :
    Names entries idPrefix source target := by
  obtain ⟨⟨index, entry, there, same, directive, member, named⟩, known⟩ := names
  rw [ids_pruned] at known
  rw [List.getElem?_map] at there
  obtain ⟨original, inEntries, rfl⟩ := Option.map_eq_some_iff.mp there
  rw [Entry.effectiveId_pruned] at same
  have before := original.meaningful_pruned lookup geometry member
  exact ⟨⟨index, original, inEntries, same, directive, before, named⟩, known⟩

theorem isFixpoint_pruned
    (made : compileElements (elementsOf entries geometry idPrefix) = .ok report) :
    let lookup := Pass.complete (elementsOf entries geometry idPrefix) report.records
    let kept := entries.map (Entry.pruned lookup geometry)
    Pass.IsFixpoint (elementsOf kept geometry idPrefix) report.records := by
  intro lookup kept
  have isFixpoint := Pass.isFixpoint_of_compileElements made
  have known : Pass.complete (elementsOf kept geometry idPrefix) report.records = lookup := by
    refine Pass.complete_eq_of_ids _ ?_
    rw [map_id_elementsOf, map_id_elementsOf, ids_pruned]
  refine ⟨?_, ?_⟩
  · rw [isFixpoint.length]
    simp [elementsOf, kept]
  · intro index
    have inside : index.val < (elementsOf entries geometry idPrefix).length := by
      simpa [elementsOf, kept] using index.isLt
    have before := isFixpoint.fixed ⟨index.val, inside⟩
    have inEntries : index.val < entries.length := by
      simpa [elementsOf] using inside
    rw [known, before]
    have original : (elementsOf entries geometry idPrefix).get ⟨index.val, inside⟩ =
        entries[index.val].prepare geometry idPrefix index.val := by
      simp [elementsOf]
    have remaining : (elementsOf kept geometry idPrefix).get index =
        (entries[index.val].pruned lookup geometry).prepare geometry idPrefix index.val := by
      rw [List.get_eq_getElem]
      simp [elementsOf, kept]
    rw [original, remaining, Entry.compile_prepare_pruned]

theorem compileElements_pruned
    (distinct : ((elementsOf entries geometry idPrefix).map Element.id).Nodup)
    (made : compileElements (elementsOf entries geometry idPrefix) = .ok report) :
    let lookup := Pass.complete (elementsOf entries geometry idPrefix) report.records
    let kept := entries.map (Entry.pruned lookup geometry)
    compileElements (elementsOf kept geometry idPrefix) =
      .ok ⟨report.records, report.totalExtent, []⟩ := by
  intro lookup kept
  have names : (elementsOf kept geometry idPrefix).map Element.id =
      (elementsOf entries geometry idPrefix).map Element.id := by
    rw [map_id_elementsOf, map_id_elementsOf, ids_pruned]
  have distinct' : ((elementsOf kept geometry idPrefix).map Element.id).Nodup := names ▸ distinct
  have straight : ¬ Pass.Circular (elementsOf kept geometry idPrefix) := by
    rintro ⟨id, around⟩
    refine Pass.not_circular_of_compileElements distinct made ⟨id, ?_⟩
    rw [reads_elementsOf] at around ⊢
    exact Relation.TransGen.mono (fun _ _ => names_of_pruned lookup) _ _ around
  obtain ⟨again, remade⟩ := Pass.compileElements_eq_ok_of_not_circular distinct' straight
  obtain ⟨order, found, _, shape⟩ := Pass.compileElements_eq_ok remade
  have records : again.records = report.records :=
    (Pass.isFixpoint_of_compileElements remade).unique (ReferenceGraph.ordered_of_order found)
      (isFixpoint_pruned made)
  rw [remade]
  have extent : again.totalExtent = report.totalExtent := by
    obtain ⟨_, _, _, shape'⟩ := Pass.compileElements_eq_ok made
    have measured : again.totalExtent = extentOf again.records := by
      rw [shape]
      rfl
    have measured' : report.totalExtent = extentOf report.records := by
      rw [shape']
      rfl
    rw [measured, measured', records]
  have silent : again.diagnostics = [] := by
    have known : Pass.complete (elementsOf kept geometry idPrefix) report.records = lookup :=
      Pass.complete_eq_of_ids _ names
    rw [shape, Pass.diagnostics_ofCompiled, records, known, List.flatMap_eq_nil_iff]
    intro element member
    obtain ⟨index, inside, rfl⟩ := List.mem_mapIdx.mp member
    rw [List.getElem_map, Element.diagnostics, Entry.compile_prepare_pruned]
    simp [Entry.prepare, Entry.ofText_pruned]
  obtain ⟨_, _, _⟩ := again
  cases records
  cases extent
  cases silent
  rfl

/-- Exactly the reported parts are in the way: without them a page compiles, strictly too, to what it
compiled to with them, and with nothing to report. -/
theorem compile_pruned (entries : List Entry) (geometry : Geometry α) (idPrefix : String)
    (report : Report α) (compiled : compile entries geometry ⟨false, idPrefix⟩ = .ok report) :
    let lookup := Pass.complete (elementsOf entries geometry idPrefix) report.records
    report.diagnostics = (entries.mapIdx fun index entry =>
        (entry.faults lookup geometry).map fun fault =>
          ⟨entry.effectiveId idPrefix index, fault.1⟩).flatten ∧
      ∀ strict, compile (entries.map (Entry.pruned lookup geometry)) geometry ⟨strict, idPrefix⟩ =
        .ok ⟨report.records, report.totalExtent, []⟩ := by
  intro lookup
  obtain ⟨distinct, made⟩ := compile_eq_ok compiled
  refine ⟨?_, ?_⟩
  · obtain ⟨_, _, _, shape⟩ := Pass.compileElements_eq_ok made
    conv_lhs => rw [shape]
    rw [Pass.diagnostics_ofCompiled, List.flatMap_def]
    refine congrArg List.flatten (List.ext_getElem? fun index => ?_)
    rw [List.getElem?_map, elementsOf, List.getElem?_mapIdx, List.getElem?_mapIdx, Option.map_map]
    refine congrArg (Option.map · _) (funext fun entry => ?_)
    exact entry.diagnostics_prepare lookup geometry idPrefix index
  · intro strict
    have fresh : repeatedId? [] ((entries.map (Entry.pruned lookup geometry)).mapIdx
        (Entry.effectiveId idPrefix)) = none := by
      rw [ids_pruned, repeatedId?_eq_none_iff, ← map_id_elementsOf entries geometry]
      exact distinct
    rw [compile_of_distinct fresh, compileElements_pruned distinct made]
    cases strict <;> rfl

def untidy : List Entry :=
  [⟨some "a", " !absolute; colour red ;; x 0 -1; enter after-exit b 5; x like c 1;duration 0", 0⟩,
    ⟨some "b", "x 1; enter 20; ease 2 0 0 1; duration 30", 1⟩]

theorem compile_pruned_untidy :
    let geometry := Geometry.ofHeights (1000 : Rat) []
    ∃ report kept, compile untidy geometry .default = .ok report ∧
      report.diagnostics.length = 5 ∧
      kept.map Entry.directives =
        [" !absolute;; x 0 -1; enter after-exit b 5", " enter 20; duration 30"] ∧
      compile kept geometry ⟨true, "scroll-"⟩ =
        .ok ⟨report.records, report.totalExtent, []⟩ := by
  intro geometry
  have values : (compile untidy geometry .default).map (fun report =>
      (report.diagnostics.length, (untidy.map (Entry.pruned (Pass.complete
        (elementsOf untidy geometry "scroll-") report.records) geometry)).map Entry.directives)) =
      .ok (5, [" !absolute;; x 0 -1; enter after-exit b 5", " enter 20; duration 30"]) := by
    decide +kernel
  cases compiled : compile untidy geometry .default with
  | error error =>
    rw [compiled] at values
    cases values
  | ok report =>
    rw [compiled] at values
    obtain ⟨count, texts⟩ := Prod.mk.inj (Except.ok.inj values)
    exact ⟨report, _, rfl, count, texts,
      (compile_pruned untidy geometry "scroll-" report compiled).2 true⟩

end ScrollTimeline
