import ScrollTimeline.Proofs.Pass.Fixpoint

/-!
How a compilation ends.

A page compiles unless an id occurs twice or its elements refer to each other in a circle, and a
repeated id is noticed first. What a page compiles to has one record for each entry, at its place and
under its id.
-/
set_option autoImplicit false

namespace ScrollTimeline

/-! ### Repeated ids -/

/-- The id at `later` stands at `earlier` already, and in front of `later` no id is repeated. -/
structure FirstRepeat (ids : List String) (id : String) (earlier later : Nat) : Prop where
  order : earlier < later
  there : ids[earlier]? = some id
  again : ids[later]? = some id
  distinct : (ids.take later).Nodup

namespace FirstRepeat

variable {ids : List String} {id : String} {earlier later : Nat}

theorem not_nodup_take (repeated : FirstRepeat ids id earlier later) {count : Nat}
    (beyond : later < count) : ¬ (ids.take count).Nodup := by
  intro distinct
  rw [List.nodup_iff_getElem?_ne_getElem?] at distinct
  have inside : later < ids.length := (List.getElem?_eq_some_iff.mp repeated.again).1
  have order := repeated.order
  refine distinct earlier later order ?_ ?_
  · simp only [List.length_take]
    omega
  · rw [List.getElem?_take_of_lt (by omega), List.getElem?_take_of_lt beyond, repeated.there,
      repeated.again]

theorem not_nodup (repeated : FirstRepeat ids id earlier later) : ¬ ids.Nodup := by
  have inside : later < ids.length := (List.getElem?_eq_some_iff.mp repeated.again).1
  have all := repeated.not_nodup_take inside
  rwa [List.take_length] at all

theorem unique (repeated : FirstRepeat ids id earlier later) {other : String}
    {earlier' later' : Nat} (repeated' : FirstRepeat ids other earlier' later') :
    id = other ∧ earlier = earlier' ∧ later = later' := by
  have sameLater : later = later' := by
    rcases Nat.lt_trichotomy later later' with before | here | after
    · exact absurd repeated'.distinct (repeated.not_nodup_take before)
    · exact here
    · exact absurd repeated.distinct (repeated'.not_nodup_take after)
  subst sameLater
  have sameId : id = other := Option.some.inj (repeated.again.symm.trans repeated'.again)
  subst sameId
  refine ⟨rfl, ?_, rfl⟩
  have inside : later < ids.length := (List.getElem?_eq_some_iff.mp repeated.again).1
  have order := repeated.order
  have order' := repeated'.order
  have fits : earlier < (ids.take later).length := by
    simp only [List.length_take]
    omega
  have taken : ∀ place < later, (ids.take later)[place]? = ids[place]? := by
    intro place before
    exact List.getElem?_take_of_lt before
  refine (List.getElem?_inj fits repeated.distinct).mp ?_
  rw [taken earlier order, taken earlier' order', repeated.there, repeated'.there]

end FirstRepeat

theorem firstRepeat_of_repeatedId? {seen ids : List String} (distinct : seen.Nodup)
    {id : String} {earlier later : Nat}
    (found : repeatedId? seen ids = some (id, earlier, later)) :
    FirstRepeat (seen ++ ids) id earlier later := by
  induction ids generalizing seen with
  | nil => cases found
  | cons head rest ih =>
    rw [repeatedId?] at found
    by_cases known : head ∈ seen
    · rw [if_pos known] at found
      cases found
      have inside := List.idxOf_lt_length_of_mem known
      refine ⟨inside, ?_, ?_, ?_⟩
      · rw [List.getElem?_append_left inside, List.getElem?_eq_getElem inside,
          List.getElem_idxOf inside]
      · simp
      · rw [List.take_left]
        exact distinct
    · rw [if_neg known] at found
      have longer : (seen ++ [head]).Nodup := by
        rw [List.nodup_append_comm]
        exact List.nodup_cons.mpr ⟨known, distinct⟩
      have later := ih longer found
      rwa [List.append_assoc, List.singleton_append] at later

theorem repeatedId?_eq_none_iff (ids : List String) : repeatedId? [] ids = none ↔ ids.Nodup := by
  constructor
  · intro fresh
    exact nodup_of_repeatedId? List.nodup_nil fresh
  · intro distinct
    cases answer : repeatedId? [] ids with
    | none => rfl
    | some found =>
      exact absurd distinct (firstRepeat_of_repeatedId? List.nodup_nil answer).not_nodup

/-! ### Circles of references -/

namespace Pass

variable {α : Type} {elements : List (Element α)}

def Reads (elements : List (Element α)) (source target : String) : Prop :=
  (∃ element ∈ elements, element.id = source ∧ target ∈ element.targets) ∧
    target ∈ elements.map Element.id

def Circular (elements : List (Element α)) : Prop :=
  ∃ id, Relation.TransGen (Reads elements) id id

theorem mem_ids (elements : List (Element α)) (index : Fin elements.length) :
    (elements.get index).id ∈ elements.map Element.id :=
  List.mem_map_of_mem (List.get_mem elements index)

theorem exists_index {id : String} (member : id ∈ elements.map Element.id) :
    ∃ index : Fin elements.length, (elements.get index).id = id := by
  obtain ⟨element, there, rfl⟩ := List.mem_map.mp member
  obtain ⟨index, rfl⟩ := List.get_of_mem there
  exact ⟨index, rfl⟩

theorem reads_iff (distinct : (elements.map Element.id).Nodup)
    (source target : Fin elements.length) :
    Reads elements (elements.get source).id (elements.get target).id ↔
      target ∈ (graph elements).targetsOf source := by
  constructor
  · rintro ⟨⟨element, there, same, named⟩, _⟩
    obtain ⟨index, rfl⟩ := List.get_of_mem there
    obtain rfl := eq_of_same_id distinct same
    exact mem_targetsOf_of_mem_targets distinct named
  · intro edge
    obtain ⟨id, named, found⟩ := (mem_targetsOf_graph elements source target).mp edge
    rw [id_of_indexOf? found]
    refine ⟨⟨elements.get source, List.get_mem elements source, rfl, named⟩, ?_⟩
    rw [← id_of_indexOf? found]
    exact mem_ids elements target

theorem transGen_reads (distinct : (elements.map Element.id).Nodup)
    {source : Fin elements.length} {id : String}
    (reached : Relation.TransGen (Reads elements) (elements.get source).id id) :
    ∃ target : Fin elements.length, (elements.get target).id = id ∧
      Relation.TransGen (fun v w => w ∈ (graph elements).targetsOf v) source target := by
  induction reached with
  | single step =>
    obtain ⟨target, rfl⟩ := exists_index step.2
    exact ⟨target, rfl, .single ((reads_iff distinct source target).mp step)⟩
  | tail _ step ih =>
    obtain ⟨between, rfl, walked⟩ := ih
    obtain ⟨target, rfl⟩ := exists_index step.2
    exact ⟨target, rfl, walked.tail ((reads_iff distinct between target).mp step)⟩

theorem circular_iff (distinct : (elements.map Element.id).Nodup) :
    Circular elements ↔
      ∃ index, Relation.TransGen (fun v w => w ∈ (graph elements).targetsOf v) index index := by
  constructor
  · rintro ⟨id, around⟩
    -- The last step leads to an element, so the circle goes through one with this id.
    obtain ⟨_, _, last⟩ := Relation.TransGen.tail'_iff.mp around
    obtain ⟨index, rfl⟩ := exists_index last.2
    obtain ⟨target, same, walked⟩ := transGen_reads distinct around
    obtain rfl := eq_of_same_id distinct same
    exact ⟨_, walked⟩
  · rintro ⟨index, around⟩
    refine ⟨(elements.get index).id, around.lift (fun v => (elements.get v).id) ?_⟩
    intro source target edge
    exact (reads_iff distinct source target).mpr edge

variable [Arithmetic α]

theorem compileElements_eq_ok_of_not_circular (distinct : (elements.map Element.id).Nodup)
    (straight : ¬ Circular elements) : ∃ report, compileElements elements = .ok report := by
  rw [compileElements]
  cases answer : (graph elements).namedOrder (ids elements) with
  | ok order => exact ⟨_, rfl⟩
  | error cycle =>
    cases found : (graph elements).order with
    | ok order =>
      rw [(ReferenceGraph.namedOrder_eq_ok_iff _ _ order).mpr found] at answer
      cases answer
    | error nodes =>
      have around := (ReferenceGraph.isCycle_of_order found).transGen
      exact absurd ((circular_iff distinct).mpr around) straight

theorem not_circular_of_compileElements (distinct : (elements.map Element.id).Nodup)
    {report : Report α} (compiled : compileElements elements = .ok report) :
    ¬ Circular elements := by
  obtain ⟨order, found, _⟩ := compileElements_eq_ok compiled
  rw [circular_iff distinct]
  rintro ⟨index, around⟩
  exact (ReferenceGraph.ordered_of_order found).not_transGen index around

end Pass

/-! ### Pages -/

variable {α : Type} [Arithmetic α]

/-- In a directive that has a meaning in its mode, the entry with the one id names the other id, and
there is an entry with that one too. -/
def Names (entries : List Entry) (idPrefix source target : String) : Prop :=
  (∃ (index : Nat) (entry : Entry), entries[index]? = some entry ∧
      entry.effectiveId idPrefix index = source ∧
      ∃ directive ∈ (Script.ofText entry.directives).meaningful, target ∈ directive.targets) ∧
    target ∈ entries.mapIdx (Entry.effectiveId idPrefix)

theorem reads_elementsOf (entries : List Entry) (geometry : Geometry α) (idPrefix : String) :
    Pass.Reads (elementsOf entries geometry idPrefix) = Names entries idPrefix := by
  funext source target
  rw [Pass.Reads, map_id_elementsOf, Names]
  refine propext (and_congr_left fun _ => ?_)
  constructor
  · rintro ⟨element, there, rfl, named⟩
    obtain ⟨index, inside, rfl⟩ := List.mem_iff_getElem.mp there
    have inEntries : index < entries.length := by
      simpa [elementsOf] using inside
    refine ⟨index, entries[index], List.getElem?_eq_getElem inEntries, ?_⟩
    simpa [elementsOf, Entry.prepare, Element.targets] using named
  · rintro ⟨index, entry, there, rfl, directive, member, named⟩
    refine ⟨entry.prepare geometry idPrefix index, ?_, rfl, ?_⟩
    · rw [elementsOf, List.mem_mapIdx]
      obtain ⟨inside, rfl⟩ := List.getElem?_eq_some_iff.mp there
      exact ⟨index, inside, rfl⟩
    · exact List.mem_flatMap.mpr ⟨directive, member, named⟩

/-- One record for each entry, at its place and under its id, and no others. -/
structure Report.Covers (report : Report α) (entries : List Entry) (geometry : Geometry α)
    (idPrefix : String) : Prop where
  length : report.records.length = entries.length
  record : ∀ (index : Nat) (entry : Entry), entries[index]? = some entry →
    ∃ record : Record α, report.records[index]? = some record ∧
      record.id = entry.effectiveId idPrefix index ∧ record.handle = entry.handle ∧
      record.height = geometry.relativeHeight entry.handle
  distinct : (report.records.map Record.id).Nodup
  found : ∀ index < entries.length, ∀ id,
    report.record? id = report.records[index]? ↔
      (entries.mapIdx (Entry.effectiveId idPrefix))[index]? = some id
  absent : ∀ id ∉ entries.mapIdx (Entry.effectiveId idPrefix), report.record? id = none

theorem map_id_records {entries : List Entry} {geometry : Geometry α} {options : CompileOptions}
    {report : Report α} (compiled : compile entries geometry options = .ok report) :
    report.records.map Record.id = entries.mapIdx (Entry.effectiveId options.idPrefix) := by
  obtain ⟨_, made⟩ := compile_eq_ok compiled
  obtain ⟨_, _, _, shape⟩ := Pass.compileElements_eq_ok made
  rw [shape, Pass.records_ofCompiled, List.map_map, ← map_id_elementsOf entries geometry]
  rfl

omit [Arithmetic α] in
theorem Report.record?_eq_some_iff {report : Report α}
    (distinct : (report.records.map Record.id).Nodup) {index : Nat} {record : Record α}
    (there : report.records[index]? = some record) (id : String) :
    report.record? id = some record ↔ record.id = id := by
  constructor
  · intro found
    rw [Report.record?] at found
    simpa using List.find?_some found
  · rintro rfl
    have member := List.mem_of_getElem? there
    cases found : report.record? record.id with
    | none =>
      have never := List.find?_eq_none.mp found record member
      simp at never
    | some other =>
      rw [Report.record?] at found
      have same : other.id = record.id := by simpa using List.find?_some found
      have inRecords : other ∈ report.records := List.mem_of_find?_eq_some found
      rw [List.inj_on_of_nodup_map distinct inRecords member same]

theorem covers_of_compile {entries : List Entry} {geometry : Geometry α}
    {options : CompileOptions} {report : Report α}
    (compiled : compile entries geometry options = .ok report) :
    report.Covers entries geometry options.idPrefix := by
  have names := map_id_records compiled
  obtain ⟨distinct, made⟩ := compile_eq_ok compiled
  rw [map_id_elementsOf, ← names] at distinct
  obtain ⟨_, _, _, shape⟩ := Pass.compileElements_eq_ok made
  have length : report.records.length = entries.length := by
    simpa using congrArg List.length names
  refine ⟨length, ?_, distinct, ?_, ?_⟩
  · intro index entry there
    rw [shape, Pass.records_ofCompiled, List.getElem?_map, elementsOf, List.getElem?_mapIdx, there]
    exact ⟨_, rfl, rfl, rfl, rfl⟩
  · intro index inside id
    have there := List.getElem?_eq_getElem (length ▸ inside : index < report.records.length)
    rw [there, Report.record?_eq_some_iff distinct there id, ← names, List.getElem?_map, there]
    simp
  · intro id absent
    refine List.find?_eq_none.mpr ?_
    intro record member same
    rw [← names] at absent
    exact absent (of_decide_eq_true same ▸ List.mem_map_of_mem member)

end ScrollTimeline
