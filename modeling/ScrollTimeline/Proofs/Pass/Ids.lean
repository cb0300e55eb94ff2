import ScrollTimeline.Proofs.ReferenceGraph.Order
import ScrollTimeline.Report

/-!
Ids stand for elements: no two elements of a pass have the same one, so an id names at most one element
and the graph of references has an edge for each id that an element names and some element has.
-/
set_option autoImplicit false

namespace ScrollTimeline

theorem nodup_of_repeatedId? {seen ids : List String} (distinct : seen.Nodup)
    (none_repeated : repeatedId? seen ids = none) : (seen ++ ids).Nodup := by
  induction ids generalizing seen with
  | nil =>
    rw [List.append_nil]
    exact distinct
  | cons id rest ih =>
    rw [repeatedId?] at none_repeated
    split at none_repeated
    · cases none_repeated
    · rename_i fresh
      have longer : (seen ++ [id]).Nodup := by
        rw [List.nodup_append]
        refine ⟨distinct, List.nodup_singleton id, ?_⟩
        rintro other member _ same rfl
        exact fresh (List.mem_singleton.mp same ▸ member)
      have all := ih longer none_repeated
      rwa [List.append_assoc, List.singleton_append] at all

variable {α : Type}

namespace Pass

theorem indexOf?_eq_none_iff (elements : List (Element α)) (id : String) :
    indexOf? elements id = none ↔ ∀ element ∈ elements, element.id ≠ id := by
  simp [indexOf?]

theorem id_of_indexOf? {elements : List (Element α)} {id : String} {index : Fin elements.length}
    (found : indexOf? elements id = some index) : (elements.get index).id = id := by
  have first := (List.findFinIdx?_eq_some_iff.mp found).1
  exact of_decide_eq_true first

theorem eq_of_same_id {elements : List (Element α)} (distinct : (elements.map Element.id).Nodup)
    {index other : Fin elements.length} (same : (elements.get index).id = (elements.get other).id) :
    index = other := by
  have apart := List.pairwise_iff_getElem.mp (List.pairwise_map.mp distinct)
  rcases Nat.lt_trichotomy index.val other.val with before | here | after
  · exact absurd same (apart index.val other.val index.isLt other.isLt before)
  · exact Fin.ext here
  · exact absurd same.symm (apart other.val index.val other.isLt index.isLt after)

theorem indexOf?_id {elements : List (Element α)} (distinct : (elements.map Element.id).Nodup)
    (index : Fin elements.length) : indexOf? elements (elements.get index).id = some index := by
  cases found : indexOf? elements (elements.get index).id with
  | none =>
    have absent := (indexOf?_eq_none_iff elements _).mp found
    exact absurd rfl (absent (elements.get index) (List.get_mem elements index))
  | some other =>
    rw [eq_of_same_id distinct (id_of_indexOf? found)]

theorem mem_targetsOf_graph (elements : List (Element α)) (source target : Fin elements.length) :
    target ∈ (graph elements).targetsOf source ↔
      ∃ id ∈ (elements.get source).targets, indexOf? elements id = some target := by
  rw [graph, ReferenceGraph.mem_targetsOf_ofEdges]
  simp [edges]

theorem mem_targetsOf_of_mem_targets {elements : List (Element α)}
    (distinct : (elements.map Element.id).Nodup) {source target : Fin elements.length}
    (named : (elements.get target).id ∈ (elements.get source).targets) :
    target ∈ (graph elements).targetsOf source :=
  (mem_targetsOf_graph elements source target).mpr ⟨_, named, indexOf?_id distinct target⟩

end Pass

variable [Arithmetic α]

theorem map_id_elementsOf (entries : List Entry) (geometry : Geometry α) (idPrefix : String) :
    (elementsOf entries geometry idPrefix).map Element.id =
      entries.mapIdx (Entry.effectiveId idPrefix) := by
  refine List.ext_getElem? fun index => ?_
  rw [elementsOf, List.getElem?_map, List.getElem?_mapIdx, List.getElem?_mapIdx, Option.map_map]
  rfl

end ScrollTimeline
