import ScrollTimeline.Proofs.ReferenceGraph.Search
import Mathlib.Data.List.FinRange
import Mathlib.Logic.Relation

/-!
The order that a search finds, and the cycle that it answers instead.

An order puts every node after those that it reads from, so there is one exactly when no node reads,
over any number of steps, from itself. A cycle that is answered is one of the graph.
-/
set_option autoImplicit false

namespace ScrollTimeline.ReferenceGraph

variable {n : Nat}

/-- All nodes, each once and after all that it reads from. -/
structure Ordered (g : ReferenceGraph n) (order : List (Fin n)) : Prop where
  complete : ∀ v, v ∈ order
  distinct : order.Nodup
  earlier : ∀ before v after, order = before ++ v :: after → g.targetsOf v ⊆ before

theorem mem_targetsOf_ofEdges (edges : List (Fin n × Fin n)) (v w : Fin n) :
    w ∈ (ofEdges edges).targetsOf v ↔ (v, w) ∈ edges := by
  have added : ∀ g : ReferenceGraph n,
      w ∈ (edges.foldl (fun g edge => g.addEdge edge.1 edge.2) g).targetsOf v ↔
        w ∈ g.targetsOf v ∨ (v, w) ∈ edges := by
    induction edges with
    | nil => simp
    | cons edge rest ih =>
      intro g
      rw [List.foldl_cons, ih, mem_targetsOf_addEdge, List.mem_cons, or_assoc, Prod.ext_iff]
  rw [ofEdges, added, targetsOf_empty]
  simp

/-! ### Orders -/

theorem targetsOf_subset_of_settled {g : ReferenceGraph n} {finished : List (Fin n)}
    (settled : g.Settled finished) (before : List (Fin n)) (v : Fin n) (after : List (Fin n))
    (split : finished.reverse = before ++ v :: after) : g.targetsOf v ⊆ before := by
  induction finished generalizing after with
  | nil => simp at split
  | cons last earlier ih =>
    rw [List.reverse_cons] at split
    rcases List.eq_nil_or_concat after with rfl | ⟨shorter, final, rfl⟩
    · obtain ⟨same, final⟩ := List.append_inj' split rfl
      cases List.singleton_inj.mp final
      intro w target
      rw [← same]
      exact List.mem_reverse.mpr (settled.2.1 target)
    · have regrouped : earlier.reverse ++ [last] = (before ++ v :: shorter) ++ [final] := by
        simpa using split
      exact ih settled.2.2 shorter (List.append_inj' regrouped rfl).1

theorem ordered_of_order {g : ReferenceGraph n} {order : List (Fin n)}
    (found : g.order = .ok order) : g.Ordered order := by
  have outcome := visitRoots_outcome (g := g) (List.finRange n) (by trivial : g.Settled [])
  rw [ReferenceGraph.order] at found
  cases answer : (List.finRange n).foldlM (visitRoot g) [] with
  | error cycle =>
    rw [answer] at found
    cases found
  | ok finished =>
    rw [answer] at found outcome
    cases found
    obtain ⟨settled, reached⟩ := outcome
    refine ⟨?_, List.nodup_reverse.mpr (nodup_of_settled settled),
      targetsOf_subset_of_settled settled⟩
    intro v
    exact List.mem_reverse.mpr (reached (List.mem_append_left _ (List.mem_finRange v)))

theorem isCycle_of_order {g : ReferenceGraph n} {cycle : List (Fin n)}
    (found : g.order = .error cycle) : g.IsCycle cycle := by
  have outcome := visitRoots_outcome (g := g) (List.finRange n) (by trivial : g.Settled [])
  rw [ReferenceGraph.order] at found
  cases answer : (List.finRange n).foldlM (visitRoot g) [] with
  | error other =>
    rw [answer] at found outcome
    cases found
    exact outcome
  | ok finished =>
    rw [answer] at found
    cases found

theorem namedOrder_eq_ok_iff (g : ReferenceGraph n) (names : Vector String n)
    (order : List (Fin n)) : g.namedOrder names = .ok order ↔ g.order = .ok order := by
  rw [namedOrder]
  cases g.order <;> simp [Except.mapError]

namespace Ordered

theorem not_mem_after {g : ReferenceGraph n} {order before after : List (Fin n)}
    (ordered : g.Ordered order) (split : order = before ++ after) {v : Fin n} (there : v ∈ before) :
    v ∉ after := by
  have distinct := ordered.distinct
  rw [split] at distinct
  exact List.disjoint_of_nodup_append distinct there

theorem perm_finRange {g : ReferenceGraph n} {order : List (Fin n)} (ordered : g.Ordered order) :
    order.Perm (List.finRange n) := by
  refine (List.perm_ext_iff_of_nodup ordered.distinct (List.nodup_finRange n)).mpr ?_
  intro v
  exact iff_of_true (ordered.complete v) (List.mem_finRange v)

theorem idxOf_lt {g : ReferenceGraph n} {order : List (Fin n)} (ordered : g.Ordered order)
    {v w : Fin n} (target : w ∈ g.targetsOf v) : order.idxOf w < order.idxOf v := by
  obtain ⟨before, after, split, absent⟩ := List.eq_append_cons_of_mem (ordered.complete v)
  have there : w ∈ before := ordered.earlier before v after split target
  have position : order.idxOf v = before.length := by
    rw [split, List.idxOf_append_of_notMem absent, List.idxOf_cons_self, Nat.add_zero]
  rw [position, split, List.idxOf_append_of_mem there]
  exact List.idxOf_lt_length_of_mem there

/-- What holds of a node as soon as it holds of all nodes that it reads from holds of all nodes. -/
theorem induction {g : ReferenceGraph n} {order : List (Fin n)} (ordered : g.Ordered order)
    {motive : Fin n → Prop} (step : ∀ v, (∀ w ∈ g.targetsOf v, motive w) → motive v) (v : Fin n) :
    motive v := by
  induction place : order.idxOf v using Nat.strong_induction_on generalizing v with
  | _ place ih =>
    refine step v fun w target => ?_
    have earlier := ordered.idxOf_lt target
    rw [place] at earlier
    exact ih (order.idxOf w) earlier w rfl

theorem not_transGen {g : ReferenceGraph n} {order : List (Fin n)} (ordered : g.Ordered order)
    (v : Fin n) : ¬ Relation.TransGen (fun v w => w ∈ g.targetsOf v) v v := by
  have down : ∀ w, Relation.TransGen (fun v w => w ∈ g.targetsOf v) v w →
      order.idxOf w < order.idxOf v := by
    intro w reached
    induction reached with
    | single target => exact ordered.idxOf_lt target
    | tail _ target ih => exact Nat.lt_trans (ordered.idxOf_lt target) ih
  intro around
  exact Nat.lt_irrefl _ (down v around)

end Ordered

/-! ### Cycles -/

theorem transGen_of_isChain {R : Fin n → Fin n → Prop} {first last : Fin n}
    {between : List (Fin n)} (linked : (first :: between ++ [last]).IsChain R) :
    Relation.TransGen R first last := by
  induction between generalizing first with
  | nil => exact .single (List.isChain_pair.mp linked)
  | cons next rest ih =>
    obtain ⟨step, linked⟩ := List.isChain_cons_cons.mp linked
    exact .head step (ih linked)

theorem IsCycle.transGen {g : ReferenceGraph n} {cycle : List (Fin n)} (isCycle : g.IsCycle cycle) :
    ∃ v, Relation.TransGen (fun v w => w ∈ g.targetsOf v) v v := by
  obtain ⟨first, others, rfl, _⟩ := isCycle.closed
  exact ⟨first, transGen_of_isChain isCycle.linked⟩

/-- For every sequence of edges there is an order exactly when no node reads from itself, over however
many steps; else the answer names a cycle of the graph. -/
theorem namedOrder_ofEdges (edges : List (Fin n × Fin n)) (names : Vector String n) :
    match (ofEdges edges).namedOrder names with
    | .ok order =>
      (∀ v, ¬ Relation.TransGen (fun v w => (v, w) ∈ edges) v v) ∧
        order.Perm (List.finRange n) ∧
        ∀ v w, (v, w) ∈ edges → order.idxOf w < order.idxOf v
    | .error cycle =>
      (∃ v, Relation.TransGen (fun v w => (v, w) ∈ edges) v v) ∧
        ∃ first others,
          cycle = (first :: others ++ [first]).map (fun v => names.get v) ∧
            (first :: others).Nodup ∧
            (first :: others ++ [first]).IsChain fun v w => (v, w) ∈ edges := by
  have same : (fun v w => w ∈ (ofEdges edges).targetsOf v) = fun v w => (v, w) ∈ edges := by
    funext v w
    exact propext (mem_targetsOf_ofEdges edges v w)
  rw [namedOrder]
  cases answer : (ofEdges edges).order with
  | ok order =>
    have ordered := ordered_of_order answer
    refine ⟨?_, ordered.perm_finRange, ?_⟩
    · rw [← same]
      exact ordered.not_transGen
    · intro v w edge
      exact ordered.idxOf_lt ((mem_targetsOf_ofEdges edges v w).mpr edge)
  | error cycle =>
    have isCycle := isCycle_of_order answer
    obtain ⟨first, others, shape, distinct⟩ := isCycle.closed
    rw [← same]
    refine ⟨isCycle.transGen, first, others, ?_, distinct, ?_⟩
    · rw [← shape]
    · rw [← shape]
      exact isCycle.linked

end ScrollTimeline.ReferenceGraph
