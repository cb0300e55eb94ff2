import ScrollTimeline.ReferenceGraph
import Mathlib.Data.List.Chain
import Mathlib.Data.List.Nodup

/-!
What the depth-first search keeps true, and what it answers.

At every moment the path is a walk in the graph, no node is touched twice, every finished node comes
after all nodes that it reads from, and a node on the path has left nothing out: each of its targets
is finished, still to be looked at, or further up the path. The search therefore ends with a settled
list of nodes, or at an edge that closes a cycle.
-/
set_option autoImplicit false

namespace ScrollTimeline.ReferenceGraph

variable {n : Nat}

/-- Finished nodes, the last one first: each is there once and reads only from those behind it. -/
def Settled (g : ReferenceGraph n) : List (Fin n) → Prop
  | [] => True
  | v :: earlier => v ∉ earlier ∧ g.targetsOf v ⊆ earlier ∧ g.Settled earlier

/-- Every frame has left out only targets that are known, which those further up the path are. -/
def Covered (g : ReferenceGraph n) : List (Fin n) → List (Frame n) → Prop
  | _, [] => True
  | known, frame :: below =>
    (∀ w ∈ g.targetsOf frame.node, w ∈ known ∨ w ∈ frame.pending) ∧
      g.Covered (frame.node :: known) below

/-- A list of nodes in which each reads from the next one and the last one is the first, with no other
repetition. -/
structure IsCycle (g : ReferenceGraph n) (cycle : List (Fin n)) : Prop where
  closed : ∃ first others, cycle = first :: others ++ [first] ∧ (first :: others).Nodup
  linked : cycle.IsChain fun v w => w ∈ g.targetsOf v

structure Consistent (g : ReferenceGraph n) (frames : List (Frame n)) (finished : List (Fin n)) :
    Prop where
  distinct : (path frames ++ finished).Nodup
  walk : (path frames).IsChain fun later earlier => later ∈ g.targetsOf earlier
  pending : ∀ frame ∈ frames, frame.pending ⊆ g.targetsOf frame.node
  covered : g.Covered finished frames
  settled : g.Settled finished

/-- What a search that has to finish the given nodes may answer. -/
def Outcome (g : ReferenceGraph n) (nodes : List (Fin n)) :
    Except (List (Fin n)) (List (Fin n)) → Prop
  | .ok finished => g.Settled finished ∧ nodes ⊆ finished
  | .error cycle => g.IsCycle cycle

theorem nodup_of_settled {g : ReferenceGraph n} {finished : List (Fin n)}
    (settled : g.Settled finished) : finished.Nodup := by
  induction finished with
  | nil => exact List.nodup_nil
  | cons v earlier ih => exact List.nodup_cons.mpr ⟨settled.1, ih settled.2.2⟩

theorem covered_of_subset {g : ReferenceGraph n} {frames : List (Frame n)}
    {known more : List (Fin n)} (larger : known ⊆ more) (covered : g.Covered known frames) :
    g.Covered more frames := by
  induction frames generalizing known more with
  | nil => trivial
  | cons frame below ih =>
    obtain ⟨top, rest⟩ := covered
    refine ⟨?_, ih (List.cons_subset_cons _ larger) rest⟩
    intro w target
    exact (top w target).imp_left fun there => larger there

/-! ### One step -/

theorem consistent_finish {g : ReferenceGraph n} {v : Fin n} {below : List (Frame n)}
    {finished : List (Fin n)} (before : g.Consistent (⟨v, []⟩ :: below) finished) :
    g.Consistent below (v :: finished) := by
  have known : g.targetsOf v ⊆ finished := by
    intro w target
    exact (before.covered.1 w target).resolve_right List.not_mem_nil
  have fresh : v ∉ finished := by
    intro there
    exact List.disjoint_of_nodup_append before.distinct (List.mem_cons_self ..) there
  refine ⟨?_, before.walk.tail, ?_, before.covered.2, fresh, known, before.settled⟩
  · exact List.perm_middle.symm.nodup before.distinct
  · intro frame member
    exact before.pending frame (List.mem_cons_of_mem _ member)

namespace Consistent

variable {g : ReferenceGraph n} {v target : Fin n} {pending : List (Fin n)} {below : List (Frame n)}
  {finished : List (Fin n)}

theorem mem_targetsOf (before : g.Consistent (⟨v, target :: pending⟩ :: below) finished) :
    target ∈ g.targetsOf v :=
  before.pending _ (List.mem_cons_self ..) (List.mem_cons_self ..)

theorem pending_tail (before : g.Consistent (⟨v, target :: pending⟩ :: below) finished) :
    ∀ frame ∈ ⟨v, pending⟩ :: below, frame.pending ⊆ g.targetsOf frame.node := by
  intro frame member
  rcases List.mem_cons.mp member with rfl | later
  · exact List.Subset.trans (List.subset_cons_self target pending)
      (before.pending _ (List.mem_cons_self ..))
  · exact before.pending frame (List.mem_cons_of_mem _ later)

theorem top_covered (before : g.Consistent (⟨v, target :: pending⟩ :: below) finished)
    {known : List (Fin n)} (more : target :: finished ⊆ known) :
    ∀ w ∈ g.targetsOf v, w ∈ known ∨ w ∈ pending := by
  obtain ⟨met, larger⟩ := List.cons_subset.mp more
  intro w isTarget
  rcases before.covered.1 w isTarget with done | left
  · exact Or.inl (larger done)
  · rcases List.mem_cons.mp left with rfl | left
    · exact Or.inl met
    · exact Or.inr left

end Consistent

theorem consistent_skip {g : ReferenceGraph n} {v target : Fin n} {pending : List (Fin n)}
    {below : List (Frame n)} {finished : List (Fin n)} (known : target ∈ finished)
    (before : g.Consistent (⟨v, target :: pending⟩ :: below) finished) :
    g.Consistent (⟨v, pending⟩ :: below) finished := by
  have top := before.top_covered (List.cons_subset.mpr ⟨known, List.Subset.refl finished⟩)
  exact ⟨before.distinct, before.walk, before.pending_tail, ⟨top, before.covered.2⟩,
    before.settled⟩

theorem consistent_enter {g : ReferenceGraph n} {v target : Fin n} {pending : List (Fin n)}
    {below : List (Frame n)} {finished : List (Fin n)} (unfinished : target ∉ finished)
    (fresh : target ∉ path (⟨v, pending⟩ :: below))
    (before : g.Consistent (⟨v, target :: pending⟩ :: below) finished) :
    g.Consistent (⟨target, g.targetsOf target⟩ :: ⟨v, pending⟩ :: below) finished := by
  refine ⟨?_, ?_, ?_, ⟨?_, before.top_covered (List.Subset.refl _), ?_⟩, before.settled⟩
  · have untouched : target ∉ path (⟨v, pending⟩ :: below) ++ finished := by
      intro touched
      exact (List.mem_append.mp touched).elim fresh unfinished
    exact List.nodup_cons.mpr ⟨untouched, before.distinct⟩
  · exact List.IsChain.cons_cons before.mem_targetsOf before.walk
  · intro frame member
    rcases List.mem_cons.mp member with rfl | later
    · exact List.Subset.refl _
    · exact before.pending_tail frame later
  · intro w there
    exact Or.inr there
  · refine covered_of_subset ?_ before.covered.2
    exact List.cons_subset_cons v (List.subset_cons_self target finished)

theorem isCycle_cycleAt {g : ReferenceGraph n} {v target : Fin n} {below : List (Fin n)}
    (walk : (v :: below).IsChain fun later earlier => later ∈ g.targetsOf earlier)
    (distinct : (v :: below).Nodup) (isTarget : target ∈ g.targetsOf v)
    (met : target ∈ v :: below) : g.IsCycle (cycleAt target (v :: below)) := by
  obtain ⟨above, under, split, absent⟩ := List.eq_append_cons_of_mem met
  have differ : ∀ u ∈ above, decide (u ≠ target) = true := by
    intro u member
    exact decide_eq_true fun same => absent (same ▸ member)
  have taken : (v :: below).takeWhile (· ≠ target) = above := by
    rw [split, List.takeWhile_append_of_pos differ]
    simp
  have reversed : cycleAt target (v :: below) = (target :: (above ++ [target])).reverse := by
    rw [cycleAt, taken]
    simp
  have upper : (above ++ [target]) <+: v :: below :=
    ⟨under, by rw [split, List.append_assoc, List.singleton_append]⟩
  -- The walk goes down from the top, so it is the reversed cycle that it spells.
  have down : (target :: (above ++ [target])).IsChain
      fun later earlier => later ∈ g.targetsOf earlier := by
    refine List.isChain_cons.mpr ⟨?_, walk.prefix upper⟩
    intro u first
    have top : (above ++ [target]).head? = some v := by
      have heads := congrArg List.head? split
      simpa [List.head?_append] using heads.symm
    cases Option.some.inj (top.symm.trans first)
    exact isTarget
  refine ⟨⟨target, above.reverse, ?_, ?_⟩, ?_⟩
  · rw [cycleAt, taken]
  · have once : (above ++ [target]).reverse.Nodup :=
      List.nodup_reverse.mpr (distinct.sublist upper.sublist)
    rwa [List.reverse_append, List.reverse_singleton, List.singleton_append] at once
  · rw [reversed]
    exact List.isChain_reverse.mpr down

/-! ### A whole search -/

theorem outcome_of_subset {g : ReferenceGraph n} {nodes more : List (Fin n)}
    {answer : Except (List (Fin n)) (List (Fin n))} (fewer : nodes ⊆ more)
    (outcome : g.Outcome more answer) : g.Outcome nodes answer := by
  cases answer with
  | ok finished => exact ⟨outcome.1, List.Subset.trans fewer outcome.2⟩
  | error cycle => exact outcome

theorem visit_outcome {g : ReferenceGraph n} {frames : List (Frame n)} {finished : List (Fin n)}
    (before : g.Consistent frames finished) :
    g.Outcome (path frames ++ finished) (visit g frames finished) := by
  -- One case for each way to go on; every one of them keeps the touched nodes among the answer's.
  induction frames, finished using visit.induct g with
  | case1 finished =>
    rw [visit]
    exact ⟨before.settled, List.Subset.refl _⟩
  | case2 v below finished ih =>
    rw [visit]
    refine outcome_of_subset ?_ (ih (consistent_finish before))
    exact List.perm_middle.symm.subset
  | case3 v target pending below finished known ih =>
    rw [visit, if_pos known]
    exact ih (consistent_skip known before)
  | case4 v target pending below finished unfinished met =>
    rw [visit, if_neg unfinished, if_pos met]
    exact isCycle_cycleAt before.walk before.distinct.of_append_left before.mem_targetsOf met
  | case5 v target pending below finished unfinished fresh ih =>
    rw [visit, if_neg unfinished, if_neg fresh]
    refine outcome_of_subset ?_ (ih (consistent_enter unfinished fresh before))
    exact List.subset_cons_self target _

theorem visitRoot_outcome {g : ReferenceGraph n} {finished : List (Fin n)}
    (settled : g.Settled finished) (root : Fin n) :
    g.Outcome (root :: finished) (visitRoot g finished root) := by
  unfold visitRoot
  split
  · rename_i known
    exact ⟨settled, List.cons_subset.mpr ⟨known, List.Subset.refl _⟩⟩
  · rename_i unfinished
    have start : g.Consistent [⟨root, g.targetsOf root⟩] finished := by
      refine ⟨?_, List.isChain_singleton root, ?_, ⟨?_, trivial⟩, settled⟩
      · exact List.nodup_cons.mpr ⟨unfinished, nodup_of_settled settled⟩
      · intro frame member
        cases List.mem_singleton.mp member
        exact List.Subset.refl _
      · intro w target
        exact Or.inr target
    exact visit_outcome start

theorem visitRoots_outcome {g : ReferenceGraph n} (roots : List (Fin n)) {finished : List (Fin n)}
    (settled : g.Settled finished) :
    g.Outcome (roots ++ finished) (roots.foldlM (visitRoot g) finished) := by
  induction roots generalizing finished with
  | nil => exact ⟨settled, List.Subset.refl _⟩
  | cons root rest ih =>
    rw [List.foldlM_cons]
    have first := visitRoot_outcome settled root
    cases answer : visitRoot g finished root with
    | error cycle =>
      rw [answer] at first
      exact first
    | ok next =>
      rw [answer] at first
      refine outcome_of_subset ?_ (ih first.1)
      have reached := List.cons_subset.mp first.2
      refine List.cons_subset.mpr ⟨List.mem_append_right _ reached.1, ?_⟩
      refine List.append_subset.mpr ⟨List.subset_append_left rest next, ?_⟩
      exact List.subset_append_of_subset_right rest reached.2

end ScrollTimeline.ReferenceGraph
