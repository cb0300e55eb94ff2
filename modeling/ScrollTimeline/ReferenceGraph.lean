/-!
Which elements read from which, and an order in which all of them can be compiled.

Nodes are numbered, and the targets of a node stand in the order in which its references were first
written. `order` is a depth-first search from each node in turn: a node is finished once everything
it reads from is finished. Meeting a node again that is still on the path from the root is a cycle,
and then there is no order.

The search keeps its own path, so that long chains of references take no deeper recursion than short
ones. It ends because each step either enters a node for the first time or leaves less of the path
to be worked off.
-/
set_option autoImplicit false

namespace ScrollTimeline

structure ReferenceGraph (n : Nat) where
  targets : Vector (List (Fin n)) n

namespace ReferenceGraph

variable {n : Nat}

def empty (n : Nat) : ReferenceGraph n := ⟨Vector.replicate n []⟩

def targetsOf (g : ReferenceGraph n) (source : Fin n) : List (Fin n) := g.targets[source]

def addEdge (g : ReferenceGraph n) (source target : Fin n) : ReferenceGraph n :=
  if target ∈ g.targetsOf source then g
  else ⟨g.targets.set source (g.targetsOf source ++ [target])⟩

def ofEdges (edges : List (Fin n × Fin n)) : ReferenceGraph n :=
  edges.foldl (fun g edge => g.addEdge edge.1 edge.2) (empty n)

theorem targetsOf_empty (source : Fin n) : (empty n).targetsOf source = [] := by
  simp [targetsOf, empty]

theorem mem_targetsOf_addEdge (g : ReferenceGraph n) (source target v w : Fin n) :
    w ∈ (g.addEdge source target).targetsOf v ↔
      w ∈ g.targetsOf v ∨ (v = source ∧ w = target) := by
  unfold addEdge
  split
  · rename_i known
    constructor
    · exact Or.inl
    · rintro (there | ⟨rfl, rfl⟩)
      · exact there
      · exact known
  · by_cases same : v = source
    · subst same
      simp [targetsOf]
    · have differ : (source : Nat) ≠ v := fun equal => same (Fin.ext equal.symm)
      simp [targetsOf, same, differ]

structure Frame (n : Nat) where
  node : Fin n
  pending : List (Fin n)

def path (frames : List (Frame n)) : List (Fin n) := frames.map Frame.node

/-- What is left to do beside a path: for each of the given nodes that has neither been finished nor
entered, its targets, an entry and an exit. -/
def untouched (g : ReferenceGraph n) (path finished : List (Fin n)) (nodes : List (Fin n)) : Nat :=
  nodes.foldr
    (fun v rest => (if v ∈ finished ∨ v ∈ path then 0 else (g.targetsOf v).length + 2) + rest) 0

def work (frames : List (Frame n)) : Nat :=
  frames.foldr (fun frame rest => frame.pending.length + 1 + rest) 0

def cost (g : ReferenceGraph n) (frames : List (Frame n)) (finished : List (Fin n)) : Nat :=
  untouched g (path frames) finished (List.finRange n) + work frames

theorem untouched_finish (g : ReferenceGraph n) (v : Fin n) (path finished nodes : List (Fin n)) :
    untouched g path (v :: finished) nodes = untouched g (v :: path) finished nodes := by
  unfold untouched
  congr 1
  funext u rest
  have same : (u ∈ v :: finished ∨ u ∈ path) ↔ (u ∈ finished ∨ u ∈ v :: path) := by
    simp only [List.mem_cons]
    constructor
    · rintro ((here | there) | there)
      · exact Or.inr (Or.inl here)
      · exact Or.inl there
      · exact Or.inr (Or.inr there)
    · rintro (there | here | there)
      · exact Or.inl (Or.inr there)
      · exact Or.inl (Or.inl here)
      · exact Or.inr there
  simp only [same]

theorem untouched_cons_le (g : ReferenceGraph n) (v : Fin n) (path finished nodes : List (Fin n)) :
    untouched g (v :: path) finished nodes ≤ untouched g path finished nodes := by
  induction nodes with
  | nil => exact Nat.le_refl _
  | cons u rest ih =>
    simp only [untouched, List.foldr_cons, List.mem_cons] at ih ⊢
    by_cases touched : u ∈ finished ∨ u ∈ path
    · have still : u ∈ finished ∨ u = v ∨ u ∈ path := by
        rcases touched with there | there
        · exact Or.inl there
        · exact Or.inr (Or.inr there)
      rw [if_pos touched, if_pos still]
      omega
    · rw [if_neg touched]
      split <;> omega

theorem untouched_enter (g : ReferenceGraph n) (v : Fin n) (path finished nodes : List (Fin n))
    (present : v ∈ nodes) (unfinished : v ∉ finished) (fresh : v ∉ path) :
    untouched g (v :: path) finished nodes + ((g.targetsOf v).length + 2) ≤
      untouched g path finished nodes := by
  induction nodes with
  | nil => cases present
  | cons u rest ih =>
    have smaller := untouched_cons_le g v path finished rest
    simp only [untouched, List.foldr_cons, List.mem_cons] at ih smaller ⊢
    rcases List.mem_cons.mp present with same | later
    · subst same
      have before : ¬ (v ∈ finished ∨ v ∈ path) := fun touched => touched.elim unfinished fresh
      rw [if_pos (Or.inr (Or.inl rfl)), if_neg before]
      omega
    · have inRest := ih later
      by_cases touched : u ∈ finished ∨ u ∈ path
      · have still : u ∈ finished ∨ u = v ∨ u ∈ path := by
          rcases touched with there | there
          · exact Or.inl there
          · exact Or.inr (Or.inr there)
        rw [if_pos touched, if_pos still]
        omega
      · rw [if_neg touched]
        split <;> omega

theorem cost_finish (g : ReferenceGraph n) (v : Fin n) (below : List (Frame n))
    (finished : List (Fin n)) :
    cost g below (v :: finished) < cost g (⟨v, []⟩ :: below) finished := by
  have same := untouched_finish g v (path below) finished (List.finRange n)
  simp only [cost, work, path, List.foldr_cons, List.map_cons, List.length_nil] at same ⊢
  omega

theorem cost_skip (g : ReferenceGraph n) (v target : Fin n) (pending : List (Fin n))
    (below : List (Frame n)) (finished : List (Fin n)) :
    cost g (⟨v, pending⟩ :: below) finished < cost g (⟨v, target :: pending⟩ :: below) finished := by
  simp only [cost, work, path, List.foldr_cons, List.map_cons, List.length_cons]
  omega

theorem cost_enter (g : ReferenceGraph n) (v target : Fin n) (pending : List (Fin n))
    (below : List (Frame n)) (finished : List (Fin n)) (unfinished : target ∉ finished)
    (fresh : target ∉ path (⟨v, pending⟩ :: below)) :
    cost g (⟨target, g.targetsOf target⟩ :: ⟨v, pending⟩ :: below) finished <
      cost g (⟨v, target :: pending⟩ :: below) finished := by
  have less := untouched_enter g target (path (⟨v, pending⟩ :: below)) finished (List.finRange n)
    (List.mem_finRange target) unfinished fresh
  simp only [cost, work, path, List.foldr_cons, List.map_cons, List.length_cons] at less ⊢
  omega

/-- The cycle that closes when `target` is met again on a path: from its node on to the last one, and
back to it. -/
def cycleAt (target : Fin n) (path : List (Fin n)) : List (Fin n) :=
  target :: (path.takeWhile (· ≠ target)).reverse ++ [target]

/-- Works off a path, the top of which is the first frame. The finished nodes stand with the last one
first. An error is a cycle. -/
def visit (g : ReferenceGraph n) :
    (frames : List (Frame n)) → (finished : List (Fin n)) →
      Except (List (Fin n)) (List (Fin n))
  | [], finished => .ok finished
  | ⟨v, []⟩ :: below, finished => visit g below (v :: finished)
  | ⟨v, target :: pending⟩ :: below, finished =>
    if target ∈ finished then visit g (⟨v, pending⟩ :: below) finished
    else if target ∈ path (⟨v, pending⟩ :: below) then
      .error (cycleAt target (path (⟨v, pending⟩ :: below)))
    else visit g (⟨target, g.targetsOf target⟩ :: ⟨v, pending⟩ :: below) finished
termination_by frames finished => cost g frames finished
decreasing_by
  · exact cost_finish g v below finished
  · exact cost_skip g v target pending below finished
  · exact cost_enter g v target pending below finished ‹_› ‹_›

def visitRoot (g : ReferenceGraph n) (finished : List (Fin n)) (root : Fin n) :
    Except (List (Fin n)) (List (Fin n)) :=
  if root ∈ finished then .ok finished else visit g [⟨root, g.targetsOf root⟩] finished

/-- All nodes, each after those that it reads from; or a cycle of nodes, the first one repeated at the
end. -/
def order (g : ReferenceGraph n) : Except (List (Fin n)) (List (Fin n)) :=
  ((List.finRange n).foldlM (visitRoot g) []).map List.reverse

def namedOrder (g : ReferenceGraph n) (names : Vector String n) :
    Except (List String) (List (Fin n)) :=
  g.order.mapError fun cycle => cycle.map fun v => names.get v

end ReferenceGraph

end ScrollTimeline
