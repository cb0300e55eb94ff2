import Mathlib.Order.Fin.Basic
import ScrollTimeline.Proofs.ReferenceGraph.Search

/-!
The search as a recursion.

The textbook search calls itself for every node that it enters, and the path from the root is what stands
on the call stack. The search of a reference graph keeps that path itself; it enters and finishes the same
nodes in the same order and closes the same cycle.
-/
set_option autoImplicit false

namespace ScrollTimeline.ReferenceGraph

variable {n : Nat}

/-! ### The textbook search -/

inductive Mark where
  | pending
  | inProgress
  | done
deriving DecidableEq

/-- The marks of all nodes, and those that are done in the order in which their calls have returned. -/
structure Progress (n : Nat) where
  marks : Vector Mark n
  order : List (Fin n)

namespace Progress

def start : Progress n := ⟨Vector.replicate n .pending, []⟩

def enter (s : Progress n) (v : Fin n) : Progress n := { s with marks := s.marks.set v .inProgress v.isLt }

def leave (s : Progress n) (v : Fin n) : Progress n := ⟨s.marks.set v .done v.isLt, s.order ++ [v]⟩

def pendingCount (s : Progress n) : Nat := s.marks.count .pending

theorem pendingCount_enter {s : Progress n} {v : Fin n} (new : s.marks.get v = .pending) :
    (s.enter v).pendingCount < s.pendingCount := by
  have some : 0 < s.pendingCount := Vector.count_pos_iff.mpr (new ▸ Vector.getElem_mem v.isLt)
  have one : s.marks[v.val] = .pending := new
  rw [pendingCount, enter, Vector.count_set, one]
  simp only [BEq.rfl, if_true]
  exact Nat.sub_lt some Nat.one_pos

theorem pendingCount_leave (s : Progress n) (v : Fin n) :
    (s.leave v).pendingCount ≤ s.pendingCount := by
  rw [pendingCount, leave, Vector.count_set]
  exact Nat.sub_le _ _

end Progress

mutual

/-- The call for a pending node: its targets are looked at while it is in progress. The calls that have not
returned yet are those for `calls`, the first one first. -/
def explore (successors : Fin n → List (Fin n)) (calls : List (Fin n)) (v : Fin n) (s : Progress n)
    (new : s.marks.get v = .pending) :
    Except (List (Fin n)) { t : Progress n // t.pendingCount < s.pendingCount } :=
  match follow successors (calls ++ [v]) (successors v) (s.enter v) with
  | .error cycle => .error cycle
  | .ok ⟨t, less⟩ =>
    .ok ⟨t.leave v, (t.pendingCount_leave v).trans_lt (less.trans_lt (s.pendingCount_enter new))⟩
termination_by (s.pendingCount, 0)
decreasing_by exact Prod.Lex.left _ _ (Progress.pendingCount_enter new)

/-- Looks at targets one after the other. One that is in progress closes a cycle, which leads from it along
the calls and back to it. -/
def follow (successors : Fin n → List (Fin n)) (calls : List (Fin n)) :
    (targets : List (Fin n)) → (s : Progress n) →
      Except (List (Fin n)) { t : Progress n // t.pendingCount ≤ s.pendingCount }
  | [], s => .ok ⟨s, Nat.le_refl _⟩
  | w :: rest, s =>
    match mark : s.marks.get w with
    | .pending =>
      match explore successors calls w s mark with
      | .error cycle => .error cycle
      | .ok ⟨t, less⟩ =>
        match follow successors calls rest t with
        | .error cycle => .error cycle
        | .ok ⟨u, more⟩ => .ok ⟨u, more.trans less.le⟩
    | .inProgress => .error (calls.dropWhile (· ≠ w) ++ [w])
    | .done => follow successors calls rest s
termination_by targets s => (s.pendingCount, targets.length + 1)
decreasing_by
  · exact Prod.Lex.right _ (Nat.succ_pos _)
  · exact Prod.Lex.left _ _ less
  · exact Prod.Lex.right _ (Nat.lt_succ_self _)

end

def exploreRoot (successors : Fin n → List (Fin n)) (s : Progress n) (root : Fin n) :
    Except (List (Fin n)) (Progress n) :=
  if new : s.marks.get root = .pending then (explore successors [] root s new).map Subtype.val else .ok s

def recursiveOrder (successors : Fin n → List (Fin n)) : Except (List (Fin n)) (List (Fin n)) :=
  ((List.finRange n).foldlM (exploreRoot successors) .start).map Progress.order

/-! ### Both searches at one place -/

/-- The nodes of the path are those in progress, and the finished nodes are those that are done. -/
structure Agrees (s : Progress n) (path : List (Fin n)) : Prop where
  distinct : path.Nodup
  inProgress : ∀ v, s.marks.get v = .inProgress ↔ v ∈ path
  done : ∀ v, s.marks.get v = .done ↔ v ∈ s.order

theorem get_set_mark (marks : Vector Mark n) (v w : Fin n) (mark : Mark) :
    (marks.set v mark v.isLt).get w = if w = v then mark else marks.get w := by
  by_cases same : w = v
  · rw [if_pos same, same]
    exact Vector.getElem_set_self v.isLt
  · rw [if_neg same]
    exact Vector.getElem_set_ne v.isLt w.isLt fun equal => same (Fin.ext equal.symm)

theorem agrees_start : Agrees (.start : Progress n) [] := by
  have pending (v : Fin n) : (Progress.start : Progress n).marks.get v = .pending :=
    Vector.getElem_replicate v.isLt
  refine ⟨List.nodup_nil, ?_, ?_⟩
  · intro v
    rw [pending]
    simp
  · intro v
    rw [pending]
    simp [Progress.start]

namespace Agrees

variable {s : Progress n} {path : List (Fin n)} {v : Fin n}

theorem mem_finished_iff (agrees : Agrees s path) : v ∈ s.order.reverse ↔ s.marks.get v = .done := by
  rw [List.mem_reverse, agrees.done]

theorem enter (agrees : Agrees s path) (new : s.marks.get v = .pending) :
    Agrees (s.enter v) (v :: path) := by
  have fresh : v ∉ path := by
    intro there
    rw [(agrees.inProgress v).mpr there] at new
    cases new
  refine ⟨List.nodup_cons.mpr ⟨fresh, agrees.distinct⟩, ?_, ?_⟩
  · intro w
    rw [Progress.enter, get_set_mark, List.mem_cons, ← agrees.inProgress]
    by_cases same : w = v <;> simp [same]
  · intro w
    rw [Progress.enter, get_set_mark, ← agrees.done]
    by_cases same : w = v
    · subst same
      rw [new]
      simp
    · simp [same]

theorem leave (agrees : Agrees s (v :: path)) : Agrees (s.leave v) path := by
  obtain ⟨fresh, distinct⟩ := List.nodup_cons.mp agrees.distinct
  refine ⟨distinct, ?_, ?_⟩
  · intro w
    rw [Progress.leave, get_set_mark]
    by_cases same : w = v
    · subst same
      simp [fresh]
    · rw [if_neg same, agrees.inProgress, List.mem_cons]
      simp [same]
  · intro w
    rw [Progress.leave, get_set_mark, List.mem_append, List.mem_singleton, ← agrees.done]
    by_cases same : w = v <;> simp [same]

end Agrees

theorem cycleAt_eq {path : List (Fin n)} {w : Fin n} (distinct : path.Nodup) (met : w ∈ path) :
    cycleAt w path = path.reverse.dropWhile (· ≠ w) ++ [w] := by
  obtain ⟨above, under, rfl, absent⟩ := List.eq_append_cons_of_mem met
  have differ {part : List (Fin n)} (missing : w ∉ part) : ∀ u ∈ part, decide (u ≠ w) = true := by
    intro u member
    exact decide_eq_true fun same => missing (same ▸ member)
  have beneath : w ∉ under := (List.nodup_cons.mp distinct.of_append_right).1
  have reversed : ∀ u ∈ under.reverse, decide (u ≠ w) = true :=
    differ fun there => beneath (List.mem_reverse.mp there)
  have forwards : (above ++ w :: under).reverse = under.reverse ++ w :: above.reverse := by simp
  rw [cycleAt, List.takeWhile_append_of_pos (differ absent), forwards,
    List.dropWhile_append_of_pos reversed]
  simp

/-! ### A call and a frame -/

/-- What a search comes to when the recursion has returned to the frames below: it fails with the same
cycle, or goes on from there. -/
inductive Returns (g : ReferenceGraph n) (below : List (Frame n))
    (answer : Except (List (Fin n)) (List (Fin n))) {Fits : Progress n → Prop} :
    Except (List (Fin n)) { t : Progress n // Fits t } → Prop
  | error {cycle : List (Fin n)} (same : answer = .error cycle) :
      Returns g below answer (.error cycle)
  | ok {t : Progress n} {fits : Fits t} (agrees : Agrees t (path below))
      (same : answer = visit g below t.order.reverse) : Returns g below answer (.ok ⟨t, fits⟩)

-- The path below is arbitrary in both, since a call at any depth is worked off like one at the root.
mutual

theorem returns_explore (g : ReferenceGraph n) (below : List (Frame n)) (w : Fin n) (s : Progress n)
    (new : s.marks.get w = .pending) (agrees : Agrees s (path below)) :
    Returns g below (visit g (⟨w, g.targetsOf w⟩ :: below) s.order.reverse)
      (explore g.targetsOf (path below).reverse w s new) := by
  have inside := returns_follow g w (g.targetsOf w) below (s.enter w) (agrees.enter new)
  have calls : (w :: path below).reverse = (path below).reverse ++ [w] := List.reverse_cons
  rw [calls] at inside
  rw [explore]
  generalize follow g.targetsOf ((path below).reverse ++ [w]) (g.targetsOf w) (s.enter w) = result
    at inside
  cases inside with
  | error same => exact .error same
  | @ok t less agrees same =>
    refine .ok agrees.leave ?_
    have left : (t.leave w).order.reverse = w :: t.order.reverse := by simp [Progress.leave]
    calc visit g (⟨w, g.targetsOf w⟩ :: below) s.order.reverse
        = visit g (⟨w, []⟩ :: below) t.order.reverse := same
      _ = visit g below (t.leave w).order.reverse := by rw [visit, left]
termination_by (s.pendingCount, 0)
decreasing_by exact Prod.Lex.left _ _ (Progress.pendingCount_enter new)

theorem returns_follow (g : ReferenceGraph n) (v : Fin n) (targets : List (Fin n))
    (below : List (Frame n)) (s : Progress n) (agrees : Agrees s (v :: path below)) :
    Returns g (⟨v, []⟩ :: below) (visit g (⟨v, targets⟩ :: below) s.order.reverse)
      (follow g.targetsOf (v :: path below).reverse targets s) := by
  cases targets with
  | nil =>
    rw [follow]
    exact .ok agrees rfl
  | cons w rest =>
    have finished := agrees.mem_finished_iff (v := w)
    have entered : w ∈ path (⟨v, rest⟩ :: below) ↔ s.marks.get w = .inProgress :=
      (agrees.inProgress w).symm
    rw [follow]
    split
    · rename_i mark
      have call := returns_explore g (⟨v, rest⟩ :: below) w s mark agrees
      have calls : (path (⟨v, rest⟩ :: below)).reverse = (v :: path below).reverse := rfl
      rw [visit, if_neg (by simp [finished, mark]), if_neg (by simp [entered, mark])]
      rw [calls] at call
      generalize explore g.targetsOf (v :: path below).reverse w s mark = result at call
      cases call with
      | error same => exact .error same
      | @ok t less agrees same =>
        have later := returns_follow g v rest below t agrees
        dsimp only
        generalize follow g.targetsOf (v :: path below).reverse rest t = result at later
        rw [same]
        cases later with
        | error same => exact .error same
        | ok agrees same => exact .ok agrees same
    · rename_i mark
      have met := entered.mpr mark
      rw [visit, if_neg (by simp [finished, mark]), if_pos met]
      exact .error (congrArg Except.error (cycleAt_eq agrees.distinct met))
    · rename_i mark
      rw [visit, if_pos (finished.mpr mark)]
      exact returns_follow g v rest below s agrees
termination_by (s.pendingCount, targets.length + 1)
decreasing_by
  · exact Prod.Lex.right _ (Nat.succ_pos _)
  · exact Prod.Lex.left _ _ less
  · exact Prod.Lex.right _ (Nat.lt_succ_self _)

end

/-! ### All roots -/

theorem visitRoots_eq (g : ReferenceGraph n) (roots : List (Fin n)) {s : Progress n}
    (agrees : Agrees s []) :
    roots.foldlM (visitRoot g) s.order.reverse =
      (roots.foldlM (exploreRoot g.targetsOf) s).map fun t => t.order.reverse := by
  induction roots generalizing s with
  | nil => rfl
  | cons root rest ih =>
    rw [List.foldlM_cons, List.foldlM_cons, exploreRoot, visitRoot]
    have finished := agrees.mem_finished_iff (v := root)
    by_cases new : s.marks.get root = .pending
    · have call := returns_explore g [] root s new agrees
      rw [dif_pos new, if_neg (by simp [finished, new])]
      change Returns g [] _ (explore g.targetsOf [] root s new) at call
      generalize explore g.targetsOf [] root s new = result at call
      cases call with
      | error same =>
        rw [same]
        rfl
      | @ok t less agrees same =>
        rw [same, visit]
        exact ih agrees
    · have done : s.marks.get root = .done := by
        cases mark : s.marks.get root with
        | pending => exact absurd mark new
        | inProgress => exact absurd ((agrees.inProgress root).mp mark) List.not_mem_nil
        | done => rfl
      rw [dif_neg new, if_pos (finished.mpr done)]
      exact ih agrees

theorem order_eq_recursiveOrder (g : ReferenceGraph n) : g.order = recursiveOrder g.targetsOf := by
  have roots := visitRoots_eq g (List.finRange n) agrees_start
  rw [order, recursiveOrder]
  change (List.finRange n).foldlM (visitRoot g) [] = _ at roots
  rw [roots]
  cases (List.finRange n).foldlM (exploreRoot g.targetsOf) .start with
  | error cycle => rfl
  | ok t => exact congrArg Except.ok (List.reverse_reverse t.order)

/-! ### Edges in the order of insertion -/

def firstInsertions (edges : List (Fin n × Fin n)) (v : Fin n) : List (Fin n) :=
  ((edges.filter fun edge => edge.1 = v).map Prod.snd).eraseDups

theorem targetsOf_addEdge (g : ReferenceGraph n) (source target v : Fin n) :
    (g.addEdge source target).targetsOf v =
      if source = v ∧ target ∉ g.targetsOf v then g.targetsOf v ++ [target] else g.targetsOf v := by
  rw [addEdge]
  split
  · rename_i known
    have old : ¬ (source = v ∧ target ∉ g.targetsOf v) := by
      rintro ⟨rfl, new⟩
      exact new known
    rw [if_neg old]
  · rename_i new
    by_cases same : source = v
    · subst same
      rw [if_pos ⟨rfl, new⟩]
      exact Vector.getElem_set_self source.isLt
    · rw [if_neg fun both => same both.1]
      exact Vector.getElem_set_ne source.isLt v.isLt fun equal => same (Fin.ext equal)

theorem mem_firstInsertions (edges : List (Fin n × Fin n)) (v w : Fin n) :
    w ∈ firstInsertions edges v ↔ (v, w) ∈ edges := by
  simp [firstInsertions]

theorem firstInsertions_append_singleton (edges : List (Fin n × Fin n)) (edge : Fin n × Fin n)
    (v : Fin n) : firstInsertions (edges ++ [edge]) v =
      if edge.1 = v ∧ edge.2 ∉ firstInsertions edges v then firstInsertions edges v ++ [edge.2]
      else firstInsertions edges v := by
  rw [firstInsertions, List.filter_append, List.map_append, List.eraseDups_append, ← firstInsertions]
  by_cases same : edge.1 = v
  · by_cases known : (v, edge.2) ∈ edges
    · rw [if_neg fun both => both.2 ((mem_firstInsertions edges v edge.2).mpr known)]
      simp [same, List.removeAll, known]
    · rw [if_pos ⟨same, mt (mem_firstInsertions edges v edge.2).mp known⟩]
      simp [same, List.removeAll, known, List.eraseDups_cons]
  · rw [if_neg fun both => same both.1]
    simp [same]

theorem targetsOf_ofEdges (edges : List (Fin n × Fin n)) (v : Fin n) :
    (ofEdges edges).targetsOf v = firstInsertions edges v := by
  induction edges using List.reverseRecOn with
  | nil => exact targetsOf_empty v
  | append_singleton edges edge ih =>
    rw [ofEdges, List.foldl_append, List.foldl_cons, List.foldl_nil, ← ofEdges, targetsOf_addEdge, ih,
      firstInsertions_append_singleton]

/-- The order and the cycles of a graph are those of the textbook search, which takes the roots in their
order and the targets of each node in the order in which their edges are first inserted. -/
theorem namedOrder_eq_recursiveOrder (edges : List (Fin n × Fin n)) (names : Vector String n) :
    (ofEdges edges).namedOrder names =
      (recursiveOrder (firstInsertions edges)).mapError fun cycle => cycle.map fun v => names.get v := by
  have targets : (ofEdges edges).targetsOf = firstInsertions edges := funext (targetsOf_ofEdges edges)
  rw [namedOrder, order_eq_recursiveOrder, targets]

end ScrollTimeline.ReferenceGraph
