import Mathlib.Data.List.Perm.Basic
import NeighborGraph.Proofs.Layout.Changes
import NeighborGraph.Proofs.Scalar.Exact

/-!
# The forces on a single node

The forces of a step are added up pair by pair: each pair is visited once, and its force is added to
the one node and subtracted from the other. Seen from a single node this is a plain sum
(`Graph.forceOn`): the repulsion from each other node in the order of the list, then the pull of
each link that the node is an end of in the order of the links, then the pull to the center. The two
agree term by term where the arithmetic obeys the laws of signs (`Graph.getElem?_netForces`). A step
computes these forces before it moves the first node, so that it does not matter in which order the
nodes are moved (`Simulation.step_all_pairs`).
-/

namespace NeighborGraph

/-! ## Pairs -/

/-- The other number of a pair that holds the number `k`. -/
def partner? (k : Nat) (pair : Nat × Nat) : Option Nat :=
  if pair.1 = k then some pair.2 else if pair.2 = k then some pair.1 else none

/-- A number in a range parts it into what is below and what is above. -/
theorem range'_eq_append {start count k : Nat} (hle : start ≤ k) (hlt : k < start + count) :
    List.range' start count =
      List.range' start (k - start) ++ k :: List.range' (k + 1) (start + count - (k + 1)) := by
  have hrest : k :: List.range' (k + 1) (start + count - (k + 1)) =
      List.range' (start + (k - start)) (count - (k - start)) := by
    rw [show count - (k - start) = start + count - (k + 1) + 1 by omega, List.range'_succ]
    simp [hle]
  rw [hrest, List.range'_append_1]
  congr 1
  omega

/-- The pairs whose smaller number is `i` hold `k` once if `i` is below it, all of them if `i` is
`k`, and not at all otherwise. -/
theorem filterMap_partner?_row {n k : Nat} (hk : k < n) (i : Nat) :
    ((List.range' (i + 1) (n - (i + 1))).map fun j => (i, j)).filterMap (partner? k) =
      if i < k then [i] else if i = k then List.range' (k + 1) (n - (k + 1)) else [] := by
  rw [List.filterMap_map]
  rcases Nat.lt_trichotomy i k with hlt | rfl | hgt
  · have hnone : ∀ j ≠ k, partner? k (i, j) = none := by
      intro j hj
      simp [partner?, hj, Nat.ne_of_lt hlt]
    -- The row goes past `k`, which is the larger number in one of its pairs.
    rw [range'_eq_append (k := k) (by omega) (by omega), List.filterMap_append,
      List.filterMap_cons, List.filterMap_eq_nil_iff.2, List.filterMap_eq_nil_iff.2]
    · simp [partner?, hlt, Nat.ne_of_lt hlt]
    · intro j hj
      exact hnone j (by simp at hj; omega)
    · intro j hj
      exact hnone j (by simp at hj; omega)
  · simp [partner?, Function.comp_def]
  · have hnone : ∀ j ∈ List.range' (i + 1) (n - (i + 1)),
        (partner? k ∘ fun j => (i, j)) j = none := by
      intro j hj
      have hij : i < j := by simp at hj; omega
      simp [partner?, Nat.ne_of_gt hgt, Nat.ne_of_gt (Nat.lt_trans hgt hij)]
    rw [List.filterMap_eq_nil_iff.2 hnone, if_neg (by omega), if_neg (by omega)]

/-- The partners of a number in all pairs are the other numbers in their order: those below it come
from one pair in each row of pairs, and those above it make up its own row. -/
theorem filterMap_partner?_pairsBelow {n k : Nat} (hk : k < n) :
    (pairsBelow n).filterMap (partner? k) = (List.range n).filter (· ≠ k) := by
  have hrange : List.range n = List.range k ++ k :: List.range' (k + 1) (n - (k + 1)) := by
    have h : List.range' 0 n = _ := range'_eq_append (Nat.zero_le k) (by omega)
    simpa [List.range_eq_range'] using h
  have hbelow : (List.range k).flatMap (fun i => if i < k then [i] else
      if i = k then List.range' (k + 1) (n - (k + 1)) else []) = List.range k := by
    rw [List.flatMap_congr (g := fun i => [i]), List.flatMap_singleton']
    intro i hi
    rw [if_pos (List.mem_range.1 hi)]
  have habove : (List.range' (k + 1) (n - (k + 1))).flatMap (fun i => if i < k then [i] else
      if i = k then List.range' (k + 1) (n - (k + 1)) else []) = [] := by
    rw [List.flatMap_eq_nil_iff]
    intro i hi
    have hki : k < i := by simp at hi; omega
    rw [if_neg (by omega), if_neg (by omega)]
  unfold pairsBelow
  rw [List.filterMap_flatMap]
  simp only [filterMap_partner?_row hk]
  rw [hrange, List.flatMap_append, List.flatMap_cons, hbelow, habove, List.filter_append,
    List.filter_cons_of_neg (by simp), List.filter_eq_self.2, List.filter_eq_self.2]
  · simp
  · intro i hi
    have hki : k < i := by simp at hi; omega
    simp; omega
  · intro i hi
    have hik := List.mem_range.1 hi
    simp; omega

variable {α : Type} [Scalar α]

/-! ## Adding up -/

namespace MutualForce

/-- The part of a force between two nodes that acts on node `k`. -/
def on? (m : MutualForce α) (k : Nat) : Option (Point α) :=
  if m.first = k then some m.force else if m.second = k then some (-m.force) else none

variable [SignLaws α]

/-- A force between two nodes adds to each node the part that acts on it. -/
theorem getElem?_addTo {m : MutualForce α} (hne : m.first ≠ m.second) (forces : Array (Point α))
    (k : Nat) :
    (m.addTo forces)[k]? = (forces[k]?).map fun sum => ((m.on? k).toList).foldl (· + ·) sum := by
  unfold addTo on?
  rw [Array.getElem?_modify, Array.getElem?_modify]
  -- The subtraction from the second node is the addition of the reversed force.
  by_cases hfirst : m.first = k
  · have hsecond : m.second ≠ k := fun h => hne (hfirst.trans h.symm)
    simp [hfirst, hsecond]
  · by_cases hsecond : m.second = k
    · simp [hfirst, hsecond, Point.sub_eq_add_neg]
    · simp [hfirst, hsecond]

/-- All forces between nodes add to each node the parts that act on it, in their order. -/
theorem getElem?_foldl_addTo {ms : List (MutualForce α)} (hne : ∀ m ∈ ms, m.first ≠ m.second)
    (forces : Array (Point α)) (k : Nat) :
    (ms.foldl (fun forces m => m.addTo forces) forces)[k]? =
      (forces[k]?).map fun sum => (ms.filterMap (·.on? k)).foldl (· + ·) sum := by
  induction ms generalizing forces with
  | nil => simp
  | cons m ms ih =>
    obtain ⟨hm, hms⟩ := List.forall_mem_cons.1 hne
    rw [List.foldl_cons, ih hms, getElem?_addTo hm, Option.map_map]
    cases hon : m.on? k with
    | none => simp [hon, Function.comp_def]
    | some force => simp [hon, Function.comp_def]

end MutualForce

namespace Graph

variable (g : Graph α) (p : ForceParameters α) (center : Point α)

/-- The force on node `k` by which node `j` repels it. -/
def repulsionOn (k j : Nat) : Point α := p.repulsion (g.positionOf k) (g.positionOf j) k j

/-- The force on node `k` by which a link pulls it to the other end, if `k` is one of two ends. -/
def pullOn? (k : Nat) (l : Link α) : Option (Point α) :=
  if l.isLoop then none
  else (partner? k (l.sourceIndex, l.targetIndex)).map fun other =>
    p.pull (g.positionOf k) (g.positionOf other) k other

/-- The net force on node `k`: the repulsion from all other nodes, then the pull of all its links,
and then the pull to the center if there is one. -/
def forceOn (k : Nat) : Point α :=
  let repulsions := ((List.range g.nodeCount).filter (· ≠ k)).map (g.repulsionOn p k)
  let pulls := g.links.toList.filterMap (g.pullOn? p k)
  let between := (repulsions ++ pulls).foldl (· + ·) .origin
  if 0 < p.gravity then between + p.centering center (g.positionOf k) else between

variable [SignLaws α]

/-- The part of the repulsion in a pair that acts on a node is the repulsion on it from its
partner. -/
theorem on?_repulsionBetween {pair : Nat × Nat} (hne : pair.1 ≠ pair.2) (k : Nat) :
    (g.repulsionBetween p pair.1 pair.2).on? k = (partner? k pair).map (g.repulsionOn p k) := by
  unfold MutualForce.on? partner? repulsionBetween repulsionOn
  dsimp only
  split
  · next h => simp [h]
  · split
    · next h => simp [← h, p.repulsion_swap _ _ hne]
    · rfl

/-- The part of the pull of a link that acts on a node is the pull on it to the other end. -/
theorem on?_pullOf {l : Link α} (hl : l.isLoop = false) (k : Nat) :
    (g.pullOf p l).on? k = g.pullOn? p k l := by
  have hne : l.sourceIndex ≠ l.targetIndex := by simpa [Link.isLoop] using hl
  unfold MutualForce.on? pullOn? partner? pullOf
  rw [hl, if_neg Bool.false_ne_true]
  dsimp only
  split
  · next h => simp [h]
  · split
    · next h => simp [← h, p.pull_swap _ _ hne]
    · rfl

/-- The parts of all forces between nodes that act on one of them. -/
theorem filterMap_on?_mutualForces {k : Nat} (hk : k < g.nodeCount) :
    (g.mutualForces p).filterMap (·.on? k) =
      ((List.range g.nodeCount).filter (· ≠ k)).map (g.repulsionOn p k) ++
        g.links.toList.filterMap (g.pullOn? p k) := by
  unfold mutualForces
  rw [List.filterMap_append, List.filterMap_map, List.filterMap_map, List.filterMap_filter]
  congr 1
  · rw [← filterMap_partner?_pairsBelow hk, List.map_filterMap]
    refine List.filterMap_congr fun pair hpair => ?_
    obtain ⟨hlt, -⟩ := mem_pairsBelow.1 hpair
    exact g.on?_repulsionBetween p (Nat.ne_of_lt hlt) k
  · refine List.filterMap_congr fun l _ => ?_
    cases hl : l.isLoop with
    | true => simp [pullOn?, hl]
    | false => simp [g.on?_pullOf p hl]

omit [SignLaws α] in
/-- No force between nodes acts twice on one of them. -/
theorem first_ne_second_of_mem_mutualForces :
    ∀ m ∈ g.mutualForces p, m.first ≠ m.second := by
  intro m hm
  rcases List.mem_append.1 hm with hm | hm
  · obtain ⟨⟨i, j⟩, hij, rfl⟩ := List.mem_map.1 hm
    exact Nat.ne_of_lt (mem_pairsBelow.1 hij).1
  · obtain ⟨l, hl, rfl⟩ := List.mem_map.1 hm
    have hloop := (List.mem_filter.1 hl).2
    simpa [Link.isLoop, pullOf] using hloop

/-- The net force on a node is the plain sum of the forces on it. -/
theorem getElem?_netForces {k : Nat} (hk : k < g.nodeCount) :
    (g.netForces p center)[k]? = some (g.forceOn p center k) := by
  have hbetween : ((g.mutualForces p).foldl (fun forces m => m.addTo forces)
      (Array.replicate g.nodeCount .origin))[k]? =
      some ((((List.range g.nodeCount).filter (· ≠ k)).map (g.repulsionOn p k) ++
        g.links.toList.filterMap (g.pullOn? p k)).foldl (· + ·) .origin) := by
    rw [MutualForce.getElem?_foldl_addTo (g.first_ne_second_of_mem_mutualForces p),
      g.filterMap_on?_mutualForces p hk]
    simp [hk]
  have hnode : g.nodes[k]? = some g.nodes[k] := Array.getElem?_eq_getElem hk
  unfold netForces forceOn
  dsimp only
  split
  · simp [Array.getElem?_zipWith', hbetween, hnode, positionOf]
  · exact hbetween

end Graph

/-! ## Steps -/

/-- Changing the entries of an array at some places, one after the other, changes each of these by
its own change, in whatever order the places come. -/
theorem getElem?_foldl_modify {β : Type} (change : Nat → β → β) {order : List Nat}
    (hnd : order.Nodup) (entries : Array β) (k : Nat) :
    (order.foldl (fun entries i => entries.modify i (change i)) entries)[k]? =
      if k ∈ order then (entries[k]?).map (change k) else entries[k]? := by
  induction order generalizing entries with
  | nil => simp
  | cons i order ih =>
    obtain ⟨hi, hnd⟩ := List.nodup_cons.1 hnd
    rw [List.foldl_cons, ih hnd, Array.getElem?_modify]
    by_cases hik : i = k
    · subst hik
      simp [hi]
    · simp [hik, Ne.symm hik]

namespace Simulation

variable [SignLaws α]

/-- In a well-formed graph the net force on each node is the sum over all other nodes, all links of
the node and the pull to the center, each computed for the node alone. Nodes on the same spot, or
infinitely far apart, repel and pull each other in the direction that is fixed for the pair. A step
moves each node by the force on it before the step, and may do so in any order of the nodes. -/
theorem step_all_pairs {sim : Simulation α} (hg : sim.graph.WellFormed) (timeStep : α) :
    (∀ k < sim.graph.nodeCount,
      sim.netForces[k]? = some (sim.graph.forceOn sim.forces sim.center k)) ∧
    (∀ l ∈ sim.graph.links,
      l.sourceIndex < sim.graph.nodeCount ∧ l.targetIndex < sim.graph.nodeCount) ∧
    (∀ i j, let (start, stop) := (sim.graph.positionOf i, sim.graph.positionOf j)
      ¬ (Point.coincident < (stop - start).length ∧
        Scalar.isFinite (stop - start).length = true) →
      sim.forces.repulsion stop start j i =
          (Point.separating j i).scale (sim.forces.repulsionAt 0) ∧
        sim.forces.pull start stop i j =
          (Point.separating j i).scale (sim.forces.spring * (0 - sim.forces.restLength))) ∧
    ∀ order : List Nat, order.Perm (List.range sim.graph.nodeCount) →
      (sim.step timeStep).graph.nodes = order.foldl
        (fun nodes k => nodes.modify k fun node => node.advance sim.forces
          (Scalar.toMagnitude timeStep) (sim.graph.forceOn sim.forces sim.center k))
        sim.graph.nodes := by
  have hforces : ∀ k < sim.graph.nodeCount,
      sim.netForces[k]? = some (sim.graph.forceOn sim.forces sim.center k) :=
    fun k hk => sim.graph.getElem?_netForces sim.forces sim.center hk
  refine ⟨hforces, fun l hl => hg.link_lt hl, fun i j h => ?_, fun order horder => ?_⟩
  · unfold ForceParameters.repulsion ForceParameters.pull Point.heading
    simp only [if_neg h, and_self]
  · have hnd : order.Nodup := horder.nodup_iff.2 List.nodup_range
    refine Array.ext_getElem? fun k => ?_
    rw [getElem?_foldl_modify _ hnd]
    change (Array.zipWith _ sim.graph.nodes sim.netForces)[k]? = _
    rw [Array.getElem?_zipWith']
    by_cases hk : k < sim.graph.nodeCount
    · have hnode : sim.graph.nodes[k]? = some sim.graph.nodes[k] := Array.getElem?_eq_getElem hk
      simp [hforces k hk, horder.mem_iff, hk, hnode]
    · have hnode : sim.graph.nodes[k]? = none := Array.getElem?_eq_none (Nat.not_lt.1 hk)
      simp [horder.mem_iff, hk, hnode]

/-- Two nodes on the same spot, with two links from the one to the other and a link from the second
to itself: three forces act on the first node. -/
theorem step_all_pairs_sameSpot :
    let nodes : Array (Node ℝ) :=
      #[⟨⟨"a"⟩, "A", .origin, .origin, false⟩, ⟨⟨"b"⟩, "B", .origin, .origin, false⟩]
    let links : Array (Link ℝ) :=
      #[⟨⟨"a"⟩, ⟨"b"⟩, 1, 0, 1⟩, ⟨⟨"b"⟩, ⟨"b"⟩, 1, 1, 1⟩, ⟨⟨"a"⟩, ⟨"b"⟩, 1, 0, 1⟩]
    let p : ForceParameters ℝ := { ForceParameters.default with gravity := 0 }
    let sim : Simulation ℝ := .ofGraph p (Generator.ofSeed 0) ⟨nodes, links⟩
    sim.graph.WellFormed ∧
      sim.netForces[0]? = some (.origin + p.repulsion .origin .origin 0 1 +
        p.pull .origin .origin 0 1 + p.pull .origin .origin 0 1) := by
  intro nodes links p sim
  have hg : sim.graph.WellFormed := by
    constructor <;> simp [sim, ofGraph, nodes, links, Graph.ids, Scalar.isMagnitude]
  have hgravity : ¬ ((0 : ℕ) : ℝ) < 0 := by simp
  obtain ⟨hforces, -⟩ := step_all_pairs hg 1
  exact ⟨hg, (hforces 0 (by decide)).trans (congrArg some (if_neg hgravity))⟩

end Simulation

end NeighborGraph
