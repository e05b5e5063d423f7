import Mathlib.Order.Basic
import NeighborGraph.Layout.Forces

/-!
# The laws of signs

What the force between two nodes does when the nodes change places is a matter of signs alone. The
usual laws of signs (`SignLaws`) hold of exact numbers; with them a force is reversed by exchanging
its ends, also on the same spot, where its direction depends on which end comes first in the list of
nodes (`ForceParameters.repulsion_swap`, `ForceParameters.pull_swap`).
-/

namespace NeighborGraph

/-- The arithmetic obeys the usual laws of signs. -/
class SignLaws (α : Type) [Scalar α] : Prop where
  sub_eq_add_neg (a b : α) : a - b = a + -b
  neg_sub (a b : α) : -(a - b) = b - a
  neg_neg (a : α) : - -a = a
  mul_neg_one (a : α) : a * -1 = -a
  neg_mul (a b : α) : -a * b = -(a * b)
  hypot_neg (a b : α) : Scalar.hypot (-a) (-b) = Scalar.hypot a b

variable {α : Type} [Scalar α]

namespace Point

instance : Neg (Point α) := ⟨fun p => ⟨-p.x, -p.y⟩⟩

variable [SignLaws α]

/-- To subtract a vector is to add the opposite one. -/
theorem sub_eq_add_neg (p q : Point α) : p - q = p + -q :=
  congrArg₂ mk (SignLaws.sub_eq_add_neg p.x q.x) (SignLaws.sub_eq_add_neg p.y q.y)

/-- The opposite of a difference is the difference the other way. -/
theorem neg_sub (p q : Point α) : -(p - q) = q - p :=
  congrArg₂ mk (SignLaws.neg_sub p.x q.x) (SignLaws.neg_sub p.y q.y)

/-- The opposite of the opposite vector is the vector. -/
theorem neg_neg (p : Point α) : - -p = p :=
  congrArg₂ mk (SignLaws.neg_neg p.x) (SignLaws.neg_neg p.y)

/-- Scaling by minus one gives the opposite vector. -/
theorem scale_neg_one (p : Point α) : p.scale (-1) = -p :=
  congrArg₂ mk (SignLaws.mul_neg_one p.x) (SignLaws.mul_neg_one p.y)

/-- The opposite vector scales to the opposite of what the vector scales to. -/
theorem neg_scale (p : Point α) (k : α) : (-p).scale k = -(p.scale k) :=
  congrArg₂ mk (SignLaws.neg_mul p.x k) (SignLaws.neg_mul p.y k)

/-- Opposite vectors have the same length. -/
theorem length_neg (p : Point α) : (-p).length = p.length := SignLaws.hypot_neg p.x p.y

/-- Exchanging two nodes reverses the direction in which they are pushed apart on the same spot. -/
theorem separating_swap {i j : Nat} (h : i ≠ j) :
    (separating j i : Point α) = -separating i j := by
  rcases Nat.lt_or_gt_of_ne h with hlt | hlt
  · simp only [separating, if_pos hlt, if_neg (Nat.lt_asymm hlt), scale_neg_one]
  · simp only [separating, if_pos hlt, if_neg (Nat.lt_asymm hlt), scale_neg_one, neg_neg]

/-- Exchanging two nodes reverses the direction from one to the other and keeps their distance. -/
theorem heading_swap (start stop : Point α) {i j : Nat} (h : i ≠ j) :
    stop.heading start j i = (-(start.heading stop i j).1, (start.heading stop i j).2) := by
  have hway : start - stop = -(stop - start) := (neg_sub stop start).symm
  have hlength : (start - stop).length = (stop - start).length := by rw [hway, length_neg]
  unfold heading
  simp only [hlength]
  split
  · simp only [hway, neg_scale]
  · simp only [separating_swap h, neg_neg]

end Point

namespace ForceParameters

variable [SignLaws α] (p : ForceParameters α) (position other : Point α) {i j : Nat}

/-- Two nodes repel each other by opposite forces. -/
theorem repulsion_swap (h : i ≠ j) :
    p.repulsion other position j i = -p.repulsion position other i j := by
  unfold repulsion
  rw [other.heading_swap position h.symm]
  exact Point.neg_scale _ _

/-- A link pulls its ends by opposite forces. -/
theorem pull_swap (h : i ≠ j) : p.pull other position j i = -p.pull position other i j := by
  unfold pull
  rw [position.heading_swap other h]
  exact Point.neg_scale _ _

end ForceParameters

end NeighborGraph
