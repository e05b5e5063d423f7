import NeighborGraph.Scalar

/-!
Points of the plane, also read as vectors from the origin.

Besides the vector operations this holds `Point.clampLength`, which the layout puts between the
raw force on a node and its effect: its answer is finite for every input when the limit is.
-/

namespace NeighborGraph

/-- A point of the plane; the x axis goes right and the y axis goes down. -/
structure Point (α : Type) where
  /-- The horizontal coordinate. -/
  x : α
  /-- The vertical coordinate. -/
  y : α
  deriving DecidableEq

namespace Point

variable {α : Type} [Scalar α]

/-- The point `(0, 0)`. -/
def origin : Point α := ⟨0, 0⟩

instance : Inhabited (Point α) := ⟨origin⟩

/-- The sum by components. -/
@[specialize] protected def add (p q : Point α) : Point α := ⟨p.x + q.x, p.y + q.y⟩

/-- The difference by components. -/
@[specialize] protected def sub (p q : Point α) : Point α := ⟨p.x - q.x, p.y - q.y⟩

instance : Add (Point α) := ⟨Point.add⟩
instance : Sub (Point α) := ⟨Point.sub⟩

/-- Both components times `k`. -/
@[specialize] def scale (p : Point α) (k : α) : Point α := ⟨p.x * k, p.y * k⟩

/-- The Euclidean length of the vector. -/
@[specialize] def length (p : Point α) : α := Scalar.hypot p.x p.y

/-- The Euclidean distance between two points. -/
@[specialize] def distance (p q : Point α) : α := (p - q).length

/-- Neither component is infinite or undefined. -/
@[specialize] def isFinite (p : Point α) : Bool := Scalar.isFinite p.x && Scalar.isFinite p.y

/-- Both components equal zero, whatever its sign. -/
def isZero (p : Point α) : Bool :=
  decide (p.x ≤ 0 ∧ 0 ≤ p.x) && decide (p.y ≤ 0 ∧ 0 ≤ p.y)

/-- One, zero or minus one by the sign of a coordinate; an undefined one counts as zero. -/
@[specialize] def signOf (a : α) : α := if 0 < a then 1 else if a < 0 then -1 else 0

/-- The vector shortened to `limit` if it is longer.

A vector with a component that is not finite counts as infinitely long: it comes back with length
`limit` in the direction of the signs of its components, or as zero if none is left. Finite
components whose length overflows are divided by the greater one first. -/
@[specialize] def clampLength (p : Point α) (limit : α) : Point α :=
  if p.isFinite then
    let length := p.length
    if length ≤ limit then p
    else if Scalar.isFinite length then p.scale (limit / length)
    else
      let unit := p.scale (1 / Scalar.greater (Scalar.abs p.x) (Scalar.abs p.y))
      unit.scale (limit / unit.length)
  else
    let direction : Point α := ⟨signOf p.x, signOf p.y⟩
    let length := direction.length
    if 0 < length then direction.scale (limit / length) else origin

end Point

end NeighborGraph
