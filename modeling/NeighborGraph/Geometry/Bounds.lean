import NeighborGraph.Geometry.Point

/-!
Sizes and axis-parallel boxes.

A box is kept by its least and greatest coordinates. `Bounds.merge` compares coordinates only and
lets an undefined coordinate yield to a defined one.
-/

namespace NeighborGraph

/-- A width and a height. -/
structure Size (α : Type) where
  /-- The extent along the x axis. -/
  width : α
  /-- The extent along the y axis. -/
  height : α
  deriving DecidableEq

namespace Size

variable {α : Type} [Scalar α]

/-- The middle of a box of this size whose corner lies at the origin. -/
@[specialize] def center (s : Size α) : Point α := ⟨s.width / 2, s.height / 2⟩

end Size

/-- An axis-parallel box between two corners. -/
structure Bounds (α : Type) where
  /-- The least x coordinate. -/
  minX : α
  /-- The least y coordinate. -/
  minY : α
  /-- The greatest x coordinate. -/
  maxX : α
  /-- The greatest y coordinate. -/
  maxY : α
  deriving DecidableEq

namespace Bounds

variable {α : Type} [Scalar α]

/-- The box of the given size around a center. -/
@[specialize] def ofCenter (c : Point α) (s : Size α) : Bounds α :=
  ⟨c.x - s.width / 2, c.y - s.height / 2, c.x + s.width / 2, c.y + s.height / 2⟩

/-- The box of the given size to the right of and below a corner. -/
@[specialize] def ofCorner (p : Point α) (s : Size α) : Bounds α :=
  ⟨p.x, p.y, p.x + s.width, p.y + s.height⟩

/-- The corner with the least coordinates. -/
def minPoint (b : Bounds α) : Point α := ⟨b.minX, b.minY⟩

/-- The corner with the greatest coordinates. -/
def maxPoint (b : Bounds α) : Point α := ⟨b.maxX, b.maxY⟩

/-- The extent along the x axis. -/
@[specialize] def width (b : Bounds α) : α := b.maxX - b.minX

/-- The extent along the y axis. -/
@[specialize] def height (b : Bounds α) : α := b.maxY - b.minY

/-- The middle of the box. -/
@[specialize] def center (b : Bounds α) : Point α :=
  ⟨(b.minX + b.maxX) / 2, (b.minY + b.maxY) / 2⟩

/-- The point lies inside the box or on its edge. -/
@[specialize] def contains (b : Bounds α) (p : Point α) : Bool :=
  decide (b.minX ≤ p.x) && decide (p.x ≤ b.maxX) && decide (b.minY ≤ p.y) && decide (p.y ≤ b.maxY)

/-- The smallest box around two boxes. -/
@[specialize] def merge (a b : Bounds α) : Bounds α :=
  ⟨Scalar.lesser a.minX b.minX, Scalar.lesser a.minY b.minY,
    Scalar.greater a.maxX b.maxX, Scalar.greater a.maxY b.maxY⟩

/-- All four coordinates are finite. -/
@[specialize] def isFinite (b : Bounds α) : Bool := b.minPoint.isFinite && b.maxPoint.isFinite

end Bounds

end NeighborGraph
