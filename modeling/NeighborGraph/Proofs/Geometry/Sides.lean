import NeighborGraph.Frame.Basic
import NeighborGraph.Proofs.Geometry.ClampLength
import NeighborGraph.Proofs.Scalar.Extremes

/-!
# Sides of boxes

A box has four sides, each with a coordinate and a direction that is outward (`Side`). On each side
the smallest box around several boxes is at a running extreme of their coordinates
(`Side.of_foldl_merge`), so what is known of such extremes is said of the four sides at once. A
coordinate that is infinitely far out on a side stays so (`Side.Le.isBeyond`).
-/

namespace NeighborGraph

namespace Double

variable {a : Float}

/-- A number that is neither finite nor undefined is one of the infinities. -/
theorem isFinite_eq_false_iff (h : a.isNaN = false) :
    a.isFinite = false ↔ extended a = ⊤ ∨ extended a = ⊥ := by
  rw [← Bool.not_eq_true, isFinite_iff_extended, and_iff_right h, not_and_or, not_not, not_not]

end Double

/-! ## Sides -/

/-- A side of a box. -/
inductive Side where
  | left
  | top
  | right
  | bottom

namespace Side

variable {α : Type}

/-- The coordinate of a box on a side. -/
def of : Side → Bounds α → α
  | left, b => b.minX
  | top, b => b.minY
  | right, b => b.maxX
  | bottom, b => b.maxY

/-- The one of two coordinates that is farther out on a side. -/
def outer [Scalar α] : Side → α → α → α
  | left | top => Scalar.lesser
  | right | bottom => Scalar.greater

/-- The side of a merged box is the outermost one of those of the boxes, as far as it is told by
comparing one after another. -/
theorem of_foldl_merge [Scalar α] (side : Side) (area : Bounds α) (shapes : List (Shape α)) :
    side.of (shapes.foldl (fun area shape => area.merge shape.bounds) area) =
      (shapes.map fun shape => side.of shape.bounds).foldl side.outer (side.of area) := by
  induction shapes generalizing area with
  | nil => rfl
  | cons shape shapes ih =>
    rw [List.foldl_cons, ih, List.map_cons, List.foldl_cons]
    cases side <;> rfl

/-- One coordinate is at least as far out on a side as another one. -/
def Le : Side → Float → Float → Prop
  | left | top => fun a b => b ≤ a
  | right | bottom => fun a b => a ≤ b

/-- A coordinate is infinitely far out on a side. -/
def IsBeyond (side : Side) (a : Float) : Prop :=
  a.isFinite = false ∧
    match side with
    | left | top => a < 0
    | right | bottom => 0 < a

/-- The infinity on a side. -/
noncomputable def far : Side → EReal
  | left | top => ⊥
  | right | bottom => ⊤

open Double

variable {side : Side} {a b : Float}

/-- The double zero stands for zero. -/
theorem extended_zero : extended 0 = 0 := by
  rw [extended_of_isFinite (by rfl), value_zero, EReal.coe_zero]

/-- A coordinate is beyond a side if it is the infinity on this side. -/
theorem isBeyond_iff : side.IsBeyond a ↔ a.isNaN = false ∧ extended a = side.far := by
  have hlow (ha : a.isNaN = false) : a < 0 ↔ extended a < 0 := by
    rw [lt_iff_extended ha rfl, extended_zero]
  have hhigh (ha : a.isNaN = false) : 0 < a ↔ 0 < extended a := by
    rw [lt_iff_extended rfl ha, extended_zero]
  constructor
  · rintro ⟨hfinite, hside⟩
    cases side with
    | left | top =>
      have hnan := (isNaN_of_lt hside).1
      refine ⟨hnan, ((isFinite_eq_false_iff hnan).1 hfinite).resolve_left fun htop => ?_⟩
      exact not_top_lt (htop ▸ (hlow hnan).1 hside)
    | right | bottom =>
      have hnan := (isNaN_of_lt hside).2
      refine ⟨hnan, ((isFinite_eq_false_iff hnan).1 hfinite).resolve_right fun hbot => ?_⟩
      exact not_lt_bot (hbot ▸ (hhigh hnan).1 hside)
  · rintro ⟨hnan, hfar⟩
    cases side with
    | left | top =>
      have hlt : extended a < 0 := hfar.trans_lt (EReal.bot_lt_coe 0)
      exact ⟨(isFinite_eq_false_iff hnan).2 (.inr hfar), (hlow hnan).2 hlt⟩
    | right | bottom =>
      have hlt : 0 < extended a := (EReal.coe_lt_top 0).trans_eq hfar.symm
      exact ⟨(isFinite_eq_false_iff hnan).2 (.inl hfar), (hhigh hnan).2 hlt⟩

/-- Coordinates that can be compared are defined. -/
theorem Le.isNaN (h : side.Le a b) : a.isNaN = false ∧ b.isNaN = false := by
  cases side with
  | left | top => exact (isNaN_of_le h).symm
  | right | bottom => exact isNaN_of_le h

/-- What is at least as far out as an infinity on this side is that infinity. -/
theorem Le.isBeyond (h : side.Le a b) (ha : side.IsBeyond a) : side.IsBeyond b := by
  obtain ⟨hnan, hnan'⟩ := h.isNaN
  rw [isBeyond_iff] at ha ⊢
  refine ⟨hnan', ?_⟩
  cases side with
  | left | top =>
    have hle := (le_iff_extended hnan' hnan).1 h
    rw [ha.2] at hle
    exact le_bot_iff.1 hle
  | right | bottom =>
    have hle := (le_iff_extended hnan hnan').1 h
    rw [ha.2] at hle
    exact top_le_iff.1 hle

/-- What is at least as far out as a finite coordinate is finite or an infinity on this side. -/
theorem Le.isBeyond_of_isFinite (h : side.Le a b) (ha : a.isFinite = true)
    (hb : b.isFinite = false) : side.IsBeyond b := by
  obtain ⟨hnan, hnan'⟩ := h.isNaN
  rw [isFinite_eq_false_iff hnan'] at hb
  refine isBeyond_iff.2 ⟨hnan', ?_⟩
  cases side with
  | left | top =>
    have hle := (le_iff_extended hnan' hnan).1 h
    rw [extended_of_isFinite ha] at hle
    refine hb.resolve_left fun htop => ?_
    exact (hle.trans_lt (EReal.coe_lt_top _)).ne htop
  | right | bottom =>
    have hle := (le_iff_extended hnan hnan').1 h
    rw [extended_of_isFinite ha] at hle
    refine hb.resolve_right fun hbot => ?_
    exact ((EReal.bot_lt_coe _).trans_le hle).ne' hbot

/-- The outermost of some coordinates, taken one after another, is at least as far out as every
defined one of them. -/
theorem isExtreme_foldl_outer (side : Side) (a : Float) (xs : List Float) :
    IsExtreme side.Le (xs.foldl side.outer a) (a :: xs) := by
  cases side with
  | left | top => exact isExtreme_foldl_lesser a xs
  | right | bottom => exact isExtreme_foldl_greater a xs

/-- The outermost one of several coordinates is finite if one of them is, and none is an infinity on
this side. Undefined coordinates and the other infinity do not show. -/
theorem isFinite_foldl_outer (side : Side) (a : Float) (xs : List Float) :
    (xs.foldl side.outer a).isFinite = true ↔
      (∃ x ∈ a :: xs, x.isFinite = true) ∧ ∀ x ∈ a :: xs, ¬ side.IsBeyond x := by
  obtain ⟨hmem, hbound⟩ := isExtreme_foldl_outer side a xs
  constructor
  · intro hfinite
    refine ⟨⟨_, hmem, hfinite⟩, fun x hx hbeyond => ?_⟩
    rcases hbound x hx with hnan | hle
    · rw [(isBeyond_iff.1 hbeyond).1] at hnan
      cases hnan
    · rw [(hle.isBeyond hbeyond).1] at hfinite
      cases hfinite
  · rintro ⟨⟨x, hx, hfinite⟩, hnone⟩
    have hle := (hbound x hx).resolve_left (by rw [isNaN_of_isFinite hfinite]; exact nofun)
    by_contra hm
    rw [Bool.not_eq_true] at hm
    exact hnone _ hmem (hle.isBeyond_of_isFinite hfinite hm)

end Side

namespace Bounds

/-- The coordinates of the corners. -/
def coordinates {α : Type} (b : Bounds α) : List α := [b.minX, b.minY, b.maxX, b.maxY]

/-- No coordinate is undefined, and none is below its counterpart. -/
def Upright (b : Bounds Float) : Prop := b.minX ≤ b.maxX ∧ b.minY ≤ b.maxY

/-- A box is finite if all its sides are. -/
theorem isFinite_iff {b : Bounds Float} :
    b.isFinite = true ↔ ∀ side : Side, (side.of b).isFinite = true := by
  unfold isFinite
  rw [Bool.and_eq_true, Point.isFinite_iff, Point.isFinite_iff]
  constructor
  · rintro ⟨⟨hleft, htop⟩, hright, hbottom⟩ side
    cases side <;> assumption
  · intro h
    exact ⟨⟨h .left, h .top⟩, h .right, h .bottom⟩

/-- If one end of a range is not finite, the range is infinitely long. -/
theorem isBeyond_of_le {low high : Float} (h : low ≤ high)
    (hbad : low.isFinite = false ∨ high.isFinite = false) :
    Side.left.IsBeyond low ∨ Side.right.IsBeyond high := by
  have hright : Side.right.Le low high := h
  have hleft : Side.left.Le high low := h
  cases hlow : low.isFinite with
  | true =>
    rw [hlow] at hbad
    exact .inr (hright.isBeyond_of_isFinite hlow (hbad.resolve_left nofun))
  | false =>
    have hnan := (Double.isNaN_of_le h).1
    rcases (Double.isFinite_eq_false_iff hnan).1 hlow with htop | hbot
    · exact .inr (hright.isBeyond (Side.isBeyond_iff.2 ⟨hnan, htop⟩))
    · exact .inl (Side.isBeyond_iff.2 ⟨hnan, hbot⟩)

/-- A box that is not finite, and neither undefined nor inside out, is infinitely far out on some
side. -/
theorem Upright.exists_isBeyond {b : Bounds Float} (h : b.Upright) (hbad : b.isFinite = false) :
    ∃ side : Side, side.IsBeyond (side.of b) := by
  rw [← Bool.not_eq_true, isFinite_iff, not_forall] at hbad
  obtain ⟨side, hside⟩ := hbad
  rw [Bool.not_eq_true] at hside
  have hx := fun hbad => isBeyond_of_le h.1 hbad
  have hy := fun hbad => isBeyond_of_le h.2 hbad
  cases side with
  | left => exact (hx (.inl hside)).elim (fun h => ⟨.left, h⟩) fun h => ⟨.right, h⟩
  | right => exact (hx (.inr hside)).elim (fun h => ⟨.left, h⟩) fun h => ⟨.right, h⟩
  | top => exact (hy (.inl hside)).elim (fun h => ⟨.top, h⟩) fun h => ⟨.bottom, h⟩
  | bottom => exact (hy (.inr hside)).elim (fun h => ⟨.top, h⟩) fun h => ⟨.bottom, h⟩

end Bounds

end NeighborGraph
