import NeighborGraph.Proofs.Geometry.Sides

/-!
# The box around a frame

The box around a frame is the smallest one (`Frame.bounds?_least`): it is at least as far out on
each side as any shape of the frame (`Bounds.Encloses`), and no farther than some shape. Undefined
coordinates do not get in the way of this, whichever shape has them and wherever it stands. Boxes
that enclose each other are alike, so that the order of the shapes matters for the signs of zeros
only.
-/

namespace NeighborGraph

open Float.Model

namespace Double

variable {a b : Float}

/-- The doubles are the same, or zeros that differ in their signs. -/
def Alike (a b : Float) : Prop := a = b ∨ (a = 0 ∧ b = -0) ∨ (a = -0 ∧ b = 0)

/-- Doubles that are at most each other are alike. -/
theorem alike_of_le (h : a ≤ b) (h' : b ≤ a) : Alike a b := by
  obtain ⟨ha, hb⟩ := isNaN_of_le h
  have heq := ((le_iff_extended ha hb).1 h).antisymm ((le_iff_extended hb ha).1 h')
  have hbeq : (a == b) = true := by
    change (UnpackedFloat.compare a.toModel.unpack b.toModel.unpack == some .eq) = true
    rw [compare_extended ha hb, heq, cmp_self_eq_eq]
    rfl
  exact (Float.beq_iff_ne_nan_and_eq.1 hbeq).2.2

/-- There is one undefined double only. -/
theorem eq_of_isNaN (ha : a.isNaN = true) (hb : b.isNaN = true) : a = b := by
  rw [Float.isNaN_eq_decide_eq_nan, decide_eq_true_eq] at ha hb
  rw [ha, hb]

end Double

open Double

namespace Side

variable {side : Side} {a b c : Float}

/-- Of three coordinates, the last is at least as far out as the first if each is so as the one
before it. -/
theorem Le.trans (h : side.Le a b) (h' : side.Le b c) : side.Le a c := by
  cases side with
  | left | top => exact trans_le h' h
  | right | bottom => exact trans_le h h'

/-- Coordinates of which each is at least as far out as the other are the same, up to the sign of
zero. -/
theorem alike_of_le (h : side.Le a b) (h' : side.Le b a) : Alike a b := by
  cases side with
  | left | top => exact Double.alike_of_le h' h
  | right | bottom => exact Double.alike_of_le h h'

end Side

namespace Bounds

/-- A box is at least as far out on each side as another one. -/
def Encloses (outer inner : Bounds Float) : Prop :=
  ∀ side : Side, side.Le (side.of inner) (side.of outer)

variable {outer area inner : Bounds Float}

/-- Each coordinate of one box is the same as that of the other one, up to the sign of a zero. -/
def Alike (area other : Bounds Float) : Prop :=
  ∀ side : Side, Double.Alike (side.of area) (side.of other)

/-- A box contains a point that is not beyond it on any side. -/
theorem contains_iff {p : Point Float} : area.contains p = true ↔
    (Side.left.Le p.x area.minX ∧ Side.right.Le p.x area.maxX) ∧
      Side.top.Le p.y area.minY ∧ Side.bottom.Le p.y area.maxY := by
  simp only [contains, Bool.and_eq_true, decide_eq_true_eq, and_assoc]
  rfl

/-- A box with an undefined coordinate contains nothing. -/
theorem contains_eq_false_of_isNaN (h : ∃ c ∈ area.coordinates, c.isNaN = true)
    (p : Point Float) : area.contains p = false := by
  by_contra hp
  rw [Bool.not_eq_false] at hp
  obtain ⟨⟨hleft, hright⟩, htop, hbottom⟩ := contains_iff.1 hp
  obtain ⟨c, hc, hnan⟩ := h
  have hdefined : ∀ c ∈ area.coordinates, c.isNaN = false := by
    simp only [coordinates, List.forall_mem_cons]
    exact ⟨hleft.isNaN.2, htop.isNaN.2, hright.isNaN.2, hbottom.isNaN.2, nofun⟩
  rw [hdefined c hc] at hnan
  cases hnan

/-- What a box contains is contained in every box around it. -/
theorem Encloses.contains (h : outer.Encloses inner) {p : Point Float}
    (hp : inner.contains p = true) : outer.contains p = true := by
  obtain ⟨⟨hleft, hright⟩, htop, hbottom⟩ := contains_iff.1 hp
  exact contains_iff.2 ⟨⟨hleft.trans (h .left), hright.trans (h .right)⟩,
    htop.trans (h .top), hbottom.trans (h .bottom)⟩

/-- A box whose corners belong to it is enclosed by every box that contains its points. -/
theorem Upright.encloses (h : inner.Upright)
    (hp : ∀ p : Point Float, inner.contains p = true → outer.contains p = true) :
    outer.Encloses inner := by
  obtain ⟨hx, hy⟩ := h
  obtain ⟨hminX, hmaxX⟩ := isNaN_of_le hx
  obtain ⟨hminY, hmaxY⟩ := isNaN_of_le hy
  have hmin : inner.contains inner.minPoint = true :=
    contains_iff.2 ⟨⟨le_self_iff.2 hminX, hx⟩, le_self_iff.2 hminY, hy⟩
  have hmax : inner.contains inner.maxPoint = true :=
    contains_iff.2 ⟨⟨hx, le_self_iff.2 hmaxX⟩, hy, le_self_iff.2 hmaxY⟩
  obtain ⟨⟨hleft, -⟩, htop, -⟩ := contains_iff.1 (hp _ hmin)
  obtain ⟨⟨-, hright⟩, -, hbottom⟩ := contains_iff.1 (hp _ hmax)
  intro side
  cases side with
  | left => exact hleft
  | top => exact htop
  | right => exact hright
  | bottom => exact hbottom

end Bounds

namespace Frame

variable {frame frame' : Frame Float} {area area' : Bounds Float}

/-- Only the empty frame has no bounds. -/
theorem bounds?_eq_none_iff : frame.bounds? = none ↔ frame = [] := by
  cases frame with
  | nil => simp [bounds?]
  | cons shape shapes => simp [bounds?]

/-- On each side the box around a frame is at the outermost one of the coordinates of its shapes. -/
theorem isExtreme_of_bounds (h : frame.bounds? = some area) (side : Side) :
    IsExtreme side.Le (side.of area) (frame.map fun shape => side.of shape.bounds) := by
  cases frame with
  | nil => cases h
  | cons shape shapes =>
    rw [← Option.some_inj.1 h, Side.of_foldl_merge]
    exact side.isExtreme_foldl_outer _ _

/-- On each side some shape is as far out as the box around the frame. -/
theorem exists_side_eq (h : frame.bounds? = some area) (side : Side) :
    ∃ shape ∈ frame, side.of area = side.of shape.bounds := by
  obtain ⟨shape, hshape, heq⟩ := List.mem_map.1 (isExtreme_of_bounds h side).mem
  exact ⟨shape, hshape, heq.symm⟩

/-- On each side the box around the frame is as far out as a shape, unless the shape is at an
undefined coordinate. -/
theorem isNaN_or_le (h : frame.bounds? = some area) (side : Side) {shape : Shape Float}
    (hshape : shape ∈ frame) :
    (side.of shape.bounds).isNaN = true ∨ side.Le (side.of shape.bounds) (side.of area) :=
  (isExtreme_of_bounds h side).bound _ (List.mem_map_of_mem hshape)

/-- A point of a shape's box is a point of the box around the frame, whatever other shapes there
are. -/
theorem contains_of_mem (h : frame.bounds? = some area) {shape : Shape Float}
    (hshape : shape ∈ frame) {p : Point Float} (hp : shape.bounds.contains p = true) :
    area.contains p = true := by
  refine Bounds.Encloses.contains (fun side => ?_) hp
  obtain ⟨⟨hleft, hright⟩, htop, hbottom⟩ := Bounds.contains_iff.1 hp
  refine (isNaN_or_le h side hshape).resolve_left ?_
  rw [Bool.not_eq_true]
  cases side with
  | left => exact hleft.isNaN.2
  | top => exact htop.isNaN.2
  | right => exact hright.isNaN.2
  | bottom => exact hbottom.isNaN.2

/-- What encloses the boxes of all shapes encloses the box around the frame. -/
theorem encloses_of_forall (h : frame.bounds? = some area) {outer : Bounds Float}
    (houter : ∀ shape ∈ frame, outer.Encloses shape.bounds) : outer.Encloses area := by
  intro side
  obtain ⟨shape, hshape, heq⟩ := exists_side_eq h side
  rw [heq]
  exact houter shape hshape side

/-- The boxes around two orders of the same shapes are alike. -/
theorem alike_of_perm (hperm : frame.Perm frame') (h : frame.bounds? = some area)
    (h' : frame'.bounds? = some area') : area.Alike area' := by
  intro side
  obtain ⟨shape, hshape, heq⟩ := exists_side_eq h side
  obtain ⟨shape', hshape', heq'⟩ := exists_side_eq h' side
  rcases isNaN_or_le h' side (hperm.mem_iff.1 hshape) with hnan | hle
  · -- If the outermost coordinate of one order is undefined, so are those of all shapes.
    rcases isNaN_or_le h side (hperm.mem_iff.2 hshape') with hnan' | hle'
    · exact .inl (eq_of_isNaN (heq ▸ hnan) (heq' ▸ hnan'))
    · rw [← heq, hle'.isNaN.2] at hnan
      cases hnan
  · rcases isNaN_or_le h side (hperm.mem_iff.2 hshape') with hnan' | hle'
    · rw [← heq', hle.isNaN.2] at hnan'
      cases hnan'
    · exact Side.alike_of_le (heq ▸ hle) (heq' ▸ hle')

/-- There is a box around a frame unless the frame is empty. It contains what the boxes of the
shapes contain, which is nothing if they have an undefined coordinate, and it is the smallest one:
each of its sides is that of some shape, whatever encloses all shapes encloses it, and whatever
contains the points of all shapes contains its points if the corners of the shapes belong to them.
In another order, the same shapes have the same box, up to the signs of zeros. -/
theorem bounds?_least (frame : Frame Float) :
    (frame.bounds? = none ↔ frame = []) ∧
    (∀ b : Bounds Float, (∃ c ∈ b.coordinates, c.isNaN = true) → ∀ p, b.contains p = false) ∧
    ∀ area, frame.bounds? = some area →
      (∀ shape ∈ frame, ∀ p, shape.bounds.contains p = true → area.contains p = true) ∧
      (∀ side : Side, ∃ shape ∈ frame, side.of area = side.of shape.bounds) ∧
      (∀ outer : Bounds Float, (∀ shape ∈ frame, outer.Encloses shape.bounds) →
        outer.Encloses area) ∧
      ((∀ shape ∈ frame, shape.bounds.Upright) → ∀ outer : Bounds Float,
        (∀ shape ∈ frame, ∀ p, shape.bounds.contains p = true → outer.contains p = true) →
          ∀ p, area.contains p = true → outer.contains p = true) ∧
      ∀ frame' : Frame Float, frame.Perm frame' →
        ∃ area', frame'.bounds? = some area' ∧ area.Alike area' := by
  refine ⟨bounds?_eq_none_iff, fun _ => Bounds.contains_eq_false_of_isNaN, fun area h =>
    ⟨fun shape hshape p => contains_of_mem h hshape, exists_side_eq h,
      fun outer => encloses_of_forall h, ?_, ?_⟩⟩
  · intro hupright outer hpoints p
    have houter : outer.Encloses area := encloses_of_forall h fun shape hshape =>
      (hupright shape hshape).encloses (hpoints shape hshape)
    exact houter.contains
  · intro frame' hperm
    cases h' : frame'.bounds? with
    | none =>
      rw [bounds?_eq_none_iff.1 h', List.perm_nil] at hperm
      rw [hperm] at h
      cases h
    | some area' => exact ⟨area', rfl, alike_of_perm hperm h h'⟩

/-- Two boxes in either order, and an undefined one that hides neither of them. -/
theorem bounds?_least_boxes :
    let box (left right : Float) : Shape Float := .box ⟨⟨"a"⟩, ⟨left, 0, right, 1⟩, .blue, none⟩
    let frame : Frame Float := [box 4 5, box 2 3]
    (∃ area, bounds? (box (0 / 0) 9 :: frame) = some area ∧ area.contains ⟨3, 1⟩ = true) ∧
      (box (0 / 0) 9).bounds.contains ⟨3, 1⟩ = false ∧
      ∃ area, frame.bounds? = some area ∧ (⟨2, 0, 5, 1⟩ : Bounds Float).Encloses area ∧
        (∀ p, area.contains p = true → (⟨2, 0, 5, 1⟩ : Bounds Float).contains p = true) ∧
        ∃ area', bounds? [box 2 3, box 4 5] = some area' ∧ area.Alike area' := by
  intro box frame
  have houter : ∀ shape ∈ frame, (⟨2, 0, 5, 1⟩ : Bounds Float).Encloses shape.bounds := by
    intro shape hshape side
    rcases List.mem_pair.1 hshape with rfl | rfl <;> cases side <;> change _ ≤ _ <;> decide +kernel
  have hupright : ∀ shape ∈ frame, shape.bounds.Upright := by
    intro shape hshape
    rcases List.mem_pair.1 hshape with rfl | rfl <;> exact ⟨by decide +kernel, by decide +kernel⟩
  obtain ⟨-, hundefined, hleast⟩ := bounds?_least frame
  obtain ⟨-, -, hsmallest, hpoints, hperm⟩ := hleast _ rfl
  refine ⟨⟨_, rfl, ?_⟩, ?_, _, rfl, hsmallest _ houter, hpoints hupright _ ?_, hperm _ (.swap ..)⟩
  · exact ((bounds?_least (box (0 / 0) 9 :: frame)).2.2 _ rfl).1 (box 2 3) (by simp [frame]) _
      (by decide +kernel)
  · exact hundefined _ ⟨0 / 0, by simp [box, Shape.bounds, Bounds.coordinates], by decide +kernel⟩ _
  · exact fun shape hshape p => (houter shape hshape).contains

end Frame

end NeighborGraph
