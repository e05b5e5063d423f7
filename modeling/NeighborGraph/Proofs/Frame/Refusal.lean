import NeighborGraph.Command.Run
import NeighborGraph.Proofs.Geometry.Sides
import NeighborGraph.Proofs.Session.Finite

/-!
# Frames that are refused

A frame is written if the smallest box around its shapes is finite. Each side of this box is a
running extreme of the coordinates that the shapes have on this side, and so an undefined coordinate
goes unnoticed if another shape has a finite one there (`Frame.isFinite_iff_not_unbounded`,
`Session.accepted_of_undefined`). A shape whose box is neither undefined nor inside out cannot be
hidden like this. No file changes by a refused frame, whichever way it was to be written
(`Frame.refused_iff_unbounded`).
-/

namespace NeighborGraph

open Float.Model Float.Model.UnpackedFloat

namespace Double

/-! ## Finite results -/

variable {a b : Float}

/-- What is packed to a finite double is finite. -/
theorem isFinite_of_pack {u : UnpackedFloat}
    (h : (Float.ofModel (Float.Model.pack u)).isFinite = true) : u.isFinite = true := by
  change (UnpackedFloat.unpack .binary64 (UnpackedFloat.pack .binary64 u)).isFinite = true at h
  cases u with
  | infinity sign =>
    rw [UnpackedFloat.pack, unpack_packedInfinity] at h
    cases h
  | notANumber => cases h
  | zero sign => rfl
  | finite sign m e hpos => rfl

/-- A finite sum has finite terms. -/
theorem isFinite_of_add (h : (a + b).isFinite = true) : a.isFinite = true ∧ b.isFinite = true := by
  have hadd := isFinite_of_pack h
  change a.toModel.unpack.isFinite = true ∧ b.toModel.unpack.isFinite = true
  generalize a.toModel.unpack = u at hadd ⊢
  generalize b.toModel.unpack = v at hadd ⊢
  cases u with
  | infinity sign =>
    cases v with
    | infinity sign' => cases sign <;> cases sign' <;> cases hadd
    | _ => cases hadd
  | notANumber => cases v <;> cases hadd
  | zero sign => cases v <;> first | exact ⟨rfl, rfl⟩ | cases hadd
  | finite sign m e hpos => cases v <;> first | exact ⟨rfl, rfl⟩ | cases hadd

/-- A finite difference has finite terms. -/
theorem isFinite_of_sub (h : (a - b).isFinite = true) : a.isFinite = true ∧ b.isFinite = true := by
  have hsub := isFinite_of_pack h
  change a.toModel.unpack.isFinite = true ∧ b.toModel.unpack.isFinite = true
  generalize a.toModel.unpack = u at hsub ⊢
  generalize b.toModel.unpack = v at hsub ⊢
  cases u with
  | infinity sign =>
    cases v with
    | infinity sign' => cases sign <;> cases sign' <;> cases hsub
    | _ => cases hsub
  | notANumber => cases v <;> cases hsub
  | zero sign => cases v <;> first | exact ⟨rfl, rfl⟩ | cases hsub
  | finite sign m e hpos => cases v <;> first | exact ⟨rfl, rfl⟩ | cases hsub

/-- A finite product has finite factors. -/
theorem isFinite_of_mul (h : (a * b).isFinite = true) : a.isFinite = true ∧ b.isFinite = true := by
  have hmul := isFinite_of_pack h
  change a.toModel.unpack.isFinite = true ∧ b.toModel.unpack.isFinite = true
  generalize a.toModel.unpack = u at hmul ⊢
  generalize b.toModel.unpack = v at hmul ⊢
  cases u with
  | infinity sign | notANumber => cases v <;> cases hmul
  | zero sign | finite sign m e hpos => cases v <;> first | exact ⟨rfl, rfl⟩ | cases hmul

/-- A number with a finite absolute value is finite. -/
theorem isFinite_of_abs (h : a.abs.isFinite = true) : a.isFinite = true := by
  have habs := isFinite_of_pack h
  change a.toModel.unpack.isFinite = true
  generalize a.toModel.unpack = u at habs ⊢
  cases u <;> first | rfl | cases habs

end Double

/-- The coordinates that a shape is drawn with. -/
def Shape.coordinates {α : Type} : Shape α → List α
  | .line l => [l.start.x, l.start.y, l.stop.x, l.stop.y]
  | .box b => b.area.coordinates
  | .label l => l.area.coordinates

/-- A shape whose box is finite is drawn with finite coordinates. -/
theorem Shape.isFinite_of_bounds {shape : Shape Float} (h : shape.bounds.isFinite = true) :
    ∀ c ∈ shape.coordinates, c.isFinite = true := by
  rw [Bounds.isFinite_iff] at h
  have hcorners {area : Bounds Float} (h : ∀ side : Side, (side.of area).isFinite = true) :
      ∀ c ∈ area.coordinates, c.isFinite = true := by
    simp only [Bounds.coordinates, List.forall_mem_cons]
    exact ⟨h .left, h .top, h .right, h .bottom, nofun⟩
  cases shape with
  | line l =>
    -- The right and lower sides are at the distance of the ends from the other two.
    have hwidth := Double.isFinite_of_abs (Double.isFinite_of_add (h .right)).2
    have hheight := Double.isFinite_of_abs (Double.isFinite_of_add (h .bottom)).2
    have hx := Double.isFinite_of_sub hwidth
    have hy := Double.isFinite_of_sub hheight
    simp only [coordinates, List.forall_mem_cons]
    exact ⟨hx.1, hy.1, hx.2, hy.2, nofun⟩
  | box b => exact hcorners h
  | label l => exact hcorners h

/-! ## Frames -/

namespace Frame

variable {frame : Frame Float}

/-- On some side a frame has no finite end: one of its shapes is infinitely far out there, or none
has a finite coordinate. -/
def Unbounded (frame : Frame Float) : Prop :=
  ∃ side : Side, (∃ shape ∈ frame, side.IsBeyond (side.of shape.bounds)) ∨
    frame ≠ [] ∧ ∀ shape ∈ frame, (side.of shape.bounds).isFinite = false

/-- A frame passes as finite exactly if it has a finite end on every side. -/
theorem isFinite_iff_not_unbounded : frame.isFinite = true ↔ ¬ frame.Unbounded := by
  unfold Unbounded
  cases frame with
  | nil =>
    refine iff_of_true rfl ?_
    rintro ⟨side, ⟨shape, hshape, -⟩ | ⟨hne, -⟩⟩
    · cases hshape
    · exact hne rfl
  | cons shape shapes =>
    change (shapes.foldl _ shape.bounds).isFinite = true ↔ _
    rw [Bounds.isFinite_iff, not_exists]
    refine forall_congr' fun side => ?_
    have hcoordinates : side.of shape.bounds :: shapes.map (fun other => side.of other.bounds) =
        (shape :: shapes).map fun other => side.of other.bounds := rfl
    rw [Side.of_foldl_merge, Side.isFinite_foldl_outer, hcoordinates, List.forall_mem_map]
    simp only [List.mem_map, exists_exists_and_eq_and, not_or, not_and,
      not_exists, not_forall, Bool.not_eq_false, ne_eq, reduceCtorEq, not_false_eq_true,
      forall_const, exists_prop]
    exact and_comm

/-- Why frames are refused. -/
def refusal : ExportFault := .render "frame contains non-finite coordinates"

/-- A frame without a finite end on some side is refused, wherever it was to be written, and every
file stays as it is. All other frames are written, unless the file itself is at fault. A frame is
among those that are refused if a shape has a coordinate that is not finite, and has a box that is
neither undefined nor inside out: no other shape can hide this one. -/
theorem refused_iff_unbounded (frame : Frame Float) :
    (frame.Unbounded →
      (∀ (canvas : Canvas) (path : FilePath) (files : FileTree),
        canvas.write frame path files = .error refusal) ∧
      (∀ (writer : FrameFiles) (tick : Nat) (state : FrameFiles.State),
        writer.takes tick = true →
          writer.surface.present tick frame state = (state, .error refusal)) ∧
      ∀ (r : RenderRequest) (w : Workplace) (config : Config Float) (graph : Graph Float)
        (files : FileTree), r.load w = .ok (config, graph) →
          r.simulate w config graph = (files, .ok frame) →
          r.run w = ⟨files, "", .error (.exporting refusal)⟩) ∧
    (¬ frame.Unbounded →
      ∀ (canvas : Canvas) (path : FilePath) (files : FileTree),
        canvas.write frame path files =
          (files.write path (canvas.text frame).toUTF8.toList).mapError .storage) ∧
    ∀ shape ∈ frame, shape.bounds.Upright →
      (∃ c ∈ shape.coordinates, c.isFinite = false) → frame.Unbounded := by
  refine ⟨fun h => ?_, fun h canvas path files => ?_, ?_⟩
  · have hwrite (canvas : Canvas) (path : FilePath) (files : FileTree) :
        canvas.write frame path files = .error refusal :=
      if_neg fun hfinite => isFinite_iff_not_unbounded.1 hfinite h
    refine ⟨hwrite, fun writer tick state htakes => ?_, ?_⟩
    · simp only [FrameFiles.surface, htakes, hwrite, if_true]
    · intro r w config graph files hload hsimulate
      simp only [RenderRequest.run, hload, hsimulate, hwrite]
  · exact if_pos (isFinite_iff_not_unbounded.2 h)
  · rintro shape hshape hupright ⟨c, hc, hbad⟩
    have hbounds : shape.bounds.isFinite = false := by
      by_contra h
      rw [Bool.not_eq_false] at h
      rw [Shape.isFinite_of_bounds h c hc] at hbad
      cases hbad
    obtain ⟨side, hside⟩ := hupright.exists_isBeyond hbounds
    exact ⟨side, .inl ⟨shape, hshape, hside⟩⟩

end Frame

/-- A graph of a single node, and a configuration that takes it very far in a single step. -/
def Workplace.farNode : Workplace where
  files := .ofEntries ["work"] [
    (["work", "in.json"], .file "\x7b\"nodes\":[\x7b\"name\":\"a\"\x7d]\x7d".toUTF8.toList),
    (["work", "far.toml"],
      .file "layout.gravity = 1.0\nsimulation.time_step = 1e308\n".toUTF8.toList)]
  userConfig? := none
  spareSeed := 0

/-- Draws this graph after one step. -/
def RenderRequest.farNode : RenderRequest :=
  ⟨"in.json", "out.svg", some 1, none, 1, some "far.toml", some 7⟩

/-- The drawing of a node that is infinitely far away is refused, and so is a box infinitely far
away beside one that is not. An undefined box beside one that is not undefined is written. -/
theorem Frame.refused_iff_unbounded_farNode :
    RenderRequest.farNode.run Workplace.farNode =
      ⟨Workplace.farNode.files, "", .error (.exporting refusal)⟩ ∧
    let box (x : Float) : Shape Float := .box ⟨⟨"a"⟩, ⟨x, 0, x, 1⟩, .blue, none⟩
    let writer : FrameFiles := ⟨.ofConfig .default, ⟨"."⟩, 1⟩
    writer.surface.present 0 [box 0, box Double.infinity] ⟨.ofEntries [] [], []⟩ =
        (⟨.ofEntries [] [], []⟩, .error refusal) ∧
      ∀ path files, writer.canvas.write [box (0 / 0), box 0] path files =
        (files.write path
          (writer.canvas.text [box (0 / 0), box 0]).toUTF8.toList).mapError .storage := by
  have hlast : ((RenderRequest.farNode.load Workplace.farNode).toOption.bind fun found =>
      (RenderRequest.farNode.simulate Workplace.farNode found.1 found.2).2.toOption.map
        isFinite) = some false := by decide +kernel
  obtain ⟨⟨config, graph⟩, hload, hlast⟩ := Option.bind_eq_some_iff.1 hlast
  obtain ⟨frame, hframe, hinfinite⟩ := Option.map_eq_some_iff.1 hlast
  have hunbounded : frame.Unbounded := by
    by_contra h
    rw [isFinite_iff_not_unbounded.2 h] at hinfinite
    cases hinfinite
  refine ⟨((refused_iff_unbounded frame).1 hunbounded).2.2 _ _ config graph _
    (Except.toOption_eq_some.1 hload) (Prod.ext rfl (Except.toOption_eq_some.1 hframe)), ?_⟩
  intro box writer
  constructor
  · have hupright : (box Double.infinity).bounds.Upright := ⟨by decide +kernel, by decide +kernel⟩
    have hunbounded := (refused_iff_unbounded [box 0, box Double.infinity]).2.2 _
      (List.mem_cons_of_mem _ List.mem_cons_self) hupright ⟨_, List.mem_cons_self, rfl⟩
    exact ((refused_iff_unbounded _).1 hunbounded).2.1 writer 0 _ rfl
  · exact (refused_iff_unbounded _).2.1 (isFinite_iff_not_unbounded.1 (by decide +kernel)) _

/-- A pointer takes one of two nodes to an undefined place: the frame is written, although shapes of
it have undefined coordinates. -/
theorem Session.accepted_of_undefined :
    let text := "\x7b\"nodes\": [\x7b\"name\": \"A\", \"id\": \"a\"\x7d, " ++
      "\x7b\"name\": \"B\", \"id\": \"b\"\x7d]\x7d"
    let graph : Graph Float :=
      ⟨#[⟨⟨"a"⟩, "A", .origin, .origin, false⟩, ⟨⟨"b"⟩, "B", .origin, .origin, false⟩], #[]⟩
    Graph.read text = .ok graph ∧ ∃ s₀, start .default 0 graph = .ok s₀ ∧ ∃ point : Point Float,
      let frame := ((s₀.press point).1.moveTo ⟨0 / 0, 0⟩).1.frame
      (∃ shape ∈ frame, ∃ c ∈ shape.coordinates, c.isFinite = false) ∧
        ∃ files,
          (Canvas.ofConfig .default).write frame ⟨"out.svg"⟩ (.ofEntries [] []) = .ok files := by
  intro text graph
  have hload : Graph.read text = .ok graph := Except.toOption_eq_some.1 (by decide +kernel)
  have hcheck : Config.check (Config.default : Config Float) = .ok () :=
    Except.toOption_eq_some.1 (by decide +kernel)
  have hframe : ((start .default 0 graph).toOption.bind fun s₀ =>
      s₀.scene.simulation.graph.nodes[0]?.map fun node =>
        let frame := ((s₀.press node.position).1.moveTo ⟨0 / 0, 0⟩).1.frame
        (frame.any fun shape => shape.coordinates.any fun c => !c.isFinite) &&
          ((Canvas.ofConfig .default).write frame ⟨"out.svg"⟩ (.ofEntries [] [])).toOption.isSome) =
      some true := by decide +kernel
  obtain ⟨s₀, hstart⟩ := exists_start hcheck hload 0
  rw [hstart] at hframe
  obtain ⟨node, -, hframe⟩ := Option.map_eq_some_iff.1 hframe
  obtain ⟨hbad, hwritten⟩ := Bool.and_eq_true_iff.1 hframe
  refine ⟨hload, s₀, hstart, node.position, ?_, ?_⟩
  · obtain ⟨shape, hshape, hbad⟩ := List.any_eq_true.1 hbad
    obtain ⟨c, hc, hbad⟩ := List.any_eq_true.1 hbad
    exact ⟨shape, hshape, c, hc, by simpa using hbad⟩
  · obtain ⟨files, hfiles⟩ := Option.isSome_iff_exists.1 hwritten
    exact ⟨files, Except.toOption_eq_some.1 hfiles⟩

end NeighborGraph
