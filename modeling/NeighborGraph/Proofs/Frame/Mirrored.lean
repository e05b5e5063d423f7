import NeighborGraph.Proofs.Frame.Refusal
import NeighborGraph.Proofs.Session.Shape

/-!
# Frames and the graphs that they show

A link is drawn between the nodes that its identifiers name, and the forces act on the nodes at its
positions. In a well-formed graph these are the same nodes, so that no link is left out and the
shapes of a frame stand for the links and nodes of the graph one by one
(`Graph.WellFormed.mirrors_draw`). A graph that has been built stays well formed as long as it is on
show, and so this holds for all frames of a session, in any style (`Session.frame_mirrors_graph`).
-/

namespace NeighborGraph

/-! ## Widths -/

namespace Double

variable {a b : Float}

/-- The magnitude of a number that is zero if it is finite. -/
theorem toMagnitude_eq_zero (h : a.isFinite = true → value a = 0) : Scalar.toMagnitude a = 0 := by
  unfold Scalar.toMagnitude
  split
  next hfinite =>
    refine if_neg (not_or.2 ⟨?_, not_not.2 (by decide)⟩)
    rw [lt_iff (by rfl) hfinite, value_zero, h hfinite]
    exact lt_irrefl 0
  next => rfl

/-- Whatever the number was, what is made of it is a magnitude. -/
theorem isMagnitude_toMagnitude (a : Float) :
    Scalar.isMagnitude (Scalar.toMagnitude a) = true := by
  unfold Scalar.toMagnitude
  split
  next hfinite =>
    obtain ⟨hf, hv⟩ := value_greater hfinite (show (0 : Float).isFinite = true from rfl)
    rw [Scalar.isMagnitude, Bool.and_eq_true, decide_eq_true_iff]
    refine ⟨hf, (le_iff (by rfl) hf).2 ?_⟩
    rw [hv]
    exact value_zero ▸ le_max_right _ _
  next => decide

/-- What is multiplied by zero has the magnitude zero, even if it is infinite or undefined. -/
theorem toMagnitude_mul_eq_zero (hb : b.isFinite = true) (h : value b = 0) :
    Scalar.toMagnitude (a * b) = 0 := by
  refine toMagnitude_eq_zero fun hfinite => ?_
  have hexact := (rounded_mul (isFinite_of_mul hfinite).1 hb).value_eq (x := value a * value b)
  rw [h, mul_zero] at hexact
  exact (hexact onGrid_zero (by simp)).2

/-- The root of a zero is a zero. -/
theorem value_sqrt_eq_zero (ha : a.isFinite = true) (h : value a = 0) :
    a.sqrt.isFinite = true ∧ value a.sqrt = 0 := by
  have hexact := rounded_sqrt ha h.ge
  rw [h, Real.sqrt_zero] at hexact
  exact hexact.value_eq onGrid_zero (by simp)

end Double

/-- The width of a line is the scaled root of the weight. To take a weight that is not negative for
at least zero changes its sign at most, if it is zero, and this does not show in the width. -/
theorem StrokeScale.toMagnitude_widthFor (scale : StrokeScale Float) {weight : Float}
    (hw : Scalar.isMagnitude weight = true) :
    Scalar.toMagnitude (scale.widthFor weight) =
      Scalar.toMagnitude (scale.scale (Scalar.sqrt weight)) := by
  rw [Scalar.isMagnitude, Bool.and_eq_true, decide_eq_true_iff] at hw
  obtain ⟨hfinite, hle⟩ := hw
  rw [widthFor, Scalar.greater]
  split
  next => rfl
  next hnot =>
    have hzero : Double.value weight = 0 := by
      have h := (Double.le_iff (by rfl) hfinite).1 hle
      have h' := (Double.lt_iff (by rfl) hfinite).not.1 (not_or.1 hnot).1
      rw [Double.value_zero] at h h'
      exact le_antisymm (not_lt.1 h') h
    have hroot := Double.value_sqrt_eq_zero hfinite hzero
    have hroot' := Double.value_sqrt_eq_zero (a := 0) (by rfl) Double.value_zero
    exact (Double.toMagnitude_mul_eq_zero hroot'.1 hroot'.2).trans
      (Double.toMagnitude_mul_eq_zero hroot.1 hroot.2).symm

/-! ## Ends of links -/

/-- The identifier and the position of an end of a link lead to the same node. -/
theorem Graph.exists_end {α : Type} {g : Graph α} (hnd : g.ids.Nodup) {i : Nat} {id : NodeId}
    (h : g.ids[i]? = some id) : ∃ node, g.nodes[i]? = some node ∧ g.find? id = some node := by
  rw [getElem?_ids] at h
  obtain ⟨node, hnode, rfl⟩ := Option.map_eq_some_iff.1 h
  exact ⟨node, hnode, (find?_eq_some_iff hnd).2 ⟨Array.mem_of_getElem? hnode, rfl⟩⟩

/-! ## Shapes -/

namespace Style

/-- The line runs between the nodes at both ends of the link, for which it does not matter whether
they are looked up by identifier or by position, and its width is the scaled root of the weight. -/
structure ShowsLink (style : Style Float) (g : Graph Float) (l : Link Float) (line : Line Float) :
    Prop where
  start : ∃ source, g.nodes[l.sourceIndex]? = some source ∧ g.find? l.source = some source ∧
    line.start = source.position
  stop : ∃ target, g.nodes[l.targetIndex]? = some target ∧ g.find? l.target = some target ∧
    line.stop = target.position
  color : line.stroke.color = style.linkColor
  width : line.stroke.width =
    Scalar.toMagnitude (style.strokeScale.scale (Scalar.sqrt l.weight))
  isMagnitude_width : Scalar.isMagnitude line.stroke.width = true

namespace ShowsLink

variable {style : Style Float} {g : Graph Float} {l : Link Float} {line : Line Float}

/-- The line starts at the node that the link has as its source by position. -/
theorem position_start (h : style.ShowsLink g l line) :
    (g.nodes[l.sourceIndex]?).map (·.position) = some line.start := by
  obtain ⟨source, hsource, -, hstart⟩ := h.start
  rw [hsource, hstart, Option.map_some]

/-- The line stops at the node that the link has as its target by position. -/
theorem position_stop (h : style.ShowsLink g l line) :
    (g.nodes[l.targetIndex]?).map (·.position) = some line.stop := by
  obtain ⟨target, htarget, -, hstop⟩ := h.stop
  rw [htarget, hstop, Option.map_some]

end ShowsLink

/-- The box is that of the node, placed at its position. -/
structure ShowsBox (style : Style Float) (node : Node Float) (box : NodeBox Float) : Prop where
  id : box.node = node.id
  area : box.area = style.anchor.place node.position style.nodeSize

/-- The label has the caption of the node and the area of its box. -/
structure ShowsLabel (style : Style Float) (node : Node Float) (label : Label Float) : Prop where
  text : label.text = node.label
  area : label.area = style.anchor.place node.position style.nodeSize

/-- Every link of a graph with sound links is drawn, between the nodes at its ends. -/
theorem exists_drawLink {g : Graph Float} (hg : g.WellFormed) (style : Style Float)
    {l : Link Float} (hl : l ∈ g.links) :
    ∃ line, style.drawLink g l = some line ∧ style.ShowsLink g l line := by
  obtain ⟨source, hsource, hfindSource⟩ := Graph.exists_end hg.nodup_ids (hg.source_at l hl)
  obtain ⟨target, htarget, hfindTarget⟩ := Graph.exists_end hg.nodup_ids (hg.target_at l hl)
  refine ⟨_, by rw [drawLink, hfindSource, hfindTarget]; rfl, ?_⟩
  exact {
    start := ⟨source, hsource, hfindSource, rfl⟩
    stop := ⟨target, htarget, hfindTarget, rfl⟩
    color := rfl
    width := style.strokeScale.toMagnitude_widthFor (hg.isMagnitude_weight l hl)
    isMagnitude_width := Double.isMagnitude_toMagnitude _ }

/-- No link of a well-formed graph is left out. -/
theorem forall₂_drawLink {g : Graph Float} (hg : g.WellFormed) (style : Style Float)
    {links : List (Link Float)} (h : ∀ l ∈ links, l ∈ g.links) :
    List.Forall₂ (style.ShowsLink g) links (links.filterMap (style.drawLink g)) := by
  induction links with
  | nil => exact .nil
  | cons l links ih =>
    obtain ⟨hl, hlinks⟩ := List.forall_mem_cons.1 h
    obtain ⟨line, hline, hshows⟩ := exists_drawLink hg style hl
    rw [List.filterMap_cons_some hline]
    exact .cons hshows (ih hlinks)

end Style

/-! ## Frames -/

namespace Frame

/-- The frame has the lines of the links, then the boxes of the nodes, then their labels, each in
the order of the graph. -/
structure Mirrors (frame : Frame Float) (style : Style Float) (g : Graph Float) : Prop where
  order : frame = frame.lines.map .line ++ frame.boxes.map .box ++ frame.labels.map .label
  lines : List.Forall₂ (style.ShowsLink g) g.links.toList frame.lines
  boxes : List.Forall₂ style.ShowsBox g.nodes.toList frame.boxes
  labels : List.Forall₂ style.ShowsLabel g.nodes.toList frame.labels

end Frame

namespace Style

variable {α : Type} [Scalar α] (style : Style α) (g : Graph α)

@[simp] theorem lines_draw :
    (style.draw g).lines = g.links.toList.filterMap (style.drawLink g) := by
  simp [draw, Frame.lines, List.filterMap_map, Function.comp_def]

@[simp] theorem boxes_draw : (style.draw g).boxes = g.nodes.toList.map style.drawBox := by
  simp [draw, Frame.boxes, List.filterMap_map, Function.comp_def]

@[simp] theorem labels_draw : (style.draw g).labels = g.nodes.toList.map style.drawLabel := by
  simp [draw, Frame.labels, List.filterMap_map, Function.comp_def]

end Style

/-- The frame of a well-formed graph mirrors it. -/
theorem Graph.WellFormed.mirrors_draw {g : Graph Float} (hg : g.WellFormed)
    (style : Style Float) : (style.draw g).Mirrors style g where
  order := by
    rw [style.lines_draw, style.boxes_draw, style.labels_draw]
    rfl
  lines := by
    rw [style.lines_draw]
    exact style.forall₂_drawLink hg fun l hl => Array.mem_toList_iff.1 hl
  boxes := by
    rw [style.boxes_draw, List.forall₂_map_right_iff]
    exact List.forall₂_same.2 fun node _ => ⟨rfl, rfl⟩
  labels := by
    rw [style.labels_draw, List.forall₂_map_right_iff]
    exact List.forall₂_same.2 fun node _ => ⟨rfl, rfl⟩

/-! ## Sessions -/

section Looks

variable {α : Type}

/-- Releasing the pointer does not change the style. -/
theorem Scene.style_release (scene : Scene α) : scene.release.1.style = scene.style := by
  unfold release
  split
  · rfl
  · dsimp only
    split <;> rfl

variable [Scalar α]

/-- Pressing the pointer does not change the style. -/
theorem Scene.style_press (scene : Scene α) (point : Point α) :
    (scene.press point).1.style = scene.style := by
  have hrelease := scene.style_release
  unfold press
  split
  next he => rwa [he] at hrelease
  next free _ he =>
    rw [he] at hrelease
    split
    · exact hrelease
    · split
      next ht =>
        obtain ⟨_, _, -, -, rfl⟩ := take_eq_ok.1 ht
        exact hrelease
      · exact hrelease

/-- Moving the pointer does not change the style. -/
theorem Scene.style_moveTo (scene : Scene α) (point : Point α) :
    (scene.moveTo point).1.style = scene.style := by
  unfold moveTo
  split
  · rfl
  · split <;> rfl

/-- No operation changes how a session is drawn. -/
theorem Session.invariant_style (style : Style α) :
    Invariant fun s : Session α => s.scene.style = style where
  advance _ h := h
  close h := h
  press point h := (Scene.style_press _ point).trans h
  moveTo point h := (Scene.style_moveTo _ point).trans h
  release h := (Scene.style_release _).trans h

/-- A session begins with the style of its configuration. -/
theorem Session.style_of_start {config : Config α} {spareSeed : UInt64} {graph : Graph α}
    {s : Session α} (h : start config spareSeed graph = .ok s) :
    s.scene.style = config.style.style := by
  obtain ⟨-, simulation, -, rfl⟩ := start_eq_ok h
  rfl

end Looks

namespace Session

/-- Whatever is done to a session on a graph that has been built, its graph has the links, the
identifiers and the captions that it was started with, and its frame is drawn as configured. In
every style the frame mirrors the graph: it has a line for each link, a box for each node and a
label for each node. -/
theorem frame_mirrors_graph {config : Config Float} {spareSeed : UInt64} {graph : Graph Float}
    {s₀ : Session Float} (hg : graph.Built) (h : start config spareSeed graph = .ok s₀)
    (ops : List (Operation Float)) :
    let s := s₀.after ops
    let g := s.scene.simulation.graph
    g.shape = graph.shape ∧ s.frame = config.style.style.draw g ∧
    ∀ style : Style Float, (style.draw g).Mirrors style g ∧
      (style.draw g).lines.length = graph.linkCount ∧
      (style.draw g).boxes.length = graph.nodeCount ∧
      (style.draw g).labels.length = graph.nodeCount := by
  intro s g
  have hshape : g.shape = graph.shape := (invariant_shape _).after (shape_of_start h) ops
  have hstyle : s.scene.style = config.style.style :=
    (invariant_style _).after (style_of_start h) ops
  refine ⟨hshape, ?_, fun style => ?_⟩
  · rw [← hstyle]
    rfl
  have hmirrors := (hg.wellFormed.of_shape_eq hshape).mirrors_draw style
  have hlinks : g.links.toList.length = graph.linkCount := congrArg (·.2.size) hshape
  have hnodes : g.nodes.toList.length = graph.nodeCount := by
    rw [← Graph.length_ids, ← Graph.ids_eq_of_shape_eq hshape, Graph.length_ids]
    rfl
  refine ⟨hmirrors, ?_, ?_, ?_⟩
  · rw [← hmirrors.lines.length_eq, hlinks]
  · rw [← hmirrors.boxes.length_eq, hnodes]
  · rw [← hmirrors.labels.length_eq, hnodes]

/-- Two links between the same nodes and a loop, in any state of a session: the first two lines have
the same ends, and the third one ends where it begins. -/
theorem frame_mirrors_graph_parallel :
    let graph : Graph Float := Graph.build [.node ⟨"a"⟩ "A", .node ⟨"b"⟩ "B",
      .link ⟨"a"⟩ ⟨"b"⟩ 1, .link ⟨"a"⟩ ⟨"b"⟩ 4, .link ⟨"b"⟩ ⟨"b"⟩ 0]
    ∃ s₀, start .default 0 graph = .ok s₀ ∧ ∀ ops, ∃ first second third,
      (s₀.after ops).frame.lines = [first, second, third] ∧
      first.start = second.start ∧ first.stop = second.stop ∧ third.start = third.stop ∧
      (s₀.after ops).frame.boxes.length = 2 ∧ (s₀.after ops).frame.labels.length = 2 := by
  intro graph
  have hg : graph.Built := ⟨_, rfl⟩
  have hlinks : graph.links.toList = [⟨⟨"a"⟩, ⟨"b"⟩, 1, 0, 1⟩, ⟨⟨"a"⟩, ⟨"b"⟩, 4, 0, 1⟩,
      ⟨⟨"b"⟩, ⟨"b"⟩, 0, 1, 1⟩] := by decide +kernel
  have hnodes : graph.nodeCount = 2 := by decide +kernel
  obtain ⟨-, s₀, hstart⟩ | ⟨setting, hc, -⟩ := start_of_check hg.wellFormed.check .default 0
  · refine ⟨s₀, hstart, fun ops => ?_⟩
    obtain ⟨hshape, hframe, hstyles⟩ := frame_mirrors_graph hg hstart ops
    obtain ⟨hmirrors, -, hboxes, hlabels⟩ := hstyles (Config.default : Config Float).style.style
    have hlines := hmirrors.lines
    rw [← hframe] at hlines hboxes hlabels
    rw [hnodes] at hboxes hlabels
    rw [show (s₀.after ops).scene.simulation.graph.links.toList = _ from
      (congrArg (·.2.toList) hshape).trans hlinks] at hlines
    generalize (s₀.after ops).frame.lines = lines at hlines ⊢
    obtain _ | ⟨hfirst, _ | ⟨hsecond, _ | ⟨hthird, ⟨⟩⟩⟩⟩ := hlines
    refine ⟨_, _, _, rfl, ?_, ?_, ?_, hboxes, hlabels⟩
    · exact Option.some.inj (hfirst.position_start.symm.trans hsecond.position_start)
    · exact Option.some.inj (hfirst.position_stop.symm.trans hsecond.position_stop)
    · exact Option.some.inj (hthird.position_start.symm.trans hthird.position_stop)
  · cases hc

end Session

end NeighborGraph
