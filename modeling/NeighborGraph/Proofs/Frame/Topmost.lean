import NeighborGraph.Proofs.Draw.Layering
import NeighborGraph.Proofs.Frame.Mirrored
import NeighborGraph.Proofs.Session.Holding

/-!
# The box under the pointer

The node layer of a drawing lists the boxes of the frame in their order, so that of all boxes over a
point the last one covers the others (`Frame.Topmost`). A hit test searches the nodes of the graph
and not the frame; it finds the node of this box (`Style.topmost?_eq_some_iff`). A press lets go of
a held node before it looks for the one under the pointer, which moves no box, so that it answers
what the hit test answers (`Scene.Consistent.press_eq_hit?`).
-/

namespace NeighborGraph

variable {α : Type} [Scalar α]

/-! ## Hit tests -/

/-- The box contains the point, and no box that is drawn later does. -/
def Frame.Topmost (frame : Frame α) (point : Point α) (box : NodeBox α) : Prop :=
  ∃ below above, frame.boxes = below ++ box :: above ∧ box.area.contains point = true ∧
    ∀ other ∈ above, other.area.contains point = false

namespace Style

variable {style : Style α} {g g' : Graph α} {point : Point α}

/-- To search the nodes backwards is to search their boxes backwards. -/
theorem topmost?_eq_find?_boxes (style : Style α) (g : Graph α) (point : Point α) :
    style.topmost? g point =
      ((style.draw g).boxes.reverse.find? fun box => box.area.contains point).map (·.node) := by
  rw [boxes_draw, ← List.map_reverse, List.find?_map, Option.map_map]
  rfl

/-- What is hit is the node of the topmost box over the point. -/
theorem topmost?_eq_some_iff {id : NodeId} :
    style.topmost? g point = some id ↔
      ∃ box, (style.draw g).Topmost point box ∧ box.node = id := by
  rw [topmost?_eq_find?_boxes, Option.map_eq_some_iff]
  refine exists_congr fun box => and_congr_left fun _ => ?_
  rw [List.find?_eq_some_iff_append]
  constructor
  · rintro ⟨hcontains, above, below, hboxes, habove⟩
    refine ⟨below.reverse, above.reverse, ?_, hcontains, fun other hother => ?_⟩
    · simpa using List.reverse_eq_append_iff.1 hboxes
    · simpa using habove other (List.mem_reverse.1 hother)
  · rintro ⟨below, above, hboxes, hcontains, habove⟩
    refine ⟨hcontains, above.reverse, below.reverse, ?_, fun other hother => ?_⟩
    · simp [hboxes]
    · simpa using habove other (List.mem_reverse.1 hother)

/-- Nothing is hit where no box is. -/
theorem topmost?_eq_none_iff :
    style.topmost? g point = none ↔
      ∀ box ∈ (style.draw g).boxes, box.area.contains point = false := by
  simp [topmost?_eq_find?_boxes]

/-- A change of the nodes that leaves them where they are leaves their boxes as they are. -/
theorem boxes_draw_of_nodewise {R : Node α → Node α → Prop} (h : g.Nodewise R g')
    (hR : ∀ node node', R node node' → node'.id = node.id ∧ node'.position = node.position)
    (style : Style α) : (style.draw g').boxes = (style.draw g).boxes := by
  rw [boxes_draw, boxes_draw]
  refine List.ext_getElem? fun i => ?_
  have hi := h.nodes i
  rw [List.getElem?_map, List.getElem?_map, Array.getElem?_toList, Array.getElem?_toList]
  generalize g.nodes[i]? = a, g'.nodes[i]? = b at hi
  cases hi with
  | none => rfl
  | some hnode =>
    obtain ⟨hid, hposition⟩ := hR _ _ hnode
    simp only [Option.map_some, drawBox, hid, hposition]

end Style

/-! ## Presses -/

/-- A press answers the node that the pointer is on, whatever it held before. -/
theorem Scene.Consistent.press_eq_hit? {scene : Scene α} (h : scene.Consistent) (point : Point α) :
    (scene.press point).2 = .ok (scene.hit? point) := by
  obtain ⟨simulation, hrelease, hw⟩ := h.release
  obtain ⟨free, hfree, hpress⟩ := h.press_cases point
  obtain ⟨rfl, -⟩ := Prod.mk.inj (hfree.symm.trans hrelease)
  have hhit : hit? { scene with simulation, grab? := none } point = scene.hit? point := by
    rw [hit?, hit?, Style.topmost?_eq_find?_boxes, Style.topmost?_eq_find?_boxes,
      Style.boxes_draw_of_nodewise hw fun _ _ hnode => hnode ▸ ⟨rfl, rfl⟩]
  obtain ⟨hid, he⟩ | ⟨id, _, hid, -, he⟩ := hpress <;> rw [he, ← hhit, hid]

/-! ## Drawings -/

/-- The drawing of a frame has the boxes on the node layer, each once and in order. -/
theorem Frame.groups_layered (frame : Frame Float) :
    frame.layered.groups =
      Layer.link.groups (frame.lines.map Line.markup) ++
        Layer.node.groups (frame.boxes.map NodeBox.markup) ++
        Layer.label.groups (frame.labels.map Label.markup) := by
  rw [Layered.groups_eq]
  simp [Layer.all, onLayer_layered, content]

namespace Session

/-- In every style, the node layer of a drawing lists the boxes of the frame, and a hit test at any
point finds the node of the last of them that contains the point, and none if none does. In every
state of a session on a graph that has been built, whatever it holds, a press answers what the hit
test finds for the current positions, and holds it then: what is clicked is what is drawn on top. -/
theorem press_topmost {config : Config Float} {spareSeed : UInt64} {graph : Graph Float}
    {s₀ : Session Float} (hg : graph.Built) (h : start config spareSeed graph = .ok s₀)
    (ops : List (Operation Float)) :
    (∀ (style : Style Float) (g : Graph Float),
      let frame := style.draw g
      frame.layered.groups =
        Layer.link.groups (frame.lines.map Line.markup) ++
          Layer.node.groups (frame.boxes.map NodeBox.markup) ++
          Layer.label.groups (frame.labels.map Label.markup) ∧
      ∀ point,
        (∀ id, style.topmost? g point = some id ↔
          ∃ box, frame.Topmost point box ∧ box.node = id) ∧
        (style.topmost? g point = none ↔
          ∀ box ∈ frame.boxes, box.area.contains point = false)) ∧
    let s := s₀.after ops
    ∀ point,
      (s.press point).2 = .ok (s.scene.style.topmost? s.scene.simulation.graph point) ∧
      (∀ id, (s.press point).2 = .ok (some id) ↔
        ∃ box, s.frame.Topmost point box ∧ box.node = id) ∧
      ((s.press point).2 = .ok none ↔
        ∀ box ∈ s.frame.boxes, box.area.contains point = false) ∧
      (s.press point).2 = .ok (s.press point).1.scene.held? := by
  refine ⟨fun style g => ⟨Frame.groups_layered _, fun point =>
    ⟨fun id => Style.topmost?_eq_some_iff, Style.topmost?_eq_none_iff⟩⟩, ?_⟩
  intro s point
  have hs : s.scene.Consistent := invariant_consistent.after (consistent_of_start hg h).1 ops
  have hpress : (s.press point).2 = .ok (s.scene.hit? point) := hs.press_eq_hit? point
  refine ⟨hpress, fun id => ?_, ?_, held?_press hs point⟩
  · rw [hpress, Except.ok.injEq]
    exact Style.topmost?_eq_some_iff
  · rw [hpress, Except.ok.injEq]
    exact Style.topmost?_eq_none_iff

/-- Two nodes whose boxes both contain the point: the press answers the second one, whose box is the
topmost, also while it is held. -/
theorem press_topmost_overlapping :
    let config : Config Float :=
      { Config.default with style := ⟨{ Style.default with nodeSize := ⟨4000, 4000⟩ }, none⟩ }
    let graph : Graph Float := Graph.build [.node ⟨"a"⟩ "A", .node ⟨"b"⟩ "B"]
    let point : Point Float := ⟨480, 250⟩
    ∃ s₀, start config 0 graph = .ok s₀ ∧
      let s := s₀.after [.press point]
      s.scene.held? = some ⟨"b"⟩ ∧ (s.press point).2 = .ok (some ⟨"b"⟩) ∧
      (∃ box, s.frame.Topmost point box ∧ box.node = ⟨"b"⟩) ∧
      s.frame.boxes.map (fun box => (box.node, box.area.contains point)) =
        [(⟨"a"⟩, true), (⟨"b"⟩, true)] := by
  intro config graph point
  have hg : graph.Built := ⟨_, rfl⟩
  have hseen : ((start config 0 graph).map fun s₀ =>
      let s := s₀.after [.press point]
      (s.scene.held?, (s.press point).2,
        s.frame.boxes.map fun box => (box.node, box.area.contains point))).toOption =
      some (some ⟨"b"⟩, .ok (some ⟨"b"⟩), [(⟨"a"⟩, true), (⟨"b"⟩, true)]) := by
    decide +kernel
  cases h : start config 0 graph with
  | error fault =>
    rw [h] at hseen
    cases hseen
  | ok s₀ =>
    rw [h] at hseen
    obtain ⟨hheld, hseen⟩ := Prod.mk.inj (Option.some.inj hseen)
    obtain ⟨hanswer, hboxes⟩ := Prod.mk.inj hseen
    obtain ⟨-, hsession⟩ := press_topmost hg h [.press point]
    obtain ⟨-, htopmost, -, -⟩ := hsession point
    exact ⟨s₀, rfl, hheld, hanswer, (htopmost ⟨"b"⟩).1 hanswer, hboxes⟩

end Session

end NeighborGraph
