import Mathlib.Data.List.Basic
import NeighborGraph.Canvas

/-!
# The layers of a drawing

Sorting by layers is stable, so that it keeps the pieces of each layer and their order
(`Layered.onLayer_sorted`), and one pass over sorted pieces makes one group of each layer that has
any (`Layered.groupsFrom_eq`, `Layered.groups_eq`). So a drawing depends only on what each layer
has been given, and in which order: the painted area is at the bottom although it is added last, and
above it are the lines, the boxes and the labels of the frame (`Canvas.layers_of_markup`).
-/

namespace NeighborGraph

namespace Layer

/-- All layers, from the bottom to the top. -/
def all : List Layer := [background, link, node, label]

/-- The group of a layer with the given content, unless there is none. -/
def groups (layer : Layer) : List Markup → List Markup
  | [] => []
  | content => [layer.group content]

@[simp] theorem groups_nil (layer : Layer) : layer.groups [] = [] := rfl

/-- There are no layers but those that are listed. -/
theorem mem_all (layer : Layer) : layer ∈ all := by
  cases layer <;> simp [all]

/-- Each layer comes after all those below it. -/
theorem pairwise_all : all.Pairwise fun a b => a.rank < b.rank := by
  simp [all, rank]

end Layer

namespace Layered

/-! ## The pieces of one layer -/

/-- The pieces of one layer, in order. -/
def onLayer (pieces : Layered) (layer : Layer) : List Markup :=
  (pieces.filter fun piece => piece.1 = layer).map (·.2)

variable {pieces others rest : Layered} {layer next : Layer} {piece : Markup}

@[simp] theorem onLayer_nil (layer : Layer) : onLayer [] layer = [] := rfl

/-- A piece comes first on its own layer, and is on no other. -/
theorem onLayer_cons (layer next : Layer) (piece : Markup) (rest : Layered) :
    onLayer ((next, piece) :: rest) layer =
      (if next = layer then [piece] else []) ++ rest.onLayer layer := by
  by_cases h : next = layer <;> simp [onLayer, h]

@[simp] theorem onLayer_merge (pieces others : Layered) (layer : Layer) :
    (pieces.merge others).onLayer layer = pieces.onLayer layer ++ others.onLayer layer := by
  simp [onLayer, merge]

@[simp] theorem onLayer_add (pieces : Layered) (layer next : Layer) (piece : Markup) :
    (pieces.add next piece).onLayer layer =
      pieces.onLayer layer ++ if next = layer then [piece] else [] := by
  by_cases h : next = layer <;> simp [onLayer, add, h]

/-- A layer is empty if no piece is on it. -/
theorem onLayer_eq_nil (h : ∀ piece ∈ pieces, piece.1 ≠ layer) : pieces.onLayer layer = [] := by
  rw [onLayer, List.map_eq_nil_iff, List.filter_eq_nil_iff]
  intro piece hp
  simpa using h piece hp

/-! ## Sorting -/

@[simp] theorem inOrder_iff {a b : Layer × Markup} : inOrder a b = true ↔ a.1.rank ≤ b.1.rank :=
  decide_eq_true_iff

/-- Pieces are in order if both are so with a piece between them. -/
theorem inOrder_trans (a b c : Layer × Markup) (hab : inOrder a b = true)
    (hbc : inOrder b c = true) : inOrder a c = true := by
  rw [inOrder_iff] at hab hbc ⊢
  exact Nat.le_trans hab hbc

/-- Of two pieces, one can come before the other. -/
theorem inOrder_total (a b : Layer × Markup) : (inOrder a b || inOrder b a) = true := by
  rw [Bool.or_eq_true, inOrder_iff, inOrder_iff]
  exact Nat.le_total a.1.rank b.1.rank

/-- Sorting pieces loses none and adds none. -/
theorem perm_sorted (pieces : Layered) : pieces.sorted.Perm pieces :=
  List.mergeSort_perm pieces inOrder

/-- Sorted pieces are in order of their layers. -/
theorem pairwise_sorted (pieces : Layered) :
    pieces.sorted.Pairwise fun a b => inOrder a b = true :=
  List.pairwise_mergeSort inOrder_trans inOrder_total pieces

/-- Sorting keeps the pieces of a layer, in their order. -/
theorem onLayer_sorted (pieces : Layered) (layer : Layer) :
    pieces.sorted.onLayer layer = pieces.onLayer layer := by
  let p (piece : Layer × Markup) : Bool := piece.1 = layer
  have hsame : (pieces.filter p).Pairwise fun a b => inOrder a b = true := by
    refine List.pairwise_of_forall_mem_list fun a ha b hb => ?_
    have ha : a.1 = layer := by simpa [p] using (List.mem_filter.1 ha).2
    have hb : b.1 = layer := by simpa [p] using (List.mem_filter.1 hb).2
    simp [ha, hb]
  -- The sort is stable: pieces that are in order already stay in this order.
  have hsub : (pieces.filter p).Sublist pieces.sorted :=
    List.sublist_mergeSort inOrder_trans inOrder_total hsame List.filter_sublist
  have hkept : (pieces.filter p).Sublist (pieces.sorted.filter p) := by
    simpa [List.filter_filter] using hsub.filter p
  have hlength := ((perm_sorted pieces).filter p).length_eq
  exact congrArg (List.map (·.2)) (hkept.eq_of_length hlength.symm).symm

/-! ## Grouping -/

/-- Layers in a row, each of them above the one before. -/
abbrev Ascending (layers : List Layer) : Prop := layers.Pairwise fun a b => a.rank < b.rank

/-- No piece is on a layer below that of the first one. -/
theorem onLayer_eq_nil_of_lt (h : ((next, piece) :: rest).Pairwise fun a b => inOrder a b = true)
    (hlt : layer.rank < next.rank) : onLayer ((next, piece) :: rest) layer = [] := by
  refine onLayer_eq_nil fun other hother => ?_
  have hle : next.rank ≤ other.1.rank := by
    rcases List.mem_cons.1 hother with rfl | hother
    · exact Nat.le_refl _
    · exact inOrder_iff.1 ((List.pairwise_cons.1 h).1 other hother)
  rintro rfl
  exact absurd hle (Nat.not_le.2 hlt)

/-- A piece does not count for the groups of the layers above its own. -/
theorem flatMap_groups_above {above : List Layer} (hlayers : Ascending (next :: above))
    (piece : Markup) (rest : Layered) :
    (above.flatMap fun layer => layer.groups (onLayer ((next, piece) :: rest) layer)) =
      above.flatMap fun layer => layer.groups (rest.onLayer layer) := by
  refine List.flatMap_congr fun layer hlayer => ?_
  have hne : next ≠ layer := by
    rintro rfl
    exact absurd ((List.pairwise_cons.1 hlayers).1 next hlayer) (Nat.lt_irrefl _)
  rw [onLayer_cons, if_neg hne, List.nil_append]

/-- Of ascending layers, those below the layer of the first piece have no group, and the first group
begins with this piece. -/
theorem flatMap_groups_cons {below above : List Layer}
    (hlayers : Ascending (below ++ next :: above))
    (h : ((next, piece) :: rest).Pairwise fun a b => inOrder a b = true) :
    ((below ++ next :: above).flatMap fun layer =>
        layer.groups (onLayer ((next, piece) :: rest) layer)) =
      next.group (piece :: rest.onLayer next) ::
        above.flatMap fun layer => layer.groups (rest.onLayer layer) := by
  obtain ⟨-, habove, hbelow⟩ := List.pairwise_append.1 hlayers
  have hnone : (below.flatMap fun layer =>
      layer.groups (onLayer ((next, piece) :: rest) layer)) = [] := by
    refine List.flatMap_eq_nil_iff.2 fun layer hlayer => ?_
    rw [onLayer_eq_nil_of_lt h (hbelow layer hlayer next List.mem_cons_self), Layer.groups_nil]
  rw [List.flatMap_append, List.flatMap_cons, hnone, flatMap_groups_above habove, onLayer_cons,
    if_pos rfl]
  rfl

/-- Pieces that come after one are not on the layers below that of this one. -/
theorem mem_of_inOrder {below above : List Layer} (hlayers : Ascending (below ++ next :: above))
    (h : ((next, piece) :: rest).Pairwise fun a b => inOrder a b = true)
    (hon : ∀ piece ∈ rest, piece.1 ∈ below ++ next :: above) :
    ∀ piece ∈ rest, piece.1 ∈ next :: above := by
  intro other hother
  refine (List.mem_append.1 (hon other hother)).resolve_left fun hin => ?_
  have hlt := (List.pairwise_append.1 hlayers).2.2 _ hin next List.mem_cons_self
  have hle := inOrder_iff.1 ((List.pairwise_cons.1 h).1 other hother)
  exact absurd hle (Nat.not_le.2 hlt)

/-- One pass over sorted pieces closes the group that has been begun behind the last piece of its
layer, and makes one group of each layer above that has pieces. -/
theorem groupsFrom_eq {above : List Layer} {begun : Array Markup}
    (hlayers : Ascending (layer :: above))
    (hsorted : rest.Pairwise fun a b => inOrder a b = true)
    (hon : ∀ piece ∈ rest, piece.1 ∈ layer :: above) :
    groupsFrom layer begun rest =
      layer.group (begun.toList ++ rest.onLayer layer) ::
        above.flatMap fun layer => layer.groups (rest.onLayer layer) := by
  induction rest generalizing layer above begun with
  | nil => simp [groupsFrom]
  | cons first rest ih =>
    obtain ⟨next, piece⟩ := first
    have hrest := (List.pairwise_cons.1 hsorted).2
    obtain ⟨hnext, hon⟩ := List.forall_mem_cons.1 hon
    rw [groupsFrom]
    split
    next heq =>
      -- The piece joins the group that has been begun.
      subst heq
      rw [ih hlayers hrest hon, flatMap_groups_above hlayers, onLayer_cons, if_pos rfl]
      simp
    next hne =>
      -- The group is closed, and the next one is that of the layer of the piece.
      have hmem : next ∈ above := (List.mem_cons.1 hnext).resolve_left hne
      obtain ⟨below, above, rfl⟩ := List.append_of_mem hmem
      have hlt : layer.rank < next.rank := (List.pairwise_cons.1 hlayers).1 next hmem
      have hall : Ascending ((layer :: below) ++ next :: above) := hlayers
      have hon := mem_of_inOrder hall hsorted hon
      have habove := (List.pairwise_append.1 hall).2.1
      have hlayers := (List.pairwise_cons.1 hlayers).2
      rw [ih habove hrest hon, flatMap_groups_cons hlayers hsorted,
        onLayer_eq_nil_of_lt hsorted hlt, List.append_nil]
      rfl

/-- The groups are those of the layers that have pieces, from the bottom to the top, each with the
pieces of its layer in the order in which they were added. -/
theorem groups_eq (pieces : Layered) :
    pieces.groups = Layer.all.flatMap fun layer => layer.groups (pieces.onLayer layer) := by
  have hsorted := pairwise_sorted pieces
  have hgroups : pieces.groups =
      Layer.all.flatMap fun layer => layer.groups (pieces.sorted.onLayer layer) := by
    unfold groups
    cases hp : pieces.sorted with
    | nil => simp
    | cons first rest =>
      obtain ⟨layer, piece⟩ := first
      rw [hp] at hsorted
      obtain ⟨below, above, hall⟩ := List.append_of_mem layer.mem_all
      have hlayers : Ascending (below ++ layer :: above) := hall ▸ Layer.pairwise_all
      have hon := mem_of_inOrder hlayers hsorted fun piece _ => hall ▸ piece.1.mem_all
      rw [hall, flatMap_groups_cons hlayers hsorted]
      exact groupsFrom_eq (List.pairwise_append.1 hlayers).2.1 (List.pairwise_cons.1 hsorted).2 hon
  simpa only [onLayer_sorted] using hgroups

/-! ## Merging -/

/-- A way to merge several outputs into one. -/
inductive Merging where
  | output (pieces : Layered)
  | merge (first second : Merging)

namespace Merging

/-- The output that all are merged into. -/
def result : Merging → Layered
  | output pieces => pieces
  | merge first second => first.result.merge second.result

/-- The outputs that are merged, in order. -/
def outputs : Merging → List Layered
  | output pieces => [pieces]
  | merge first second => first.outputs ++ second.outputs

/-- Outputs that are merged have all their pieces in a row. -/
theorem result_eq_flatten (merging : Merging) : merging.result = merging.outputs.flatten := by
  induction merging with
  | output pieces => simp [result, outputs]
  | merge first second hfirst hsecond =>
    rw [result, outputs, List.flatten_append, hfirst, hsecond]
    rfl

end Merging

end Layered

/-! ## Frames -/

namespace Frame

/-- What the shapes of a frame add to a layer. -/
def content (frame : Frame Float) : Layer → List Markup
  | .background => []
  | .link => frame.lines.map Line.markup
  | .node => frame.boxes.map NodeBox.markup
  | .label => frame.labels.map Label.markup

/-- What a shape puts on a layer comes before what later shapes put there. -/
theorem content_cons (shape : Shape Float) (frame : Frame Float) (layer : Layer) :
    content (shape :: frame) layer = shape.layered.onLayer layer ++ frame.content layer := by
  cases shape <;> cases layer <;> rfl

/-- Merging shapes one after another puts them on each layer in turn. -/
theorem onLayer_foldl_merge (frame : Frame Float) (pieces : Layered) (layer : Layer) :
    (frame.foldl (fun pieces shape => pieces.merge shape.layered) pieces).onLayer layer =
      pieces.onLayer layer ++ frame.content layer := by
  induction frame generalizing pieces with
  | nil => cases layer <;> simp [content, lines, boxes, labels]
  | cons shape frame ih =>
    rw [List.foldl_cons, ih, Layered.onLayer_merge, content_cons, List.append_assoc]

/-- A layer has the pieces of the shapes that belong on it, each once and in order. -/
theorem onLayer_layered (frame : Frame Float) (layer : Layer) :
    frame.layered.onLayer layer = frame.content layer :=
  onLayer_foldl_merge frame [] layer

end Frame

/-! ## Drawings -/

namespace Canvas

/-- The painted area, if there is one. -/
def painted (canvas : Canvas) : List Markup := (canvas.background?.map canvas.paint).toList

/-- The painted area is alone on the bottom layer. -/
theorem onLayer_pieces (canvas : Canvas) (frame : Frame Float) (layer : Layer) :
    (canvas.pieces frame).onLayer layer =
      frame.content layer ++ if layer = .background then canvas.painted else [] := by
  unfold pieces painted
  cases canvas.background? with
  | none => simp [Frame.onLayer_layered]
  | some color => simp [Frame.onLayer_layered, eq_comm]

/-- The drawing of a frame has a group for the background, one for the links, one for the nodes and
one for the labels, in this order. -/
theorem groups_pieces (canvas : Canvas) (frame : Frame Float) :
    (canvas.pieces frame).groups =
      Layer.background.groups canvas.painted ++
        Layer.link.groups (frame.lines.map Line.markup) ++
        Layer.node.groups (frame.boxes.map NodeBox.markup) ++
        Layer.label.groups (frame.labels.map Label.markup) := by
  rw [Layered.groups_eq]
  simp [Layer.all, onLayer_pieces, Frame.content]

/-- The drawing of a frame is one group, which holds the group of the painted area, if there is one,
then that of the lines, then that of the boxes and then that of the labels, each if the frame has
any: each shape is in there once and in the order of the frame. So the text does not depend on how
lines, boxes and labels are mixed, and merged outputs have the groups of all their pieces in a row,
whichever of them are merged first. -/
theorem layers_of_markup (canvas : Canvas) :
    (∃ attributes, ∀ frame, canvas.markup frame = .element "svg" attributes
      [.element "g" [("class", "graph")]
        (Layer.background.groups canvas.painted ++
          Layer.link.groups (frame.lines.map Line.markup) ++
          Layer.node.groups (frame.boxes.map NodeBox.markup) ++
          Layer.label.groups (frame.labels.map Label.markup))]) ∧
    (∀ frame other : Frame Float, frame.lines = other.lines → frame.boxes = other.boxes →
      frame.labels = other.labels → canvas.text frame = canvas.text other) ∧
    ∀ merging : Layered.Merging,
      merging.result.groups = Layered.groups merging.outputs.flatten := by
  have hmarkup : ∃ attributes, ∀ frame, canvas.markup frame = .element "svg" attributes
      [.element "g" [("class", "graph")] (canvas.pieces frame).groups] := ⟨_, fun _ => rfl⟩
  refine ⟨?_, fun frame other hlines hboxes hlabels => ?_, fun merging => ?_⟩
  · simpa only [groups_pieces] using hmarkup
  · have hgroups : (canvas.pieces frame).groups = (canvas.pieces other).groups := by
      rw [groups_pieces, groups_pieces, hlines, hboxes, hlabels]
    rw [text, text, markup, markup, hgroups]
  · rw [merging.result_eq_flatten]

/-- Shapes of all kinds in a mixed order are drawn like the same shapes sorted by kind. -/
theorem layers_of_markup_mixed :
    let canvas : Canvas := ⟨⟨100, 100⟩, some .black⟩
    let line : Shape Float := .line ⟨⟨0, 0⟩, ⟨1, 1⟩, .plain⟩
    let box : Shape Float := .box ⟨⟨"a"⟩, ⟨0, 0, 1, 1⟩, .blue, none⟩
    let label : Shape Float := .label (.tooltip "A" ⟨0, 0, 1, 1⟩)
    canvas.text [label, box, line, box] = canvas.text [line, box, box, label] :=
  (layers_of_markup _).2.1 _ _ rfl rfl rfl

end Canvas

end NeighborGraph
