import NeighborGraph.Proofs.Draw.Layering
import NeighborGraph.Proofs.Markup.Written

/-!
# Drawings read back

All names of tags and attributes in a drawing are proper (`Canvas.wellNamed_markup`), so that a
drawing is read as its tags and texts whatever is drawn. What a reader finds at the boxes and at the
labels comes in the order of the frame, first that of the boxes (`Canvas.filterMap_reading`).
-/

namespace NeighborGraph

open Xml

namespace Markup

/-- Some pieces of markup are well named if each of them is. -/
theorem contentWellNamed_iff {content : List Markup} :
    ContentWellNamed content ↔ ∀ m ∈ content, m.WellNamed := by
  induction content with
  | nil => simp [ContentWellNamed]
  | cons m content ih => simp [ContentWellNamed, ih]

/-- Pieces are read from the last to the first, so that those behind come first. -/
theorem contentReadBefore_append (content others : List Markup) (r : Reading) :
    contentReadBefore (content ++ others) r =
      contentReadBefore content (contentReadBefore others r) := by
  induction content with
  | nil => rfl
  | cons m content ih => simp only [List.cons_append, contentReadBefore, ih]

/-- The tags of a piece come before those of the pieces behind it. -/
theorem tags_contentReadBefore_cons (m : Markup) (content : List Markup) (r : Reading) :
    (contentReadBefore (m :: content) r).tags =
      (m.readBefore (contentReadBefore content r)).tags := by
  rw [contentReadBefore]
  split <;> rfl

/-! ## What is found at tags -/

section

variable {β : Type} {value? : Tag × List Char → Option β}

/-- The values that are found at the tags of some pieces of markup, whatever comes after them. -/
def Yields (value? : Tag × List Char → Option β) (content : List Markup) (values : List β) : Prop :=
  ∀ r, (contentReadBefore content r).tags.filterMap value? = values ++ r.tags.filterMap value?

/-- Nothing is found at the tags of elements of a name. -/
def Skips (value? : Tag × List Char → Option β) (tag : String) : Prop :=
  ∀ attributes run, value? (.start tag attributes, run) = none ∧
    value? (.empty tag attributes, run) = none ∧ value? (.stop tag, run) = none

namespace Yields

variable {content others : List Markup} {values otherValues : List β}

/-- Where there is no markup there are no values. -/
theorem nil : Yields value? [] [] := fun _ => rfl

/-- The values of pieces come in the order of the pieces. -/
theorem append (h : Yields value? content values) (hothers : Yields value? others otherValues) :
    Yields value? (content ++ others) (values ++ otherValues) := by
  intro r
  rw [contentReadBefore_append, h, hothers, List.append_assoc]

/-- Pieces that are written one for each item yield the values of the items in turn. -/
theorem map {γ : Type} {piece : γ → Markup} {valuesOf : γ → List β}
    (h : ∀ c, Yields value? [piece c] (valuesOf c)) (cs : List γ) :
    Yields value? (cs.map piece) (cs.flatMap valuesOf) := by
  induction cs with
  | nil => exact nil
  | cons c cs ih => exact (h c).append ih

/-- In an element with tags at which nothing is found, what is found is found in its content. -/
theorem element {tag : String} (htag : Skips value? tag) {attributes : List Attribute}
    (h : Yields value? content values) :
    Yields value? [.element tag attributes content] values := by
  intro r
  rw [tags_contentReadBefore_cons, contentReadBefore, readBefore]
  split
  -- An element without content is a single tag.
  · next hcontent =>
    obtain rfl := List.isEmpty_iff.1 hcontent
    have hvalues : [] = values := by simpa [contentReadBefore] using h ⟨[], []⟩
    rw [List.filterMap_cons_none (htag _ _).2.1, ← hvalues, List.nil_append]
  · rw [List.filterMap_cons_none (htag _ _).1, h, List.filterMap_cons_none (htag [] _).2.2]

/-- A group around some pieces yields what they yield, if nothing is found at groups. -/
theorem groups (hgroup : Skips value? "g") (h : Yields value? content values) (layer : Layer) :
    Yields value? (layer.groups content) values := by
  cases content with
  | nil => exact h
  | cons m content => exact element hgroup h

end Yields

end

end Markup

/-! ## Names -/

/-- The tag and the attributes of an element have these names, which are proper. -/
theorem Markup.wellNamed_element {tag : String} {attributes : List Attribute} (names : List String)
    (hnames : attributes.map (·.1) = names)
    (h : isName tag.toList = true ∧ (∀ name ∈ names, isName name.toList = true) ∧ names.Nodup)
    {content : List Markup} (hcontent : ∀ m ∈ content, m.WellNamed) :
    (element tag attributes content).WellNamed := by
  obtain ⟨htag, hproper, hnd⟩ := h
  refine ⟨htag, fun a ha => hproper a.1 ?_, hnames ▸ hnd, contentWellNamed_iff.2 hcontent⟩
  rw [← hnames]
  exact List.mem_map_of_mem ha

/-- The names in the markup of a line are well formed. -/
theorem Line.wellNamed_markup (l : Line Float) : l.markup.WellNamed :=
  Markup.wellNamed_element
    ["class", "stroke", "stroke-opacity", "stroke-width", "x1", "x2", "y1", "y2"] rfl (by decide)
    nofun

/-- The names in the markup of a box are well formed. -/
theorem NodeBox.wellNamed_markup (b : NodeBox Float) : b.markup.WellNamed := by
  unfold markup
  cases b.outline with
  | none =>
    exact Markup.wellNamed_element
      ["class", "data-node", "fill", "fill-opacity", "height", "width", "x", "y"] rfl (by decide)
      nofun
  | some s =>
    exact Markup.wellNamed_element
      ["class", "data-node", "fill", "fill-opacity", "height", "stroke", "stroke-opacity",
        "stroke-width", "width", "x", "y"] rfl (by decide) nofun

/-- The names in the markup of a label are well formed, whichever way it is shown. -/
theorem Label.wellNamed_markup (l : Label Float) : l.markup.WellNamed := by
  unfold markup
  split
  · refine Markup.wellNamed_element ["class", "fill", "height", "width", "x", "y"] rfl (by decide)
      (List.forall_mem_singleton.2 ?_)
    exact Markup.wellNamed_element [] rfl (by decide) (List.forall_mem_singleton.2 trivial)
  · exact Markup.wellNamed_element
      ["class", "dominant-baseline", "fill", "font-size", "text-anchor", "x", "y"] rfl (by decide)
      (List.forall_mem_singleton.2 trivial)

/-! ## Labels -/

namespace Label

/-- The attributes of the element that shows a label. -/
def attributes (l : Label Float) : List Attribute :=
  match l.placement with
  | .tooltip => [("class", "label"), ("fill", "transparent"),
      ("height", Double.plainText l.area.height), ("width", Double.plainText l.area.width),
      ("x", Double.plainText l.area.minX), ("y", Double.plainText l.area.minY)]
  | .text => [("class", "label"), ("dominant-baseline", "central"), ("fill", l.color.text),
      ("font-size", Double.plainText l.fontSize), ("text-anchor", "middle"),
      ("x", Double.plainText l.area.center.x), ("y", Double.plainText l.area.center.y)]

/-- A tooltip is read as a box with a title. -/
theorem readBefore_tooltip {l : Label Float} (h : l.placement = .tooltip) (r : Reading) :
    l.markup.readBefore r =
      ⟨[], (.start "rect" (l.attributes.map normalizedAttribute), ['\n']) ::
        (.start "title" [], Markup.escapeText l.text.toList) :: (.stop "title", ['\n']) ::
        (.stop "rect", r.lead) :: r.tags⟩ := by
  simp [markup, attributes, h, Markup.readBefore, Markup.contentReadBefore, Markup.closingBreak,
    Markup.isInline]

/-- A visible label is read as an element with its text on a line of its own. -/
theorem readBefore_text {l : Label Float} (h : l.placement = .text) (r : Reading) :
    l.markup.readBefore r =
      ⟨[], (.start "text" (l.attributes.map normalizedAttribute),
          '\n' :: Markup.escapeText l.text.toList ++ ['\n']) ::
        (.stop "text", r.lead) :: r.tags⟩ := by
  simp [markup, attributes, h, Markup.readBefore, Markup.contentReadBefore, Markup.closingBreak,
    Markup.isInline]

end Label

/-! ## Drawings -/

/-- A group of well named pieces is well named. -/
theorem Layer.wellNamed_groups (layer : Layer) {content : List Markup}
    (h : ∀ m ∈ content, m.WellNamed) : ∀ m ∈ layer.groups content, m.WellNamed := by
  cases content with
  | nil => nofun
  | cons m content =>
    exact List.forall_mem_singleton.2 (Markup.wellNamed_element ["data-layer"] rfl (by decide) h)

namespace Canvas

/-- All names in a drawing are well formed. -/
theorem wellNamed_markup (canvas : Canvas) (frame : Frame Float) :
    (canvas.markup frame).WellNamed := by
  have hpainted : ∀ m ∈ canvas.painted, m.WellNamed := by
    intro m hm
    obtain ⟨color, -, rfl⟩ := Option.map_eq_some_iff.1 (Option.mem_toList.1 hm)
    exact Markup.wellNamed_element ["fill", "height", "width", "x", "y"] rfl (by decide) nofun
  have hgroups : ∀ m ∈ (canvas.pieces frame).groups, m.WellNamed := by
    rw [groups_pieces]
    simp only [List.forall_mem_append]
    exact ⟨⟨⟨Layer.wellNamed_groups _ hpainted,
      Layer.wellNamed_groups _ (List.forall_mem_map.2 fun l _ => l.wellNamed_markup)⟩,
      Layer.wellNamed_groups _ (List.forall_mem_map.2 fun b _ => b.wellNamed_markup)⟩,
      Layer.wellNamed_groups _ (List.forall_mem_map.2 fun l _ => l.wellNamed_markup)⟩
  refine Markup.wellNamed_element ["height", "viewBox", "width", "xmlns"] rfl (by decide)
    (List.forall_mem_singleton.2 ?_)
  exact Markup.wellNamed_element ["class"] rfl (by decide) hgroups

/-- What is read of the drawing of a frame. -/
def reading (canvas : Canvas) (frame : Frame Float) : Reading :=
  (canvas.markup frame).readBefore ⟨[], []⟩

/-- The text of a drawing is read as its markup. -/
theorem read?_text (canvas : Canvas) (frame : Frame Float) :
    read? (canvas.text frame).toList = some (canvas.reading frame) := by
  rw [text, Markup.render, String.toList_ofList]
  exact Markup.read?_chars (canvas.wellNamed_markup frame)

/-- What is found in a drawing at the tags of boxes and labels, if nothing is found at those of the
groups, the painted area and the lines. -/
theorem filterMap_reading {β : Type} {value? : Tag × List Char → Option β}
    (hsvg : Markup.Skips value? "svg") (hgroup : Markup.Skips value? "g")
    (hpaint : ∀ (canvas : Canvas) (color : Color), Markup.Yields value? [canvas.paint color] [])
    (hline : ∀ l : Line Float, Markup.Yields value? [l.markup] [])
    {ofBox : NodeBox Float → List β} (hbox : ∀ b, Markup.Yields value? [b.markup] (ofBox b))
    {ofLabel : Label Float → List β} (hlabel : ∀ l, Markup.Yields value? [l.markup] (ofLabel l))
    (canvas : Canvas) (frame : Frame Float) :
    (canvas.reading frame).tags.filterMap value? =
      frame.boxes.flatMap ofBox ++ frame.labels.flatMap ofLabel := by
  have hpainted : Markup.Yields value? canvas.painted [] := by
    unfold painted
    cases canvas.background? with
    | none => exact .nil
    | some color => exact hpaint canvas color
  have hlines : Markup.Yields value? (frame.lines.map Line.markup) [] := by
    have h := Markup.Yields.map hline frame.lines
    rwa [List.flatMap_eq_nil_iff.2 fun _ _ => rfl] at h
  have hgroups : Markup.Yields value? (canvas.pieces frame).groups
      (frame.boxes.flatMap ofBox ++ frame.labels.flatMap ofLabel) := by
    rw [groups_pieces]
    exact (((hpainted.groups hgroup _).append (hlines.groups hgroup _)).append
      ((Markup.Yields.map hbox frame.boxes).groups hgroup _)).append
      ((Markup.Yields.map hlabel frame.labels).groups hgroup _)
  have hdrawing : Markup.Yields value? [canvas.markup frame]
      (frame.boxes.flatMap ofBox ++ frame.labels.flatMap ofLabel) :=
    .element hsvg (.element hgroup hgroups)
  have h := hdrawing ⟨[], []⟩
  rwa [Markup.tags_contentReadBefore_cons, List.filterMap_nil, List.append_nil] at h

end Canvas

end NeighborGraph
