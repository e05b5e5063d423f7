import NeighborGraph.Proofs.Color.Text
import NeighborGraph.Proofs.Draw.Reading

/-!
# Identifiers in a drawing

The tag of a node box carries the identifier of its node in the attribute `data-node`. For every
identifier the tag is read with exactly the attributes that are set, and a drawing has the
identifiers of its boxes in their order, except that the value of an attribute has blanks for all
spaces (`NodeBox.identifier_read`). So identifiers are found again exactly if they have no
tabulators and no ends of lines; two that differ only in these look the same, and an identifier can
hold a character that no document may hold (`NodeBox.not_identifier_read_spaces`).
-/

namespace NeighborGraph

open Xml

/-! ## Values -/

namespace Xml

/-- The characters that a value keeps. -/
def isKept (c : Char) : Bool := c == ' ' || !isSpace c

/-- Whatever the value is, normalization leaves no character that it would change. -/
theorem isKept_of_mem_normalized {value : List Char} {c : Char} (h : c ∈ normalized value) :
    isKept c = true := by
  fun_induction normalized value with
  | case1 rest ih =>
    rcases List.mem_cons.1 h with rfl | h
    · rfl
    · exact ih h
  | case2 d rest _ ih =>
    rcases List.mem_cons.1 h with rfl | h
    · split
      · rfl
      · next hd => simp [isKept, hd]
    · exact ih h
  | case3 => cases h

/-- A value without characters that normalization changes stays as it is. -/
theorem normalized_of_isKept {value : List Char} (h : ∀ c ∈ value, isKept c = true) :
    normalized value = value := by
  induction value with
  | nil => rfl
  | cons c rest ih =>
    obtain ⟨hc, hrest⟩ := List.forall_mem_cons.1 h
    have hreturn : c ≠ '\r' := by
      rintro rfl
      exact absurd hc (by decide)
    have hself : (if isSpace c then ' ' else c) = c := by
      split
      · next hspace => exact (by simpa [isKept, hspace] using hc : c = ' ').symm
      · rfl
    rw [normalized_cons fun heq => absurd heq hreturn, hself, ih hrest]

/-- A value is read as it is exactly if all its spaces are blanks. -/
theorem spaced_eq_self_iff {text : String} :
    spaced text = text ↔ ∀ c ∈ text.toList, isKept c = true := by
  constructor
  · intro h c hc
    rw [← h, spaced, String.toList_ofList] at hc
    exact isKept_of_mem_normalized hc
  · intro h
    rw [spaced, normalized_of_isKept h, String.ofList_toList]

/-- All characters of a text may be in a document. -/
def IsLegal (text : List Char) : Prop := ∀ c ∈ text, isLegal c = true

instance (text : List Char) : Decidable (IsLegal text) :=
  List.decidableBAll (isLegal · = true) text

/-- A text is legal if its parts are. -/
theorem isLegal_append {a b : List Char} : IsLegal (a ++ b) ↔ IsLegal a ∧ IsLegal b :=
  List.forall_mem_append

/-- A text is legal if its first character is and what follows it. -/
theorem isLegal_cons {c : Char} {rest : List Char} :
    IsLegal (c :: rest) ↔ isLegal c = true ∧ IsLegal rest := List.forall_mem_cons

/-- Escaping a character of a value makes it neither legal nor illegal. -/
theorem isLegal_escapeValueChar (c : Char) :
    IsLegal (Markup.escapeValueChar c) ↔ isLegal c = true := by
  unfold Markup.escapeValueChar Markup.escapeTextChar
  split
  · decide
  · decide
  · split
    · decide
    · decide
    · decide
    · exact List.forall_mem_singleton

/-- A value is legal exactly if it is so once it has been escaped. -/
theorem isLegal_escapeValue (value : List Char) :
    IsLegal (Markup.escapeValue value) ↔ IsLegal value := by
  induction value with
  | nil => exact Iff.rfl
  | cons c rest ih =>
    rw [Markup.escapeValue, List.flatMap_cons, isLegal_append, isLegal_escapeValueChar,
      isLegal_cons]
    exact and_congr_right' ih

/-- An attribute with a legal name is legal exactly if its value is. -/
theorem isLegal_attributeChars {a : Attribute} (hname : IsLegal a.1.toList) :
    IsLegal (Markup.attributeChars a) ↔ IsLegal a.2.toList := by
  have hquote : isLegal '"' = true := by decide
  have hequals : isLegal '=' = true := by decide
  have hblank : isLegal ' ' = true := by decide
  have hnil : IsLegal [] := List.forall_mem_nil _
  simp [Markup.attributeChars, isLegal_append, isLegal_cons, isLegal_escapeValue, hname, hquote,
    hequals, hblank, hnil]

end Xml

/-- Printable characters are legal, and normalization keeps them. -/
theorem isKept_of_isPrintable {c : Char} (h : isPrintable c = true) :
    isKept c = true ∧ isLegal c = true := by
  have hspace : c ≠ '\t' ∧ c ≠ '\n' ∧ c ≠ '\r' := by
    refine ⟨?_, ?_, ?_⟩ <;> rintro rfl <;> exact absurd h (by decide)
  constructor
  · simp only [isKept, isSpace, beq_eq_false_iff_ne.2 hspace.1, beq_eq_false_iff_ne.2 hspace.2.1,
      beq_eq_false_iff_ne.2 hspace.2.2, Bool.or_false, Bool.or_not_self]
  · simp only [isPrintable, Bool.and_eq_true, decide_eq_true_eq] at h
    simp only [isLegal, Bool.or_eq_true, Bool.and_eq_true, decide_eq_true_eq, bne_iff_ne]
    omega

/-- A printable text is read as it is. -/
theorem IsPrintable.spaced {text : String} (h : IsPrintable text) : Xml.spaced text = text :=
  spaced_eq_self_iff.2 fun c hc => (isKept_of_isPrintable (h c hc)).1

/-- A printable text is legal. -/
theorem IsPrintable.isLegal {text : String} (h : IsPrintable text) : IsLegal text.toList :=
  fun c hc => (isKept_of_isPrintable (h c hc)).2

/-! ## Node boxes -/

/-- The identifier that a tag carries. -/
def dataNode? : Tag × List Char → Option String
  | (.empty "rect" attributes, _) => attributes.lookup "data-node"
  | _ => none

namespace NodeBox

/-- The colors of a box are proper. -/
structure IsProper (b : NodeBox Float) : Prop where
  fill : b.fill.IsProper
  outline : ∀ s ∈ b.outline, s.color.IsProper

/-- A box without an outline is proper if its fill is. -/
theorem isProper_of_fill {node : NodeId} {area : Bounds Float} {fill : Color}
    (h : fill.IsProper) : IsProper ⟨node, area, fill, none⟩ :=
  ⟨h, by simp⟩

/-- The attributes that say where a box is and what it is painted with. -/
def paintAttributes (b : NodeBox Float) : List Attribute :=
  [("fill", b.fill.text), ("fill-opacity", Single.plainText b.fill.alpha),
      ("height", Double.plainText b.area.height)] ++
    (b.outline.map Stroke.attributes).getD [] ++
    [("width", Double.plainText b.area.width), ("x", Double.plainText b.area.minX),
      ("y", Double.plainText b.area.minY)]

/-- The attributes of a box, with a text for its node. -/
def attributesWith (b : NodeBox Float) (node : String) : List Attribute :=
  ("class", "node") :: ("data-node", node) :: b.paintAttributes

/-- A box is written as an empty element with its identifier among the attributes. -/
theorem markup_eq (b : NodeBox Float) :
    b.markup = .element "rect" (b.attributesWith b.node.text) [] := rfl

/-- Apart from the identifier, the attributes of a proper box are printable. -/
theorem isPrintable_paintAttributes {b : NodeBox Float} (h : b.IsProper) :
    ∀ a ∈ b.paintAttributes, IsPrintable a.1 ∧ IsPrintable a.2 := by
  have hdouble : ∀ x, IsPrintable (Double.plainText x) :=
    fun _ => BinaryNumber.isPrintable_plainText _
  have hsingle : ∀ x, IsPrintable (Single.plainText x) :=
    fun _ => BinaryNumber.isPrintable_plainText _
  have hfill := Color.isPrintable_text h.fill
  unfold paintAttributes
  cases houtline : b.outline with
  | none =>
    simp +decide [hdouble, hsingle, hfill]
  | some s =>
    have hstroke := Color.isPrintable_text (h.outline s houtline)
    simp +decide [Stroke.attributes, hdouble, hsingle, hfill, hstroke]

/-- Of the attributes of a box, only the text for its node can change when it is read. -/
theorem map_normalizedAttribute_attributesWith {b : NodeBox Float} (h : b.IsProper)
    (node : String) :
    (b.attributesWith node).map normalizedAttribute = b.attributesWith (spaced node) := by
  have hpaint : b.paintAttributes.map normalizedAttribute = b.paintAttributes := by
    refine (List.map_congr_left (g := id) fun a ha => ?_).trans (List.map_id _)
    exact congrArg (Prod.mk a.1) (isPrintable_paintAttributes h a ha).2.spaced
  rw [attributesWith, List.map_cons, List.map_cons, hpaint]
  rfl

/-- A proper box is read as a single tag, with the identifier that normalization leaves. -/
theorem read?_markup {b : NodeBox Float} (h : b.IsProper) :
    read? b.markup.chars =
      some ⟨[], [(.empty "rect" (b.attributesWith (spaced b.node.text)), [])]⟩ := by
  rw [Markup.read?_chars b.wellNamed_markup, markup_eq, Markup.readBefore_empty,
    map_normalizedAttribute_attributesWith h]

/-- The tag of a box has a character that no document may have exactly if the identifier has. -/
theorem isLegal_markup {b : NodeBox Float} (h : b.IsProper) :
    IsLegal b.markup.chars ↔ IsLegal b.node.text.toList := by
  -- All other attributes are printable.
  have hpaint : IsLegal (b.paintAttributes.flatMap Markup.attributeChars) := by
    refine List.forall_mem_flatMap.2 fun a ha => ?_
    obtain ⟨hname, hvalue⟩ := isPrintable_paintAttributes h a ha
    exact (isLegal_attributeChars hname.isLegal).2 hvalue.isLegal
  have hclass : IsLegal (Markup.attributeChars ("class", "node")) := by decide
  have hname : IsLegal "data-node".toList := by decide
  have hnode := isLegal_attributeChars (a := ("data-node", b.node.text)) hname
  have hopen : IsLegal ('<' :: "rect".toList) := by decide
  have hclose : IsLegal ['/', '>'] := by decide
  have hchars : b.markup.chars = '<' :: "rect".toList ++ (Markup.attributeChars ("class", "node") ++
      (Markup.attributeChars ("data-node", b.node.text) ++
        b.paintAttributes.flatMap Markup.attributeChars)) ++ ['/', '>'] := by
    rw [markup_eq, Markup.chars]
    rfl
  rw [hchars]
  simp only [isLegal_append, hopen, hclose, hclass, hpaint, hnode, true_and, and_true]

end NodeBox

/-! ## Drawings -/

/-- Identifiers of nodes are found at boxes only. -/
theorem skips_dataNode? {tag : String} (h : tag ≠ "rect") : Markup.Skips dataNode? tag := by
  intro attributes run
  refine ⟨rfl, ?_, rfl⟩
  unfold dataNode?
  split
  · next heq =>
    cases heq
    exact absurd rfl h
  · rfl

/-- A drawing carries the identifiers of its boxes in their order. -/
theorem Canvas.filterMap_dataNode? (canvas : Canvas) (frame : Frame Float) :
    (canvas.reading frame).tags.filterMap dataNode? =
      frame.boxes.map fun b => spaced b.node.text := by
  have hpaint : ∀ (canvas : Canvas) (color : Color),
      Markup.Yields dataNode? [canvas.paint color] [] := by
    intro canvas color r
    rw [Markup.tags_contentReadBefore_cons, paint, Markup.readBefore_empty]
    rfl
  have hline : ∀ l : Line Float, Markup.Yields dataNode? [l.markup] [] :=
    fun l => .element (skips_dataNode? (by decide)) .nil
  have hbox : ∀ b : NodeBox Float, Markup.Yields dataNode? [b.markup] [spaced b.node.text] := by
    intro b r
    rw [Markup.tags_contentReadBefore_cons, b.markup_eq, Markup.readBefore_empty]
    rfl
  have hlabel : ∀ l : Label Float, Markup.Yields dataNode? [l.markup] [] := by
    intro l r
    rw [Markup.tags_contentReadBefore_cons]
    cases h : l.placement with
    | tooltip =>
      rw [Label.readBefore_tooltip h]
      rfl
    | text =>
      rw [Label.readBefore_text h]
      rfl
  have h := filterMap_reading (skips_dataNode? (by decide)) (skips_dataNode? (by decide)) hpaint
    hline hbox hlabel canvas frame
  rwa [List.flatMap_eq_nil_iff.2 fun _ _ => rfl, List.append_nil, ← List.map_eq_flatMap] at h

namespace NodeBox

/-- The tag of a box whose colors are proper, as all colors are that are read, has exactly the
attributes that are set, whatever the identifier of its node is, and it is well-formed if the
identifier has only characters that a document may have. The identifier is read with blanks for its
spaces, so as it is if its spaces are blanks. A drawing has the identifiers of all its boxes, in
their order. -/
theorem identifier_read :
    (∀ b : NodeBox Float, b.IsProper →
      read? b.markup.chars =
          some ⟨[], [(.empty "rect" (b.attributesWith (spaced b.node.text)), [])]⟩ ∧
        (IsLegal b.markup.chars ↔ IsLegal b.node.text.toList)) ∧
    (∀ text, spaced text = text ↔ ∀ c ∈ text.toList, isKept c = true) ∧
    ∀ (canvas : Canvas) (frame : Frame Float),
      read? (canvas.text frame).toList = some (canvas.reading frame) ∧
      (canvas.reading frame).tags.filterMap dataNode? =
        frame.boxes.map (fun b => spaced b.node.text) ∧
      ((∀ b ∈ frame.boxes, ∀ c ∈ b.node.text.toList, isKept c = true) →
        (canvas.reading frame).tags.filterMap dataNode? = frame.boxes.map (·.node.text)) := by
  refine ⟨?_, fun _ => spaced_eq_self_iff, ?_⟩
  · intro b h
    constructor
    · exact read?_markup h
    · exact isLegal_markup h
  · intro canvas frame
    have hvalues := canvas.filterMap_dataNode? frame
    refine ⟨canvas.read?_text frame, hvalues, fun h => hvalues.trans ?_⟩
    exact List.map_congr_left fun b hb => spaced_eq_self_iff.2 (h b hb)

/-- The box of a node with quotes, an ampersand and brackets in its identifier. -/
theorem identifier_read_reserved :
    let b : NodeBox Float := ⟨⟨"\"<a b=\'c\'>&amp;"⟩, ⟨0, 0, 1, 1⟩, .blue, none⟩
    b.IsProper ∧ (∀ c ∈ b.node.text.toList, isKept c = true) ∧
      read? b.markup.chars = some ⟨[], [(.empty "rect" (b.attributesWith b.node.text), [])]⟩ ∧
      IsLegal b.markup.chars := by
  intro b
  have hproper : b.IsProper := isProper_of_fill Color.isProper_blue
  have hkept : ∀ c ∈ b.node.text.toList, isKept c = true := List.all_eq_true.1 (by decide)
  obtain ⟨hboxes, hspaced, -⟩ := identifier_read
  obtain ⟨hread, hlegal⟩ := hboxes b hproper
  rw [(hspaced _).2 hkept] at hread
  exact ⟨hproper, hkept, hread, hlegal.2 (by decide)⟩

/-- Two identifiers, the one with the end of a line where the other has a blank, look the same in a
drawing; and an identifier can have a character that no document may have. -/
theorem not_identifier_read_spaces :
    let box (id : String) : NodeBox Float := ⟨⟨id⟩, ⟨0, 0, 1, 1⟩, .blue, none⟩
    read? (box "a\nb").markup.chars = read? (box "a b").markup.chars ∧
      (read? (box "a\nb").markup.chars).map (·.tags.filterMap dataNode?) = some ["a b"] ∧
      ¬ IsLegal (box "\x00").markup.chars := by
  intro box
  have hproper : ∀ id, (box id).IsProper := fun _ => isProper_of_fill Color.isProper_blue
  have hattributes : ∀ id text, (box id).attributesWith text = (box "").attributesWith text :=
    fun _ _ => rfl
  have hsame : spaced "a\nb" = spaced "a b" := by decide
  have hvalue : ∀ id, (read? (box id).markup.chars).map (·.tags.filterMap dataNode?) =
      some [spaced id] := by
    intro id
    rw [read?_markup (hproper id)]
    rfl
  refine ⟨?_, ?_, ?_⟩
  · rw [read?_markup (hproper _), read?_markup (hproper _), hattributes, hattributes "a b"]
    change some (Reading.mk _ [(.empty "rect" ((box "").attributesWith (spaced "a\nb")), [])]) = _
    rw [hsame]
  · rw [hvalue, hsame]
    decide
  · rw [isLegal_markup (hproper _)]
    decide

end NodeBox

end NeighborGraph
