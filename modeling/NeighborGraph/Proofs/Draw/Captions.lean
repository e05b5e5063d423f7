import NeighborGraph.Proofs.Draw.Reading

/-!
# Captions in a drawing

What is written for a label, between the tags of its title or of its visible text, is character data
for every text: no tag begins in it, and undoing the entities gives the text of a tooltip, and that
of a visible label on a line of its own (`Label.caption_read`). So a drawing has the texts of all
labels in their order, and different texts make different drawings. Visible text is never written
without the ends of lines around it (`Label.not_caption_read_visible`).
-/

namespace NeighborGraph

open Xml

namespace Markup

/-- A character that begins no reference is read as it is. -/
theorem unescape_cons {c : Char} (h : c ≠ '&') (rest : List Char) :
    unescape (c :: rest) = c :: unescape rest := by
  rw [unescape]
  all_goals
    intro _ hc
    exact absurd hc h

/-- What a character is written as is read as this character. -/
theorem unescape_escapeTextChar (c : Char) (rest : List Char) :
    unescape (escapeTextChar c ++ rest) = c :: unescape rest := by
  unfold escapeTextChar
  split
  · rfl
  · rfl
  · rfl
  · next h _ _ => exact unescape_cons h rest

/-- Undoing the entities of a written text gives the text. -/
theorem unescape_escapeText (text rest : List Char) :
    unescape (escapeText text ++ rest) = text ++ unescape rest := by
  induction text with
  | nil => rfl
  | cons c text ih =>
    rw [escapeText, List.flatMap_cons, List.append_assoc, unescape_escapeTextChar]
    exact congrArg (c :: ·) ih

end Markup

/-! ## Labels -/

namespace Label

/-- What a label shows: its text, which visible text has on a line of its own. -/
def shown (l : Label Float) : List Char :=
  match l.placement with
  | .tooltip => l.text.toList
  | .text => '\n' :: l.text.toList ++ ['\n']

/-- What a label shows is escaped as its own text is; the line feeds that are set around a visible
one stay. -/
theorem escapeText_shown (l : Label Float) :
    Markup.escapeText l.shown = match l.placement with
      | .tooltip => Markup.escapeText l.text.toList
      | .text => '\n' :: Markup.escapeText l.text.toList ++ ['\n'] := by
  unfold shown
  split
  · rfl
  · simp [Markup.escapeText, Markup.escapeTextChar]

/-- The tags of a label with the characters after them, in front of something else. -/
def tagsWith (l : Label Float) (caption rest : List Char) : List (Tag × List Char) :=
  let attributes := l.attributes.map normalizedAttribute
  match l.placement with
  | .tooltip => [(.start "rect" attributes, ['\n']), (.start "title" [], caption),
      (.stop "title", ['\n']), (.stop "rect", rest)]
  | .text => [(.start "text" attributes, caption), (.stop "text", rest)]

/-- The markup of a label is read as its tags, with what comes after them behind the last one. -/
theorem readBefore_markup (l : Label Float) (r : Reading) :
    l.markup.readBefore r =
      ⟨[], l.tagsWith (Markup.escapeText l.shown) r.lead ++ r.tags⟩ := by
  rw [escapeText_shown, tagsWith]
  cases h : l.placement with
  | tooltip => exact readBefore_tooltip h r
  | text => exact readBefore_text h r

/-- What is written for a text is character data that stands for it. -/
theorem characterData_escapeText (text : List Char) :
    '<' ∉ Markup.escapeText text ∧ isCharacterData (Markup.escapeText text) = true ∧
      resolve? (Markup.escapeText text) = some text ∧
      Markup.unescape (Markup.escapeText text) = text := by
  have hresolve : resolve? (Markup.escapeText text) = some text := by
    have h := resolve?_escapeText text []
    rw [List.append_nil] at h
    rw [h]
    simp [resolve?, resolveFrom?]
  have hunescape := Markup.unescape_escapeText text []
  rw [List.append_nil, Markup.unescape, List.append_nil] at hunescape
  -- Without a `>` there is no end of a marked section.
  have hinfix : ¬ [']', ']', '>'] <:+: Markup.escapeText text :=
    fun h => (not_mem_escapeText text).2 (h.subset (by simp))
  exact ⟨(not_mem_escapeText text).1, by simp [isCharacterData, hresolve, hinfix], hresolve,
    hunescape⟩

end Label

/-! ## Drawings -/

/-- The caption that comes after a tag: a title, or visible text without the ends of the lines
around it. -/
def caption? : Tag × List Char → Option String
  | (.start "title" _, run) => some (String.ofList (Markup.unescape run))
  | (.start "text" _, run) => some (String.ofList (Markup.unescape run).tail.dropLast)
  | _ => none

/-- Captions are found in titles and texts only. -/
theorem skips_caption? {tag : String} (h : tag ≠ "title" ∧ tag ≠ "text") :
    Markup.Skips caption? tag := by
  intro attributes run
  refine ⟨?_, rfl, rfl⟩
  unfold caption?
  split
  · next heq =>
    cases heq
    exact absurd rfl h.1
  · next heq =>
    cases heq
    exact absurd rfl h.2
  · rfl

/-- A drawing carries the texts of its labels in their order. -/
theorem Canvas.filterMap_caption? (canvas : Canvas) (frame : Frame Float) :
    (canvas.reading frame).tags.filterMap caption? = frame.labels.map (·.text) := by
  have hpaint : ∀ (canvas : Canvas) (color : Color),
      Markup.Yields caption? [canvas.paint color] [] :=
    fun _ _ => .element (skips_caption? (by decide)) .nil
  have hline : ∀ l : Line Float, Markup.Yields caption? [l.markup] [] :=
    fun l => .element (skips_caption? (by decide)) .nil
  have hbox : ∀ b : NodeBox Float, Markup.Yields caption? [b.markup] [] :=
    fun b => .element (skips_caption? (by decide)) .nil
  have hlabel : ∀ l : Label Float, Markup.Yields caption? [l.markup] [l.text] := by
    intro l r
    obtain ⟨-, -, -, hcaption⟩ := Label.characterData_escapeText l.shown
    rw [Markup.tags_contentReadBefore_cons, l.readBefore_markup, Label.tagsWith]
    cases h : l.placement with
    | tooltip =>
      have hshown : l.shown = l.text.toList := by simp [Label.shown, h]
      change String.ofList (Markup.unescape (Markup.escapeText l.shown)) ::
        r.tags.filterMap caption? = _
      rw [hcaption, hshown, String.ofList_toList]
      rfl
    | text =>
      have hshown : l.shown.tail.dropLast = l.text.toList := by simp [Label.shown, h]
      change String.ofList (Markup.unescape (Markup.escapeText l.shown)).tail.dropLast ::
        r.tags.filterMap caption? = _
      rw [hcaption, hshown, String.ofList_toList]
      rfl
  have h := filterMap_reading (skips_caption? (by decide)) (skips_caption? (by decide)) hpaint
    hline hbox hlabel canvas frame
  rwa [List.flatMap_eq_nil_iff.2 fun _ _ => rfl, List.nil_append, ← List.map_eq_flatMap] at h

namespace Label

/-- Every label is read with the tags that are written for it, and with characters between them that
stand for what it shows: they open no tag, and each ampersand among them opens a reference. A
drawing has the texts of all its labels, in their order, so that drawings with different texts
differ. -/
theorem caption_read :
    (∀ l : Label Float,
      let caption := Markup.escapeText l.shown
      read? l.markup.chars = some ⟨[], l.tagsWith caption []⟩ ∧
        '<' ∉ caption ∧ isCharacterData caption = true ∧ resolve? caption = some l.shown ∧
        Markup.unescape caption = l.shown) ∧
    (∀ (canvas : Canvas) (frame : Frame Float),
      read? (canvas.text frame).toList = some (canvas.reading frame) ∧
      (canvas.reading frame).tags.filterMap caption? = frame.labels.map (·.text)) ∧
    ∀ (canvas canvas' : Canvas) (frame frame' : Frame Float),
      frame.labels.map (·.text) ≠ frame'.labels.map (·.text) →
      canvas.text frame ≠ canvas'.text frame' := by
  refine ⟨fun l => ⟨?_, characterData_escapeText l.shown⟩, fun canvas frame =>
    ⟨canvas.read?_text frame, canvas.filterMap_caption? frame⟩, ?_⟩
  · rw [Markup.read?_chars l.wellNamed_markup, l.readBefore_markup, List.append_nil]
  · intro canvas canvas' frame frame' hne htext
    have hread := canvas.read?_text frame
    rw [htext, canvas'.read?_text] at hread
    refine hne ?_
    rw [← canvas.filterMap_caption?, ← canvas'.filterMap_caption?, Option.some.inj hread]

/-- Titles that look like markup and like entities. -/
theorem caption_read_reserved :
    let label (text : String) : Label Float := .tooltip text ⟨0, 0, 1, 1⟩
    let canvas : Canvas := ⟨⟨960, 500⟩, none⟩
    let title := Markup.escapeText "</title>&lt;]]>".toList
    read? (label "</title>&lt;]]>").markup.chars =
        some ⟨[], (label "</title>&lt;]]>").tagsWith title []⟩ ∧
      ["&amp;"] ≠ ["&"] ∧
      canvas.text [.label (label "&amp;")] ≠ canvas.text [.label (label "&")] := by
  intro label canvas title
  obtain ⟨hlabels, -, hdrawings⟩ := caption_read
  have hne : ["&amp;"] ≠ ["&"] := by decide
  exact ⟨(hlabels (label "</title>&lt;]]>")).1, hne, hdrawings canvas canvas _ _ hne⟩

/-- Visible text is written on a line of its own. -/
theorem not_caption_read_visible :
    let l : Label Float := ⟨"gateway", ⟨0, 0, 40, 40⟩, .text, .black, 12⟩
    ∃ attributes, read? l.markup.chars =
        some ⟨[], [(.start "text" attributes, "\ngateway\n".toList), (.stop "text", [])]⟩ ∧
      Markup.unescape "\ngateway\n".toList ≠ l.text.toList := by
  intro l
  have hcaption : Markup.escapeText l.shown = "\ngateway\n".toList := by
    change Markup.escapeText ('\n' :: "gateway".toList ++ ['\n']) = _
    decide
  refine ⟨l.attributes.map normalizedAttribute, ?_, by decide⟩
  rw [Markup.read?_chars l.wellNamed_markup, l.readBefore_markup, List.append_nil, hcaption]
  rfl

end Label

end NeighborGraph
