import NeighborGraph.Proofs.Markup.Reading

/-!
# Written markup reads back

Whatever the values and texts in it are, a tree of markup with proper names is read as its tags, one
after the other, with the texts between them (`Markup.read?_chars`). Entities hide the characters
that end a value or open a tag, so that a value cannot leave its quotes and a text cannot leave its
element. Of a value only the spaces can change (`Xml.normalized`), and of a text nothing does.
-/

namespace NeighborGraph.Xml

open Markup

/-! ## Entities -/

/-- A character that begins no reference stands for itself. -/
theorem resolve?_cons {c : Char} (h : c ≠ '&') (rest : List Char) :
    resolve? (c :: rest) = (resolve? rest).map (c :: ·) := by
  simp [resolve?, resolveFrom?, h]

/-- What a character of a text is written as stands for this character. -/
theorem resolve?_escapeTextChar (c : Char) (rest : List Char) :
    resolve? (escapeTextChar c ++ rest) = (resolve? rest).map (c :: ·) := by
  unfold escapeTextChar
  split
  · rfl
  · rfl
  · rfl
  · next h _ _ => exact resolve?_cons h rest

/-- What a character of a value is written as stands for this character. -/
theorem resolve?_escapeValueChar (c : Char) (rest : List Char) :
    resolve? (escapeValueChar c ++ rest) = (resolve? rest).map (c :: ·) := by
  unfold escapeValueChar
  split
  · rfl
  · rfl
  · exact resolve?_escapeTextChar _ rest

/-- What is written character by character is resolved character by character. -/
theorem resolve?_flatMap {escape : Char → List Char}
    (hescape : ∀ c rest, resolve? (escape c ++ rest) = (resolve? rest).map (c :: ·))
    (text rest : List Char) :
    resolve? (text.flatMap escape ++ rest) = (resolve? rest).map (text ++ ·) := by
  induction text with
  | nil => simp
  | cons c text ih =>
    rw [List.flatMap_cons, List.append_assoc, hescape, ih, Option.map_map]
    rfl

/-- What a text is written as stands for this text, also in front of another one. -/
theorem resolve?_escapeText (text rest : List Char) :
    resolve? (escapeText text ++ rest) = (resolve? rest).map (text ++ ·) :=
  resolve?_flatMap resolve?_escapeTextChar text rest

/-- What a value is written as stands for this value. -/
theorem resolve?_escapeValue (value : List Char) : resolve? (escapeValue value) = some value := by
  have h := resolve?_flatMap resolve?_escapeValueChar value []
  rw [List.append_nil] at h
  rw [escapeValue, h]
  simp [resolve?, resolveFrom?]

/-- No character of a text is written with a mark of a tag. -/
theorem not_mem_escapeTextChar (c : Char) : '<' ∉ escapeTextChar c ∧ '>' ∉ escapeTextChar c := by
  unfold escapeTextChar
  split
  · decide
  · decide
  · decide
  · next hlt hgt => exact ⟨by simpa using Ne.symm hlt, by simpa using Ne.symm hgt⟩

/-- No text is written with a mark of a tag. -/
theorem not_mem_escapeText (text : List Char) : '<' ∉ escapeText text ∧ '>' ∉ escapeText text := by
  constructor <;> intro h <;> obtain ⟨c, -, hc⟩ := List.mem_flatMap.1 h
  · exact (not_mem_escapeTextChar c).1 hc
  · exact (not_mem_escapeTextChar c).2 hc

/-- No character of a written value opens a tag or ends the value. -/
theorem ne_of_mem_escapeValue {value : List Char} {c : Char} (h : c ∈ escapeValue value) :
    c ≠ '<' ∧ c ≠ '"' := by
  obtain ⟨d, -, hd⟩ := List.mem_flatMap.1 h
  unfold escapeValueChar at hd
  split at hd
  · constructor <;> rintro rfl <;> exact absurd hd (by decide)
  · constructor <;> rintro rfl <;> exact absurd hd (by decide)
  · next hquote _ =>
    refine ⟨fun hc => (not_mem_escapeTextChar d).1 (hc ▸ hd), ?_⟩
    rintro rfl
    unfold escapeTextChar at hd
    split at hd
    · exact absurd hd (by decide)
    · exact absurd hd (by decide)
    · exact absurd hd (by decide)
    · exact hquote (List.mem_singleton.1 hd).symm

/-! ## Spaces in values -/

/-- A character that does not end a line together with the next one is normalized by itself. -/
theorem normalized_cons {c : Char} {rest : List Char} (h : c = '\r' → rest.head? ≠ some '\n') :
    normalized (c :: rest) = (if isSpace c then ' ' else c) :: normalized rest := by
  rw [normalized]
  rintro tail rfl rfl
  exact h rfl rfl

/-- Characters that are no spaces stay as they are. -/
theorem normalized_append {a : List Char} (h : ∀ c ∈ a, isSpace c = false) (rest : List Char) :
    normalized (a ++ rest) = a ++ normalized rest := by
  induction a with
  | nil => rfl
  | cons c a ih =>
    obtain ⟨hc, ha⟩ := List.forall_mem_cons.1 h
    have hreturn : c ≠ '\r' := by
      rintro rfl
      exact absurd hc (by decide)
    rw [List.cons_append, normalized_cons (fun heq => absurd heq hreturn), ih ha, hc]
    rfl

/-- A character is written as itself, or else neither it nor anything written for it is a space. -/
theorem escapeValueChar_cases (c : Char) :
    escapeValueChar c = [c] ∨ isSpace c = false ∧ ∀ d ∈ escapeValueChar c, isSpace d = false := by
  unfold escapeValueChar escapeTextChar
  split
  · simp [isSpace]
  · simp [isSpace]
  · split
    · simp [isSpace]
    · simp [isSpace]
    · simp [isSpace]
    · exact .inl rfl

/-- A written value begins with the end of a line only if the value does. -/
theorem head?_of_head?_escapeValue {value : List Char}
    (h : (escapeValue value).head? = some '\n') : value.head? = some '\n' := by
  cases value with
  | nil => cases h
  | cons c rest =>
    rw [escapeValue, List.flatMap_cons] at h
    unfold escapeValueChar escapeTextChar at h
    split at h
    · exact absurd h (by simp)
    · exact absurd h (by simp)
    · split at h
      · exact absurd h (by simp)
      · exact absurd h (by simp)
      · exact absurd h (by simp)
      · exact h

/-- Whether spaces are made blanks before or after a value is written makes no difference. -/
theorem normalized_escapeValue (value : List Char) :
    normalized (escapeValue value) = escapeValue (normalized value) := by
  fun_induction normalized value with
  | case1 rest ih => exact congrArg (' ' :: ·) ih
  | case2 c rest h ih =>
    rw [escapeValue, List.flatMap_cons, escapeValue, List.flatMap_cons]
    rcases escapeValueChar_cases c with hself | ⟨hc, hspaces⟩
    -- The two characters of the end of a line are next to each other in the written value only if
    -- they are so in the value.
    · have hreturn : c = '\r' → (escapeValue rest).head? ≠ some '\n' := by
        intro hc hhead
        obtain ⟨tail, htail⟩ := List.head?_eq_some_iff.1 (head?_of_head?_escapeValue hhead)
        exact h tail hc htail
      have hblank : escapeValueChar (if isSpace c then ' ' else c) =
          [if isSpace c then ' ' else c] := by
        split
        · rfl
        · exact hself
      rw [hself, hblank]
      exact (normalized_cons hreturn).trans (congrArg _ ih)
    · rw [normalized_append hspaces, hc]
      exact congrArg _ ih
  | case3 => rfl

/-- A value that is escaped and then normalized stands for the normalized value. -/
theorem resolve?_normalized_escapeValue (value : List Char) :
    resolve? (normalized (escapeValue value)) = some (normalized value) := by
  rw [normalized_escapeValue, resolve?_escapeValue]

/-! ## Tags -/

/-- An attribute as it is read. -/
def normalizedAttribute (a : Attribute) : Attribute := (a.1, spaced a.2)

/-- A name begins with no space and with no mark of a tag. -/
theorem ne_of_isNameStart {c : Char} (h : isNameStart c = true) :
    isSpace c = false ∧ c ≠ '>' ∧ c ≠ '/' := by
  refine ⟨Bool.eq_false_iff.2 fun hspace => ?_, ?_, ?_⟩
  · simp only [isSpace, Bool.or_eq_true, beq_iff_eq] at hspace
    obtain ((rfl | rfl) | rfl) | rfl := hspace <;> exact absurd h (by decide)
  · rintro rfl
    exact absurd h (by decide)
  · rintro rfl
    exact absurd h (by decide)

/-- A name begins with a character of its own. -/
theorem exists_cons_of_isName {name : String} (h : isName name.toList = true) :
    ∃ c rest, name.toList = c :: rest ∧ isNameStart c = true ∧ rest.all isNameChar = true := by
  cases hname : name.toList with
  | nil =>
    rw [hname] at h
    cases h
  | cons c rest =>
    rw [hname] at h
    exact ⟨c, rest, rfl, Bool.and_eq_true_iff.1 h⟩

/-- In front of a name there is nothing to skip. -/
theorem skipSpaces_of_isName {name : String} (h : isName name.toList = true) (rest : List Char) :
    skipSpaces (name.toList ++ rest) = name.toList ++ rest := by
  obtain ⟨c, tail, hname, hc, -⟩ := exists_cons_of_isName h
  simp [hname, skipSpaces, ne_of_isNameStart hc]

/-- A name is not the end of a tag. -/
theorem readTagEnd?_of_isName {name : String} (h : isName name.toList = true) (rest : List Char) :
    readTagEnd? (name.toList ++ rest) = none := by
  obtain ⟨c, tail, hname, hc, -⟩ := exists_cons_of_isName h
  obtain ⟨-, hgt, hslash⟩ := ne_of_isNameStart hc
  rw [hname, List.cons_append]
  unfold readTagEnd?
  split
  · next heq => exact absurd (List.cons.inj heq).1 hgt
  · next heq => exact absurd (List.cons.inj heq).1 hslash
  · rfl

/-- A name ends where a character comes that cannot be in a name. -/
theorem readName?_append {name : String} (h : isName name.toList = true) {d : Char}
    (hd : isNameChar d = false) (rest : List Char) :
    readName? (name.toList ++ d :: rest) = some (name, d :: rest) := by
  obtain ⟨c, tail, hname, hc, htail⟩ := exists_cons_of_isName h
  have hmem := List.all_eq_true.1 htail
  have htext : String.ofList (c :: tail) = name := by rw [← hname, String.ofList_toList]
  rw [hname, List.cons_append]
  simp [readName?, hc, List.takeWhile_append_of_pos hmem, List.dropWhile_append_of_pos hmem, hd,
    htext]

/-- A value that is written in quotes is read as normalization leaves it. -/
theorem readValue?_written (value rest : List Char) :
    readValue? ('"' :: (escapeValue value ++ '"' :: rest)) =
      some (String.ofList (normalized value), rest) := by
  have hmem : ∀ c ∈ escapeValue value, (c != '"') = true :=
    fun c hc => bne_iff_ne.2 (ne_of_mem_escapeValue hc).2
  simp [readValue?, List.takeWhile_append_of_pos hmem, List.dropWhile_append_of_pos hmem,
    resolve?_normalized_escapeValue]

/-- A written attribute is read, and so is what comes after it. -/
theorem readAttribute?_written {a : Attribute} (h : isName a.1.toList = true) (rest : List Char) :
    readAttribute? (a.1.toList ++ '=' :: '"' :: (escapeValue a.2.toList ++ '"' :: rest)) =
      some (normalizedAttribute a, rest) := by
  have hequals : skipSpaces ('=' :: '"' :: (escapeValue a.2.toList ++ '"' :: rest)) =
      '=' :: '"' :: (escapeValue a.2.toList ++ '"' :: rest) := rfl
  have hquote : skipSpaces ('"' :: (escapeValue a.2.toList ++ '"' :: rest)) =
      '"' :: (escapeValue a.2.toList ++ '"' :: rest) := rfl
  rw [readAttribute?, readName?_append h (by decide)]
  simp only [hequals, hquote, readValue?_written, Option.map_some]
  rfl

/-- Written attributes are read up to the end of their tag. -/
theorem readAttributes?_written {attributes : List Attribute}
    (h : ∀ a ∈ attributes, isName a.1.toList = true) {ending : List Char}
    {tagEnd : Bool × List Char} (hspaces : skipSpaces ending = ending)
    (hend : readTagEnd? ending = some tagEnd) :
    readAttributes? (attributes.flatMap attributeChars ++ ending) =
      some (attributes.map normalizedAttribute, tagEnd) := by
  induction attributes with
  | nil =>
    rw [readAttributes?]
    simp [hspaces, hend]
  | cons a attributes ih =>
    obtain ⟨ha, hothers⟩ := List.forall_mem_cons.1 h
    have htext : (a :: attributes).flatMap attributeChars ++ ending =
        ' ' :: (a.1.toList ++ '=' :: '"' :: (escapeValue a.2.toList ++
          '"' :: (attributes.flatMap attributeChars ++ ending))) := by
      simp [attributeChars]
    have hskip : ∀ rest, skipSpaces (' ' :: (a.1.toList ++ rest)) = a.1.toList ++ rest :=
      fun rest => skipSpaces_of_isName ha rest
    rw [htext, readAttributes?, hskip, readTagEnd?_of_isName ha]
    simp only [List.head?_cons, Option.any_some, show isSpace ' ' = true from rfl, if_true]
    split
    · next b rest hread =>
      rw [readAttribute?_written ha] at hread
      obtain ⟨rfl, rfl⟩ := Prod.mk.inj (Option.some.inj hread)
      rw [ih hothers]
      rfl
    · next hread =>
      rw [readAttribute?_written ha] at hread
      cases hread

/-- Normalization leaves the names of attributes. -/
theorem map_normalizedAttribute_names (attributes : List Attribute) :
    (attributes.map normalizedAttribute).map (·.1) = attributes.map (·.1) := by
  rw [List.map_map]
  rfl

/-- A tag that opens an element, or is an empty one. -/
theorem readTag?_written {tag : String} (htag : isName tag.toList = true)
    {attributes : List Attribute} (h : ∀ a ∈ attributes, isName a.1.toList = true)
    (hnd : (attributes.map (·.1)).Nodup) {d : Char} {ending run : List Char} {isEmpty : Bool}
    (hd : isNameChar d = false) (hspaces : skipSpaces (d :: ending) = d :: ending)
    (hend : readTagEnd? (d :: ending) = some (isEmpty, run)) :
    readTag? (tagChars tag attributes ++ d :: ending) =
      some (if isEmpty then .empty tag (attributes.map normalizedAttribute)
        else .start tag (attributes.map normalizedAttribute), run) := by
  -- The name ends at the blank in front of the first attribute, or else at the end of the tag.
  obtain ⟨e, after, hafter, he⟩ : ∃ e after,
      attributes.flatMap attributeChars ++ d :: ending = e :: after ∧ isNameChar e = false := by
    cases attributes with
    | nil => exact ⟨d, ending, rfl, hd⟩
    | cons a attributes => exact ⟨' ', _, rfl, by decide⟩
  obtain ⟨c, tail, hname, hc, -⟩ := exists_cons_of_isName htag
  have hread := readName?_append htag he after
  rw [tagChars, List.append_assoc, hafter]
  unfold readTag?
  split
  · next heq =>
    rw [hname] at heq
    exact absurd (List.cons.inj heq).1 (ne_of_isNameStart hc).2.2
  · rw [hread, Option.bind_some, ← hafter]
    dsimp only
    rw [readAttributes?_written h hspaces hend, Option.bind_some]
    dsimp only
    rw [map_normalizedAttribute_names, if_pos hnd]

/-- An end tag is read as one. -/
theorem readTag?_stop {tag : String} (htag : isName tag.toList = true) (run : List Char) :
    readTag? ('/' :: (tag.toList ++ '>' :: run)) = some (.stop tag, run) := by
  have hname := readName?_append htag (d := '>') (by decide) run
  simp only [readTag?, hname, Option.bind_some]
  rfl

/-! ## Texts -/

/-- The reading of a text is found by cutting it; all characters between its tags stand for some
text, and none of them is a `>`. -/
structure Reads (text : List Char) (r : Reading) : Prop where
  pieces : ∃ pieces, text.splitOn '<' = r.lead :: pieces ∧ pieces.mapM readTag? = some r.tags
  plain : ∀ run ∈ r.lead :: r.tags.map (·.2), (resolve? run).isSome = true ∧ '>' ∉ run

/-- A text whose pieces are read is read as a whole. -/
theorem Reads.read? {text : List Char} {r : Reading} (h : Reads text r) : read? text = some r := by
  obtain ⟨⟨pieces, hcut, htags⟩, hplain⟩ := h
  have hdata : (r.lead :: r.tags.map (·.2)).all isCharacterData = true := by
    refine List.all_eq_true.2 fun run hrun => ?_
    obtain ⟨hresolved, hmark⟩ := hplain run hrun
    have hinfix : ¬ [']', ']', '>'] <:+: run := fun h => hmark (h.subset (by simp))
    simp [isCharacterData, hresolved, hinfix]
  simp only [Xml.read?, hcut, htags, Option.bind_some, hdata, if_true]

/-- A text without tags adds to the first piece of what follows it. -/
theorem splitOn_append {a : List Char} (h : '<' ∉ a) {rest lead : List Char}
    {pieces : List (List Char)} (hrest : rest.splitOn '<' = lead :: pieces) :
    (a ++ rest).splitOn '<' = (a ++ lead) :: pieces := by
  induction a with
  | nil => exact hrest
  | cons c a ih =>
    obtain ⟨hc, ha⟩ := not_or.1 (mt List.mem_cons.2 h)
    have hne : (c == '<') = false := by simpa using Ne.symm hc
    have ih := ih ha
    rw [List.splitOn_eq_splitOnP] at ih ⊢
    rw [List.cons_append, List.splitOnP_cons_eq_if_modifyHead, hne, ih]
    rfl

/-- A tag begins a new piece. -/
theorem splitOn_mark (text : List Char) :
    ('<' :: text).splitOn '<' = [] :: text.splitOn '<' := by
  rw [List.splitOn_eq_splitOnP, List.splitOnP_cons_eq_if_modifyHead]
  rfl

namespace Reads

variable {rest : List Char} {r : Reading}

/-- The empty text is read as nothing. -/
theorem nil : Reads [] ⟨[], []⟩ where
  pieces := ⟨[], rfl, rfl⟩
  plain := by
    intro run hrun
    obtain rfl := List.mem_singleton.1 hrun
    exact ⟨rfl, List.not_mem_nil⟩

/-- Text in front of a text adds to the characters in front of the first tag. -/
theorem text (h : Reads rest r) (text : List Char) :
    Reads (escapeText text ++ rest) ⟨escapeText text ++ r.lead, r.tags⟩ := by
  obtain ⟨⟨pieces, hcut, htags⟩, hplain⟩ := h
  obtain ⟨⟨hresolved, hmark⟩, hruns⟩ := List.forall_mem_cons.1 hplain
  refine ⟨⟨pieces, splitOn_append (not_mem_escapeText text).1 hcut, htags⟩,
    List.forall_mem_cons.2 ⟨⟨?_, ?_⟩, hruns⟩⟩
  · rw [resolve?_escapeText, Option.isSome_map]
    exact hresolved
  · exact fun hmem => (List.mem_append.1 hmem).elim (not_mem_escapeText text).2 hmark

/-- A tag in front of a text takes the characters in front of the first tag there. -/
theorem tag (h : Reads rest r) {piece : List Char} {tag : Tag} (hpiece : '<' ∉ piece)
    (htag : readTag? (piece ++ r.lead) = some (tag, r.lead)) :
    Reads ('<' :: (piece ++ rest)) ⟨[], (tag, r.lead) :: r.tags⟩ := by
  obtain ⟨⟨pieces, hcut, htags⟩, hplain⟩ := h
  refine ⟨⟨(piece ++ r.lead) :: pieces, ?_, ?_⟩,
    List.forall_mem_cons.2 ⟨⟨rfl, List.not_mem_nil⟩, hplain⟩⟩
  · rw [splitOn_mark, splitOn_append hpiece hcut]
  · rw [List.mapM_cons, htag, htags]
    rfl

end Reads

/-! ## Trees -/

/-- In a name there is no tag. -/
theorem not_mem_of_isName {name : String} (h : isName name.toList = true) : '<' ∉ name.toList := by
  obtain ⟨c, tail, hname, hc, htail⟩ := exists_cons_of_isName h
  rw [hname]
  intro hmem
  rcases List.mem_cons.1 hmem with rfl | hmem
  · exact absurd hc (by decide)
  · exact absurd (List.all_eq_true.1 htail _ hmem) (by decide)

/-- Between the marks of a tag there is no other tag. -/
theorem not_mem_tagChars {tag : String} (htag : isName tag.toList = true)
    {attributes : List Attribute} (h : ∀ a ∈ attributes, isName a.1.toList = true) :
    '<' ∉ tagChars tag attributes := by
  intro hmem
  rcases List.mem_append.1 hmem with hmem | hmem
  · exact not_mem_of_isName htag hmem
  · obtain ⟨a, ha, hmem⟩ := List.mem_flatMap.1 hmem
    have hvalue : '<' ∉ escapeValue a.2.toList := fun hmem => (ne_of_mem_escapeValue hmem).1 rfl
    simp [attributeChars, not_mem_of_isName (h a ha), hvalue] at hmem

end NeighborGraph.Xml

namespace NeighborGraph.Markup

open Xml

mutual

/-- The names of all tags and attributes in a piece of markup can be read, and no tag has two
attributes of one name. -/
def WellNamed : Markup → Prop
  | element tag attributes content =>
    isName tag.toList = true ∧ (∀ a ∈ attributes, isName a.1.toList = true) ∧
      (attributes.map (·.1)).Nodup ∧ ContentWellNamed content
  | inlineText _ | textLine _ => True

/-- All pieces are well-named. -/
def ContentWellNamed : List Markup → Prop
  | [] => True
  | piece :: rest => piece.WellNamed ∧ ContentWellNamed rest

end

mutual

/-- What is read of a piece of markup in front of something else. -/
def readBefore : Markup → Reading → Reading
  | element tag attributes content, r =>
    if content.isEmpty then
      ⟨[], (.empty tag (attributes.map normalizedAttribute), r.lead) :: r.tags⟩
    else
      let inner := contentReadBefore content
        ⟨closingBreak content, (.stop tag, r.lead) :: r.tags⟩
      ⟨[], (.start tag (attributes.map normalizedAttribute), inner.lead) :: inner.tags⟩
  | inlineText text, r | textLine text, r => ⟨escapeText text.toList ++ r.lead, r.tags⟩

/-- What is read of the pieces between two tags in front of something else. -/
def contentReadBefore : List Markup → Reading → Reading
  | [], r => r
  | piece :: rest, r =>
    let own := piece.readBefore (contentReadBefore rest r)
    if piece.isInline then own else ⟨'\n' :: own.lead, own.tags⟩

end

/-- An element without content is read as a single tag. -/
theorem readBefore_empty (tag : String) (attributes : List Attribute) (r : Reading) :
    (element tag attributes []).readBefore r =
      ⟨[], (.empty tag (attributes.map normalizedAttribute), r.lead) :: r.tags⟩ := by
  rw [readBefore]
  rfl

/-- The line feed in front of an end tag needs no escaping. -/
theorem escapeText_closingBreak (content : List Markup) :
    escapeText (closingBreak content) = closingBreak content := by
  unfold closingBreak
  split
  · split <;> rfl
  · rfl

mutual

/-- A piece of markup in front of a text is read as its tags and texts. -/
theorem reads_chars (m : Markup) (hm : m.WellNamed) {rest : List Char} {r : Reading}
    (h : Reads rest r) : Reads (m.chars ++ rest) (m.readBefore r) := by
  cases m with
  | element tag attributes content =>
    obtain ⟨htag, hattributes, hnd, hcontent⟩ := hm
    have hmark := not_mem_tagChars htag hattributes
    unfold chars readBefore
    split
    · have hend : readTagEnd? ('/' :: '>' :: r.lead) = some (true, r.lead) := rfl
      have hread := readTag?_written htag hattributes hnd (by decide) (by rfl) hend
      have hpiece : '<' ∉ tagChars tag attributes ++ ['/', '>'] := by simp [hmark]
      simpa using h.tag hpiece (by simpa using hread)
    · have hread : ∀ run, readTag? (tagChars tag attributes ++ '>' :: run) =
          some (.start tag (attributes.map normalizedAttribute), run) :=
        fun run => readTag?_written htag hattributes hnd (d := '>') (by decide) rfl rfl
      have hstart : '<' ∉ tagChars tag attributes ++ ['>'] := by simp [hmark]
      have hstop : '<' ∉ '/' :: (tag.toList ++ ['>']) := by simp [not_mem_of_isName htag]
      have hend : Reads ('<' :: ('/' :: (tag.toList ++ ['>']) ++ rest))
          ⟨[], (.stop tag, r.lead) :: r.tags⟩ :=
        h.tag hstop (by simpa using readTag?_stop htag r.lead)
      have hbreak := hend.text (closingBreak content)
      rw [escapeText_closingBreak, List.append_nil] at hbreak
      have hinner := reads_contentChars content hcontent hbreak
      simpa [endTagChars] using hinner.tag hstart (by simpa using hread _)
  | inlineText text =>
    rw [chars, readBefore]
    exact h.text text.toList
  | textLine text =>
    rw [chars, readBefore]
    exact h.text text.toList

/-- Some pieces of markup are read as what they are, whatever is read behind them. -/
theorem reads_contentChars (content : List Markup) (hcontent : ContentWellNamed content)
    {rest : List Char} {r : Reading} (h : Reads rest r) :
    Reads (contentChars content ++ rest) (contentReadBefore content r) := by
  cases content with
  | nil =>
    rw [contentChars, contentReadBefore]
    exact h
  | cons piece others =>
    obtain ⟨hpiece, hothers⟩ := hcontent
    have hown := reads_chars piece hpiece (reads_contentChars others hothers h)
    rw [contentChars, contentReadBefore]
    split
    · rw [List.append_assoc]
      exact hown
    · rw [List.append_assoc]
      exact hown.text ['\n']

end

/-- A well-named piece of markup is read as its tags and texts. -/
theorem read?_chars {m : Markup} (hm : m.WellNamed) :
    read? m.chars = some (m.readBefore ⟨[], []⟩) := by
  have h := (m.reads_chars hm .nil).read?
  rwa [List.append_nil] at h

end NeighborGraph.Markup
