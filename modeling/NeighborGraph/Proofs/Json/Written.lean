import NeighborGraph.Json.Printer
import NeighborGraph.Json.Record
import NeighborGraph.Proofs.Json.Numbers
import NeighborGraph.Proofs.Json.Strings
import NeighborGraph.Proofs.Scalar.Magnitudes

/-!
# Texts that are taken back

A text is taken (`Takes`) if its reader stops right behind it wherever it stands, so that what has
been read of a list or a record does not depend on what follows. Texts, numbers, lists and records
are taken as they are written; a record is, if its members fill it (`Fills`). Only a floating value
can be found to be another one, or nothing, and what comes of everything around it is then told by
the same statement.
-/

namespace NeighborGraph.Json

variable {α β σ : Type}

/-- Wherever the text stands, behind blanks and before a text that no number goes on with, the
reader takes it and finds `found?` in it; if this is nothing, the reader refuses the text. -/
def Takes (read : Reader α) (text : List Char) (found? : Option α) : Prop :=
  ∀ gap rest, (∀ c ∈ gap, isBlank c = true) → Parted rest →
    (read (gap ++ (text ++ rest))).toOption = found?.map fun found => (found, rest)

/-- Blanks in front of a text that does not begin with one are skipped, and only these. -/
theorem skipBlanks_gap {gap : List Char} (hgap : ∀ c ∈ gap, isBlank c = true) {c : Char}
    (hc : isBlank c = false) (rest : List Char) : skipBlanks (gap ++ c :: rest) = c :: rest := by
  rw [skipBlanks, List.dropWhile_append_of_pos hgap, List.dropWhile_cons_of_neg (by simp [hc])]

/-- A line break and what indents the next line are blank. -/
theorem isBlank_lineBreak (level : Nat) : ∀ c ∈ lineBreak level, isBlank c = true := by
  intro c h
  rcases List.mem_cons.1 h with rfl | h
  · decide
  · rw [List.eq_of_mem_replicate h]
    decide

/-- A digit is not blank. -/
theorem isBlank_of_isDigit {c : Char} (h : c.isDigit = true) : isBlank c = false := by
  rw [Bool.eq_false_iff]
  intro hblank
  simp only [isBlank, Bool.or_eq_true, beq_iff_eq] at hblank
  rcases hblank with ((rfl | rfl) | rfl) | rfl <;> exact absurd h (by decide)

/-! ## Scalars -/

/-- A text that is written is read again. -/
theorem takes_text (text : String) : Takes readText (stringChars text) (some text) := by
  intro gap rest hgap _
  rw [stringChars, List.append_assoc, List.cons_append, readText, skipBlanks_gap hgap (by decide)]
  change (readString _).toOption = _
  rw [List.singleton_append, readString_stringChars]
  rfl

/-- A text that may be missing is taken if it is there. -/
theorem Takes.option {read : Reader α} {c : Char} {text : List Char} {found? : Option α}
    (h : Takes read (c :: text) found?) (hblank : isBlank c = false) (hc : c ≠ 'n') :
    Takes (readOption read) (c :: text) (found?.map some) := by
  intro gap rest hgap hrest
  have hread := h [] rest (by simp) hrest
  rw [List.cons_append, readOption, skipBlanks_gap hgap hblank]
  rw [List.nil_append, List.cons_append] at hread
  split
  · next heq => exact absurd (List.cons.inj heq).1 hc
  · rw [Except.toOption_bind, hread]
    cases found? <;> rfl

/-- A number begins with a digit, perhaps behind a sign. -/
theorem toOption_readNumberAs {gap : List Char} (hgap : ∀ c ∈ gap, isBlank c = true) {c : Char}
    (hc : c.isDigit = true) (negative : Bool) (expected : String)
    (convert : Number → Option (Option α)) (rest : List Char) :
    (readNumberAs expected convert (gap ++ (signText negative ++ c :: rest))).toOption =
      (readNumber negative (c :: rest)).toOption.bind fun (number, rest) =>
        (convert number).bind fun value? => value?.map fun value => (value, rest) := by
  have hskip : skipBlanks (gap ++ (signText negative ++ c :: rest)) =
      signText negative ++ c :: rest := by
    cases negative with
    | true => exact skipBlanks_gap hgap (by decide) _
    | false => exact skipBlanks_gap hgap (isBlank_of_isDigit hc) _
  rw [readNumberAs, hskip]
  cases negative with
  | true =>
    refine (Except.toOption_bind _ _).trans (congrArg _ (funext fun (number, rest) => ?_))
    dsimp only
    rcases convert number with _ | _ | _ <;> rfl
  | false =>
    rw [signText, if_neg (by decide), List.nil_append]
    split
    · next heq =>
      cases heq
      exact absurd hc (by decide)
    · next heq =>
      cases heq
      rw [if_pos hc]
      refine (Except.toOption_bind _ _).trans (congrArg _ (funext fun (number, rest) => ?_))
      dsimp only
      rcases convert number with _ | _ | _ <;> rfl
    · next heq => cases heq

/-- A natural number that fits into 64 bits is read again. -/
theorem takes_natural {n : Nat} (hn : n < wordLimit) (expected : String) :
    Takes (readNatural expected) (decimalText n) (some n) := by
  intro gap rest hgap hrest
  have hread := readNumber_decimalText hn hrest
  obtain ⟨c, digits, hdigits⟩ := List.exists_cons_of_ne_nil (Nat.toDigits_ne_nil (n := n) (b := 10))
  have hc : c.isDigit = true := isDigit_of_mem_decimalText (n := n) (by simp [decimalText, hdigits])
  rw [decimalText, hdigits, List.cons_append] at hread ⊢
  refine (toOption_readNumberAs hgap hc false expected _ (digits ++ rest)).trans ?_
  rw [hread]
  rfl

/-- What is no number is written as null, which is read as nothing. -/
theorem takes_null_float : Takes readFloat ['n', 'u', 'l', 'l'] none := by
  intro gap rest hgap _
  rw [readFloat, readNumberAs, List.cons_append, skipBlanks_gap hgap (by decide)]
  rfl

/-- A number that is written is read as far as such numbers are. -/
theorem takes_float (value : Float) : Takes readFloat (floatChars value) (reread? value) := by
  -- What is found does not depend on what stands around the text, so that it is what is found
  -- where nothing does.
  suffices h : ∃ found?, Takes readFloat (floatChars value) found? by
    obtain ⟨found?, h⟩ := h
    have halone := h [] [] (by simp) parted_nil
    rw [List.nil_append, List.append_nil] at halone
    rw [reread?, halone]
    cases found? <;> exact h
  rw [floatChars]
  cases BinaryNumber.ofDouble value with
  | nan => exact ⟨none, takes_null_float⟩
  | infinite _ => exact ⟨none, takes_null_float⟩
  | finite negative m =>
    obtain ⟨whole, tail, htext, hwhole, htail⟩ := (m.shortest .toEven).shape_documentText
    obtain ⟨found?, hfound⟩ := htail.spans_readNumber hwhole negative
    refine ⟨found?.map Number.toFloat, fun gap rest hgap hrest => ?_⟩
    have hread := hfound rest hrest
    rw [BinaryNumber.documentText?, Option.getD_some, htext]
    obtain ⟨c, digits, rfl, hc⟩ := hwhole.exists_cons
    rw [List.cons_append, List.cons_append] at hread
    rw [List.cons_append, List.append_assoc, List.cons_append, readFloat,
      toOption_readNumberAs hgap hc, hread]
    cases found? <;> rfl

/-- Only finite values are found again. -/
theorem isFinite_of_reread? {value found : Float} (h : reread? value = some found) :
    value.isFinite = true := by
  rw [reread?, floatChars] at h
  cases hvalue : BinaryNumber.ofDouble value with
  | nan =>
    rw [hvalue] at h
    cases h
  | infinite _ =>
    rw [hvalue] at h
    cases h
  | finite negative m => exact Double.isFinite_of_ofDouble hvalue

/-! ## Where values begin -/

/-- A value begins with no blank, comma or closing bracket. -/
theorem Value.chars_eq_cons (v : Value) (level : Nat) :
    ∃ c rest, v.chars level = c :: rest ∧ isBlank c = false ∧ c ≠ ',' ∧ c ≠ ']' := by
  have hdigit : ∀ c : Char, c.isDigit = true → isBlank c = false ∧ c ≠ ',' ∧ c ≠ ']' := by
    intro c hc
    refine ⟨isBlank_of_isDigit hc, ?_, ?_⟩ <;>
      · rintro rfl
        exact absurd hc (by decide)
  cases v with
  | null => exact ⟨'n', _, rfl, by decide⟩
  | natural n =>
    obtain ⟨c, digits, hdigits⟩ :=
      List.exists_cons_of_ne_nil (Nat.toDigits_ne_nil (n := n) (b := 10))
    have hmem : c ∈ decimalText n := by simp [decimalText, hdigits]
    exact ⟨c, digits, hdigits, hdigit c (isDigit_of_mem_decimalText hmem)⟩
  | floating value =>
    rw [Value.chars, floatChars]
    cases BinaryNumber.ofDouble value with
    | nan => exact ⟨'n', _, rfl, by decide⟩
    | infinite _ => exact ⟨'n', _, rfl, by decide⟩
    | finite negative m =>
      obtain ⟨whole, tail, htext, hwhole, -⟩ := (m.shortest .toEven).shape_documentText
      obtain ⟨c, digits, rfl, hc⟩ := hwhole.exists_cons
      rw [BinaryNumber.documentText?, Option.getD_some, htext]
      cases negative with
      | true => exact ⟨'-', _, rfl, by decide⟩
      | false => exact ⟨c, _, rfl, hdigit c hc⟩
  | text value => exact ⟨'"', _, rfl, by decide⟩
  | list items =>
    cases items with
    | nil => exact ⟨'[', _, rfl, by decide⟩
    | cons item items => exact ⟨'[', _, rfl, by decide⟩
  | map members =>
    cases members with
    | nil => exact ⟨'\x7b', _, rfl, by decide⟩
    | cons member members => exact ⟨'\x7b', _, rfl, by decide⟩

/-! ## Lists -/

/-- A number ends before a line break. -/
theorem parted_lineBreak (level : Nat) (rest : List Char) : Parted (lineBreak level ++ rest) :=
  parted_cons (by decide)

/-- A number ends before the items behind it, and before the end of the list. -/
theorem parted_itemsChars (level outer : Nat) (items : List Value) (rest : List Char) :
    Parted (itemsChars level items ++ (lineBreak outer ++ rest)) := by
  cases items with
  | nil => exact parted_lineBreak outer rest
  | cons item items => exact parted_cons (by decide)

/-- A list ends with its bracket. -/
theorem readItems_end {gap : List Char} (hgap : ∀ c ∈ gap, isBlank c = true) (read : Reader α)
    (fuel : Nat) (before : List α) (rest : List Char) :
    readItems read (fuel + 1) before (gap ++ ']' :: rest) = .ok (before.reverse, rest) := by
  rw [readItems, skipBlanks_gap hgap (by decide)]
  rfl

/-- The first item of a list is read where it begins. -/
theorem readItems_first {gap : List Char} (hgap : ∀ c ∈ gap, isBlank c = true) {c : Char}
    (hc : isBlank c = false ∧ c ≠ ',' ∧ c ≠ ']') (read : Reader α) (fuel : Nat) (rest : List Char) :
    readItems read (fuel + 1) [] (gap ++ c :: rest) =
      read (c :: rest) >>= fun (item, rest) => readItems read fuel [item] rest := by
  obtain ⟨hblank, hcomma, hbracket⟩ := hc
  rw [readItems, skipBlanks_gap hgap hblank]
  dsimp only
  split
  · next heq => cases heq
  · next heq => exact absurd (List.cons.inj heq).1 hbracket
  · next heq => exact absurd (List.cons.inj heq).1 hcomma
  · rfl

/-- An item behind a comma is read where it begins. -/
theorem readItems_later {gap : List Char} (hgap : ∀ c ∈ gap, isBlank c = true) {c : Char}
    (hc : isBlank c = false ∧ c ≠ ',' ∧ c ≠ ']') (read : Reader α) (fuel : Nat) {before : List α}
    (hbefore : before ≠ []) (rest : List Char) :
    readItems read (fuel + 1) before (',' :: (gap ++ c :: rest)) =
      read (c :: rest) >>= fun (item, rest) => readItems read fuel (item :: before) rest := by
  obtain ⟨hblank, -, hbracket⟩ := hc
  have hcomma : skipBlanks (',' :: (gap ++ c :: rest)) = ',' :: (gap ++ c :: rest) :=
    skipBlanks_gap (List.forall_mem_nil _) (by decide) _
  rw [readItems, hcomma]
  refine (if_neg (by simpa using hbefore)).trans ?_
  rw [skipBlanks_gap hgap hblank]
  split
  · next heq => cases heq
  · next heq => exact absurd (List.cons.inj heq).1 hbracket
  · rfl

variable {write : β → Value} {read : Reader α} {found? : β → Option α}

/-- Items are read one after another, behind those that have been read before. -/
theorem readItems_itemsChars {items : List β}
    (hitems : ∀ b ∈ items, ∀ level, Takes read ((write b).chars level) (found? b))
    (level outer : Nat) (rest : List Char) {before : List α} (hbefore : before ≠ []) {fuel : Nat}
    (hfuel : items.length < fuel) :
    (readItems read fuel before
      (itemsChars level (items.map write) ++ (lineBreak outer ++ ']' :: rest))).toOption =
        (items.mapM found?).map fun found => (before.reverse ++ found, rest) := by
  induction items generalizing before fuel with
  | nil =>
    obtain ⟨fuel, rfl⟩ : ∃ n, fuel = n + 1 := ⟨fuel - 1, by omega⟩
    rw [List.map_nil, itemsChars, List.nil_append,
      readItems_end (isBlank_lineBreak _)]
    simp [Except.toOption]
  | cons b items ih =>
    rw [List.length_cons] at hfuel
    obtain ⟨fuel, rfl⟩ : ∃ n, fuel = n + 1 := ⟨fuel - 1, by omega⟩
    obtain ⟨c, text, htext, hc⟩ := (write b).chars_eq_cons level
    have hread := hitems b (List.mem_cons_self ..) level [] _ (List.forall_mem_nil _)
      (parted_itemsChars level outer (items.map write) (']' :: rest))
    rw [htext, List.nil_append, List.cons_append] at hread
    rw [List.map_cons, itemsChars, htext]
    simp only [List.cons_append, List.append_assoc]
    rw [readItems_later (isBlank_lineBreak _) hc _ _ hbefore, Except.toOption_bind,
      hread, List.mapM_cons]
    cases found? b with
    | none => rfl
    | some found =>
      refine (ih (fun b hb => hitems b (List.mem_cons_of_mem _ hb)) (List.cons_ne_nil found before)
        (by omega)).trans ?_
      cases items.mapM found? <;> simp

/-- There are no more items than characters that write them. -/
theorem length_le_length_itemsChars (level : Nat) (items : List Value) :
    items.length ≤ (itemsChars level items).length := by
  induction items with
  | nil => exact Nat.zero_le _
  | cons item items ih =>
    rw [itemsChars]
    simp only [List.length_cons, List.length_append, List.cons_append]
    omega

/-- A list is taken if all of its items are. -/
theorem takes_list {items : List β}
    (hitems : ∀ b ∈ items, ∀ level, Takes read ((write b).chars level) (found? b)) (level : Nat) :
    Takes (readList read) ((Value.list (items.map write)).chars level) (items.mapM found?) := by
  intro gap rest hgap _
  cases items with
  | nil =>
    rw [List.map_nil, Value.chars, readList, List.cons_append, skipBlanks_gap hgap (by decide)]
    rfl
  | cons b items =>
    obtain ⟨c, text, htext, hc⟩ := (write b).chars_eq_cons (level + 1)
    have hread := hitems b (List.mem_cons_self ..) (level + 1) [] _ (List.forall_mem_nil _)
      (parted_itemsChars (level + 1) level (items.map write) (']' :: rest))
    rw [htext, List.nil_append, List.cons_append] at hread
    rw [List.map_cons, Value.chars, htext]
    simp only [List.cons_append, List.append_assoc, List.nil_append]
    rw [readList, skipBlanks_gap hgap (by decide)]
    refine (Except.toOption_mapError _ _).trans ?_
    rw [readItems_first (isBlank_lineBreak _) hc, Except.toOption_bind, hread,
      List.mapM_cons]
    cases found? b with
    | none => rfl
    | some found =>
      refine (readItems_itemsChars (fun b hb => hitems b (List.mem_cons_of_mem _ hb)) (level + 1)
        level rest (List.cons_ne_nil found []) ?_).trans ?_
      · have := length_le_length_itemsChars (level + 1) (items.map write)
        simp only [List.length_map, List.length_append, List.length_cons] at this ⊢
        omega
      · cases items.mapM found? <;> rfl

/-! ## Records -/

/-- The members fill a record: each is written for a field that has not been seen, and in the end no
field is missing. The record that comes of it is nothing if a member is refused. -/
inductive Fills (form : RecordForm σ) :
    List String → σ → List (String × Value) → Option σ → Prop
  | complete {seen : List String} {record : σ} : form.missing? seen = none →
    Fills form seen record [] (some record)
  | taken {seen : List String} {record : σ} {key : String} {value : Value} {field : Field σ}
    {put : σ → σ} {members : List (String × Value)} {found? : Option σ} :
    (form.fields.find? fun field => field.name == key) = some field → key ∉ seen →
    (∀ level, Takes field.read (value.chars level) (some put)) →
    Fills form (key :: seen) (put record) members found? →
    Fills form seen record ((key, value) :: members) found?
  | refused {seen : List String} {record : σ} {key : String} {value : Value} {field : Field σ}
    {members : List (String × Value)} :
    (form.fields.find? fun field => field.name == key) = some field → key ∉ seen →
    (∀ level, Takes field.read (value.chars level) none) →
    Fills form seen record ((key, value) :: members) none

/-- A field takes what its reader takes, and puts it into the record. -/
theorem Takes.field {read : Reader α} {text : List Char} {found? : Option α}
    (h : Takes read text found?) (name : String) (put : α → σ → σ) :
    Takes (Field.optional name read put).read text (found?.map put) := by
  intro gap rest hgap hrest
  refine (Except.toOption_map _ _).trans ?_
  rw [h gap rest hgap hrest]
  cases found? <;> rfl

variable {form : RecordForm σ} {seen : List String} {record : σ}

/-- A member is read up to the end of its value. -/
theorem toOption_readMember {key : String} {value : Value} {field : Field σ}
    {put? : Option (σ → σ)}
    (hfield : (form.fields.find? fun field => field.name == key) = some field)
    (hnew : key ∉ seen) {level : Nat} (hvalue : Takes field.read (value.chars level) put?)
    {rest : List Char} (hrest : Parted rest) :
    (readMember form seen record (key.toList.flatMap stringChar ++ '"' :: ':' :: ' ' ::
      (value.chars level ++ rest))).toOption =
        put?.map fun put => (put record, key :: seen, rest) := by
  have hread := hvalue [' '] rest (by simp [isBlank]) hrest
  rw [List.singleton_append] at hread
  rw [readMember, readString_stringChars]
  refine (Except.toOption_bind _ _).trans ?_
  dsimp only [Except.toOption, Option.bind_some]
  rw [hfield]
  dsimp only
  rw [if_neg (by simpa using hnew)]
  change ((field.read (' ' :: (value.chars level ++ rest)) >>= _).toOption) = _
  rw [Except.toOption_bind, hread]
  cases put? <;> rfl

/-- An object ends with its brace if no field is missing. -/
theorem readMembers_end {gap : List Char} (hgap : ∀ c ∈ gap, isBlank c = true)
    (hseen : form.missing? seen = none) (fuel : Nat) (first : Bool) (rest : List Char) :
    readMembers form (fuel + 1) first seen record (gap ++ '\x7d' :: rest) = .ok (record, rest) := by
  rw [readMembers, skipBlanks_gap hgap (by decide), hseen]
  rfl

/-- The first member of an object is read behind the quote of its key. -/
theorem readMembers_first {gap : List Char} (hgap : ∀ c ∈ gap, isBlank c = true) (fuel : Nat)
    (rest : List Char) :
    readMembers form (fuel + 1) true seen record (gap ++ '"' :: rest) =
      readMember form seen record rest >>= fun (record, seen, rest) =>
        readMembers form fuel false seen record rest := by
  rw [readMembers, skipBlanks_gap hgap (by decide)]
  rfl

/-- A member behind a comma is read behind the quote of its key. -/
theorem readMembers_later {gap : List Char} (hgap : ∀ c ∈ gap, isBlank c = true) (fuel : Nat)
    (rest : List Char) :
    readMembers form (fuel + 1) false seen record (',' :: (gap ++ '"' :: rest)) =
      readMember form seen record rest >>= fun (record, seen, rest) =>
        readMembers form fuel false seen record rest := by
  have hcomma : skipBlanks (',' :: (gap ++ '"' :: rest)) = ',' :: (gap ++ '"' :: rest) :=
    skipBlanks_gap (List.forall_mem_nil _) (by decide) _
  rw [readMembers, hcomma]
  refine (if_neg Bool.false_ne_true).trans ((if_pos (by decide)).trans ?_)
  rw [skipBlanks_gap hgap (by decide)]
  rfl

/-- A number ends before the members behind it, and before the end of the object. -/
theorem parted_membersChars (level outer : Nat) (members : List (String × Value))
    (rest : List Char) : Parted (membersChars level members ++ (lineBreak outer ++ rest)) := by
  cases members with
  | nil => exact parted_lineBreak outer rest
  | cons member members => exact parted_cons (by decide)

/-- There are no more members than characters that write them. -/
theorem length_le_length_membersChars (level : Nat) (members : List (String × Value)) :
    members.length ≤ (membersChars level members).length := by
  induction members with
  | nil => exact Nat.zero_le _
  | cons member members ih =>
    rw [membersChars]
    simp only [List.length_cons, List.length_append, List.cons_append]
    omega

/-- A member is written behind a comma and a line break, its key in quotes and with a colon. -/
theorem membersChars_cons (level : Nat) (key : String) (value : Value)
    (members : List (String × Value)) (rest : List Char) :
    membersChars level ((key, value) :: members) ++ rest =
      ',' :: (lineBreak level ++ '"' :: (key.toList.flatMap stringChar ++ '"' :: ':' :: ' ' ::
        (value.chars level ++ (membersChars level members ++ rest)))) := by
  simp [membersChars, stringChars]

/-- Members are read one after another. -/
theorem Fills.readMembers {members : List (String × Value)} {found? : Option σ}
    (h : Fills form seen record members found?) (level outer : Nat) (rest : List Char) {fuel : Nat}
    (hfuel : members.length < fuel) :
    (readMembers form fuel false seen record
      (membersChars level members ++ (lineBreak outer ++ '\x7d' :: rest))).toOption =
        found?.map fun found => (found, rest) := by
  induction h generalizing fuel with
  | complete hseen =>
    obtain ⟨fuel, rfl⟩ : ∃ n, fuel = n + 1 := ⟨fuel - 1, by omega⟩
    rw [membersChars, List.nil_append, readMembers_end (isBlank_lineBreak _) hseen]
    rfl
  | @taken seen record key value field put members found? hfield hnew hvalue _ ih =>
    rw [List.length_cons] at hfuel
    obtain ⟨fuel, rfl⟩ : ∃ n, fuel = n + 1 := ⟨fuel - 1, by omega⟩
    rw [membersChars_cons, readMembers_later (isBlank_lineBreak level), Except.toOption_bind,
      toOption_readMember hfield hnew (hvalue level) (parted_membersChars level outer members _)]
    exact ih (by omega)
  | @refused seen record key value field members hfield hnew hvalue =>
    rw [List.length_cons] at hfuel
    obtain ⟨fuel, rfl⟩ : ∃ n, fuel = n + 1 := ⟨fuel - 1, by omega⟩
    rw [membersChars_cons, readMembers_later (isBlank_lineBreak level), Except.toOption_bind,
      toOption_readMember hfield hnew (hvalue level) (parted_membersChars level outer members _)]
    rfl

/-- A record is taken if it is written with members that fill it. -/
theorem Fills.takes {key : String} {value : Value} {members : List (String × Value)}
    {found? : Option σ} (h : Fills form [] form.start ((key, value) :: members) found?)
    (level : Nat) :
    Takes (readRecord form) ((Value.map ((key, value) :: members)).chars level) found? := by
  intro gap rest hgap _
  have hlength := length_le_length_membersChars (level + 1) members
  simp only [Value.chars, stringChars, List.cons_append, List.append_assoc, List.nil_append]
  rw [readRecord, skipBlanks_gap hgap (by decide)]
  refine (Except.toOption_mapError _ _).trans ?_
  rw [readMembers_first (isBlank_lineBreak (level + 1)),
    ← readMembers_later (isBlank_lineBreak (level + 1)), ← membersChars_cons]
  refine h.readMembers (level + 1) level rest ?_
  simp only [List.length_cons, List.length_append]
  omega

end NeighborGraph.Json
