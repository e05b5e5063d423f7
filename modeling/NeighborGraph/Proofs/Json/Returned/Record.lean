import NeighborGraph.Proofs.Json.Returned.Skip

/-!
# Records in front of a carriage return

A record is read alike whether a carriage return is behind the text or not, if its fields are
(`readsReturned_readRecord`). For a record that is to fill the whole text the carriage return does
not matter at all (`ReadsReturned.toOption_readWhole`).
-/

namespace NeighborGraph.Json

open Except

variable {α σ : Type} {text rest : List Char}

/-- Texts are read alike. -/
theorem readsReturned_readText : ReadsReturned readText := by
  intro text
  unfold readText
  cases h : skipBlanks text with
  | nil =>
    rw [skipBlanks_returned_nil h]
    exact .error _ _
  | cons c rest =>
    obtain ⟨hreturned, hlength⟩ := skipBlanks_returned_cons h
    rw [hreturned]
    split
    · next heq =>
      cases heq
      exact (readString_returned rest).mono (Finds.mono (by omega))
    · next hne =>
      split
      · next heq =>
        cases heq
        exact absurd rfl (hne _)
      · exact .error _ _

/-- What becomes of a number that has been read. -/
def converted (expected : String) (convert : Number → Option (Option α)) :
    Number × List Char → Except Fault (α × List Char)
  | (number, rest) =>
    match convert number with
    | some (some value) => .ok (value, rest)
    | some none => .error (.beforeNext (.wrongValue number.found expected) rest)
    | none => .error (.beforeNext (.wrongType number.found expected) rest)

/-- A number that begins with a minus is read behind it. -/
theorem readNumberAs_minus (h : skipBlanks text = '-' :: rest) (expected : String)
    (convert : Number → Option (Option α)) :
    readNumberAs expected convert text = readNumber true rest >>= converted expected convert := by
  rw [readNumberAs, h]
  rfl

/-- A number without a minus begins with a digit; nothing else is a number. -/
theorem readNumberAs_digit {c : Char} (hc : c ≠ '-') (h : skipBlanks text = c :: rest)
    (expected : String) (convert : Number → Option (Option α)) :
    readNumberAs expected convert text =
      if c.isDigit then readNumber false (c :: rest) >>= converted expected convert
      else .error (wrongType expected (c :: rest)) := by
  rw [readNumberAs, h]
  split
  · next heq => simp_all
  · next heq =>
    cases heq
    rfl
  · contradiction

/-- Numbers are read alike, whatever they are converted to. -/
theorem readsReturned_readNumberAs (expected : String) (convert : Number → Option (Option α)) :
    ReadsReturned (readNumberAs expected convert) := by
  intro text
  have hconverted : ∀ r f : Number × List Char, Finds text.length r f →
      Alike (Finds text.length) (converted expected convert r) (converted expected convert f) := by
    rintro _ _ ⟨number, rest, hrest⟩
    unfold converted
    dsimp only
    split
    · exact .ok (.mk _ rest hrest)
    all_goals exact .error _ _
  cases h : skipBlanks text with
  | nil =>
    unfold readNumberAs
    rw [h, skipBlanks_returned_nil h]
    exact .error _ _
  | cons c rest =>
    obtain ⟨hreturned, hlength⟩ := skipBlanks_returned_cons h
    by_cases hc : c = '-'
    · subst hc
      rw [readNumberAs_minus h, readNumberAs_minus hreturned]
      exact ((readsReturned_readNumber true rest).mono (Finds.mono (by omega))).bind
        hconverted
    · rw [readNumberAs_digit hc h, readNumberAs_digit hc hreturned]
      split
      · exact ((readsReturned_readNumber false (c :: rest)).mono
          (Finds.mono (Nat.succ_le_of_lt hlength))).bind hconverted
      · exact .error _ _

/-- All fields of the record are read alike whether a carriage return is behind the text or not. -/
def RecordForm.ReadsReturned (form : RecordForm σ) : Prop :=
  ∀ field ∈ form.fields, Json.ReadsReturned field.read

/-- A mandatory field is read alike if its values are. -/
theorem ReadsReturned.mandatory {read : Reader α} (hread : ReadsReturned read) (name : String)
    (put : α → σ → σ) : ReadsReturned (Field.mandatory name read put).read := by
  intro text
  refine (hread text).map ?_
  rintro _ _ ⟨value, rest, hrest⟩
  exact .mk (put value) rest hrest

variable {form : RecordForm σ}

/-- A member of an object is read alike, and takes up some of the text. -/
theorem readMember_returned (hform : form.ReadsReturned) (seen : List String) (record : σ)
    (text : List Char) :
    Alike (fun r f => r.1 = f.1 ∧ Finds (text.length - 1) r.2 f.2)
      (readMember form seen record (text ++ ['\r'])) (readMember form seen record text) := by
  refine (readString_returned text).bind ?_
  rintro _ _ ⟨key, rest, hrest⟩
  dsimp only
  split
  · next field hfield =>
    split
    · exact .error _ _
    · refine (expectColon_returned rest).bind ?_
      rintro _ rest₁ ⟨_, hrest₁⟩
      refine (hform field (List.mem_of_find?_eq_some hfield) rest₁).bind ?_
      rintro _ _ ⟨put, rest₂, hrest₂⟩
      exact .ok ⟨rfl, .mk _ rest₂ (by omega)⟩
  · refine (expectColon_returned rest).bind ?_
    rintro _ rest₁ ⟨_, hrest₁⟩
    refine (skipValue_returned rest₁).bind ?_
    rintro _ rest₂ ⟨_, hrest₂⟩
    exact .ok ⟨rfl, .mk _ rest₂ (by omega)⟩

/-- What comes first in a list, or after a comma. -/
theorem nextElement_cons {c : Char} (h : skipBlanks text = c :: rest) (first : Bool) :
    nextElement first text =
      if c = ']' then .ok (false, ']' :: rest)
      else if first then .ok (true, c :: rest)
      else if c = ',' then
        match skipBlanks rest with
        | [] => .error (.onNext .endInValue [])
        | ']' :: tail => .error (.onNext .trailingComma (']' :: tail))
        | other => .ok (true, other)
      else .error (.onNext .listEndExpected (c :: rest)) := by
  rw [nextElement, h]
  split
  · contradiction
  · next heq =>
    cases heq
    rfl
  · next heq =>
    cases heq
    rfl
  · next hclosing hcomma => simp_all

/-- The next element of a list is looked for alike. -/
theorem nextElement_returned (first : Bool) (text : List Char) :
    Alike (Finds text.length) (nextElement first (text ++ ['\r'])) (nextElement first text) := by
  cases h : skipBlanks text with
  | nil =>
    unfold nextElement
    rw [h, skipBlanks_returned_nil h]
    exact .error _ _
  | cons c rest =>
    obtain ⟨hreturned, hlength⟩ := skipBlanks_returned_cons h
    rw [nextElement_cons h, nextElement_cons hreturned]
    split
    · exact .ok (.mk false (']' :: rest) (Nat.succ_le_of_lt hlength))
    split
    · exact .ok (.mk true (c :: rest) (Nat.succ_le_of_lt hlength))
    split
    · cases hnext : skipBlanks rest with
      | nil =>
        rw [skipBlanks_returned_nil hnext]
        exact .error _ _
      | cons d tail =>
        obtain ⟨hreturned, hshorter⟩ := skipBlanks_returned_cons hnext
        rw [hreturned]
        split
        · contradiction
        · next heq =>
          cases heq
          exact .error _ _
        · next hne =>
          split
          · contradiction
          · next heq =>
            cases heq
            exact absurd rfl (hne _)
          · exact .ok (.mk true (d :: tail) (by simp only [List.length_cons]; omega))
    · exact .error _ _

/-- The fields of a list are read alike. -/
theorem readFields_returned {title : String} {fields : List (Field σ)}
    (hfields : ∀ field ∈ fields, ReadsReturned field.read) (index : Nat) (record : σ) :
    ReadsReturned (readFields title fields index record) := by
  intro text
  induction fields generalizing index record text with
  | nil => exact .ok (.mk _ text (Nat.le_refl _))
  | cons field fields ih =>
    obtain ⟨hfield, hfields⟩ := List.forall_mem_cons.1 hfields
    refine (nextElement_returned (index == 0) text).bind ?_
    rintro _ _ ⟨more, rest, hrest⟩
    dsimp only
    split
    · refine (hfield rest).bind ?_
      rintro _ _ ⟨put, rest₁, hrest₁⟩
      exact (ih hfields _ _ rest₁).mono (Finds.mono (by omega))
    · split
      · exact .error _ _
      · exact (ih hfields _ _ rest).mono (Finds.mono hrest)

/-- After the last field of a list, nothing but the closing bracket may come. -/
theorem endFields_of_ne {c : Char} (hc : c ≠ ']') (h : skipBlanks text = c :: rest) :
    ∃ fault, endFields text = .error fault := by
  rw [endFields, h]
  split
  · next heq =>
    cases heq
    exact absurd rfl hc
  · split <;> exact ⟨_, rfl⟩
  · exact ⟨_, rfl⟩
  · exact ⟨_, rfl⟩

/-- The end of a list is looked for alike. -/
theorem endFields_returned (text : List Char) :
    Alike (Returned text.length) (endFields (text ++ ['\r'])) (endFields text) := by
  cases h : skipBlanks text with
  | nil =>
    unfold endFields
    rw [h, skipBlanks_returned_nil h]
    exact .error _ _
  | cons c rest =>
    obtain ⟨hreturned, hlength⟩ := skipBlanks_returned_cons h
    by_cases hc : c = ']'
    · subst hc
      rw [endFields, endFields, h, hreturned]
      exact .ok (.mk rest (Nat.le_of_lt hlength))
    · obtain ⟨fault, hfault⟩ := endFields_of_ne hc h
      obtain ⟨fault', hfault'⟩ := endFields_of_ne hc hreturned
      rw [hfault, hfault']
      exact .error _ _

/-- A member and all those after it. -/
def readOn (form : RecordForm σ) (fuel : Nat) (seen : List String) (record : σ)
    (text : List Char) : Except Fault (σ × List Char) :=
  readMember form seen record text >>= fun (record, seen, rest) =>
    readMembers form fuel false seen record rest

/-- What may come in an object: its end, its first member, or a comma and another member. -/
theorem readMembers_cons {c : Char} (h : skipBlanks text = c :: rest) (fuel : Nat) (first : Bool)
    (seen : List String) (record : σ) :
    readMembers form (fuel + 1) first seen record text =
      if c = '\x7d' then
        match form.missing? seen with
        | some name => .error (.unplaced (.missingField name) ('\x7d' :: rest))
        | none => .ok (record, rest)
      else if first then
        if c = '"' then readOn form fuel seen record rest
        else .error (.onNext .keyNotString (c :: rest))
      else if c = ',' then
        match skipBlanks rest with
        | '"' :: tail => readOn form fuel seen record tail
        | '\x7d' :: tail => .error (.onNext .trailingComma ('\x7d' :: tail))
        | [] => .error (.onNext .endInValue [])
        | other => .error (.onNext .keyNotString other)
      else .error (.onNext .objectEndExpected (c :: rest)) := by
  rw [readMembers, h]
  split
  · contradiction
  · next heq =>
    cases heq
    rfl
  · next hne heq =>
    cases heq
    simp only [beq_iff_eq]
    rw [if_neg hne]
    rfl

/-- The members of an object are read alike if there are steps enough for both texts. -/
theorem readMembers_returned (hform : form.ReadsReturned) {fuel fuel' : Nat} {text : List Char}
    (hfuel : text.length < fuel) (hfuel' : text.length + 1 < fuel') (first : Bool)
    (seen : List String) (record : σ) :
    Alike (Finds text.length) (readMembers form fuel' first seen record (text ++ ['\r']))
      (readMembers form fuel first seen record text) := by
  induction fuel generalizing fuel' first seen record text with
  | zero => omega
  | succ fuel ih =>
    obtain ⟨fuel', rfl⟩ : ∃ n, fuel' = n + 1 := ⟨fuel' - 1, by omega⟩
    -- A member ends before the text it stands in, so that both counts last for those after it.
    have hon : ∀ rest : List Char, rest.length < text.length →
        Alike (Finds text.length) (readOn form fuel' seen record (rest ++ ['\r']))
          (readOn form fuel seen record rest) := by
      intro rest hrest
      refine (readMember_returned hform seen record rest).bind ?_
      rintro ⟨record, seen, _⟩ ⟨_, _, rest₁⟩ ⟨rfl, hrest₁⟩
      cases hrest₁ with
      | mk _ _ hrest₁ => exact (ih (by omega) (by omega) ..).mono (Finds.mono (by omega))
    cases h : skipBlanks text with
    | nil =>
      rw [readMembers, readMembers, h, skipBlanks_returned_nil h]
      exact .error _ _
    | cons c rest =>
      obtain ⟨hreturned, hlength⟩ := skipBlanks_returned_cons h
      rw [readMembers_cons h, readMembers_cons hreturned]
      split
      · split
        · exact .error _ _
        · exact .ok (.mk record rest (Nat.le_of_lt hlength))
      split
      · split
        · exact hon rest hlength
        · exact .error _ _
      split
      · cases hnext : skipBlanks rest with
        | nil =>
          rw [skipBlanks_returned_nil hnext]
          exact .error _ _
        | cons d tail =>
          obtain ⟨hreturned, hshorter⟩ := skipBlanks_returned_cons hnext
          rw [hreturned]
          by_cases hd : d = '"'
          · subst hd
            exact hon tail (by omega)
          · split <;> split <;> first | exact .error _ _ | simp_all
      · exact .error _ _

/-- A record begins with a brace or a bracket. -/
theorem readRecord_of_ne {c : Char} (hbrace : c ≠ '\x7b') (hbracket : c ≠ '[')
    (h : skipBlanks text = c :: rest) : ∃ fault, readRecord form text = .error fault := by
  rw [readRecord, h]
  split
  · next heq =>
    cases heq
    exact absurd rfl hbrace
  · next heq =>
    cases heq
    exact absurd rfl hbracket
  · exact ⟨_, rfl⟩

/-- A record is read alike, from an object or from a list. -/
theorem readsReturned_readRecord (hform : form.ReadsReturned) :
    ReadsReturned (readRecord form) := by
  intro text
  cases h : skipBlanks text with
  | nil =>
    unfold readRecord
    rw [h, skipBlanks_returned_nil h]
    exact .error _ _
  | cons c rest =>
    obtain ⟨hreturned, hlength⟩ := skipBlanks_returned_cons h
    by_cases hbrace : c = '\x7b'
    · subst hbrace
      rw [readRecord, readRecord, h, hreturned]
      refine Alike.mapError ((readMembers_returned hform ?_ ?_ ..).mono
        (Finds.mono (Nat.le_of_lt hlength))) _ _
      · omega
      · simp
    by_cases hbracket : c = '['
    · subst hbracket
      rw [readRecord, readRecord, h, hreturned]
      refine Alike.mapError ((readFields_returned hform 0 form.start rest).bind ?_) _ _
      rintro _ _ ⟨record, rest₁, hrest₁⟩
      refine (endFields_returned rest₁).bind ?_
      rintro _ rest₂ ⟨_, hrest₂⟩
      exact .ok (.mk record rest₂ (by omega))
    · obtain ⟨fault, hfault⟩ := readRecord_of_ne hbrace hbracket h
      obtain ⟨fault', hfault'⟩ := readRecord_of_ne hbrace hbracket hreturned
      rw [hfault, hfault']
      exact .error _ _

/-- A carriage return behind a whole text does not matter. -/
theorem ReadsReturned.toOption_readWhole {read : Reader α} (hread : ReadsReturned read)
    (text : List Char) :
    (readWhole read (text ++ ['\r'])).toOption = (readWhole read text).toOption := by
  refine Alike.toOption_eq ((hread text).bind ?_)
  rintro _ _ ⟨value, rest, -⟩
  dsimp only
  cases h : skipBlanks rest with
  | nil =>
    rw [skipBlanks_returned_nil h]
    exact .ok rfl
  | cons c rest =>
    rw [(skipBlanks_returned_cons h).1]
    exact .error _ _

end NeighborGraph.Json
