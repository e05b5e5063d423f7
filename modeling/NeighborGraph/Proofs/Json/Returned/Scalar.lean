import NeighborGraph.Json.Record
import NeighborGraph.Proofs.Except

/-!
# Scalars in front of a carriage return

Nothing in JSON but blanks goes on with a carriage return. A reader therefore finds in a text with
a carriage return behind it what it finds in the text itself, and leaves the carriage return with
what it leaves (`ReadsReturned`). Here this is shown for strings and numbers.

Along the way each reader is seen to leave no more than it was given, so that readers which count
their steps have enough of them whether the carriage return is there or not.
-/

namespace NeighborGraph.Json

open Except

variable {α : Type}

/-- A text with a carriage return behind it, and the text itself, which is at most so long. -/
inductive Returned (length : Nat) : List Char → List Char → Prop
  | mk (text : List Char) (h : text.length ≤ length) : Returned length (text ++ ['\r']) text

/-- The same value was found in front of a text with a carriage return behind it and of the text
itself, which is at most so long. -/
inductive Finds (length : Nat) : α × List Char → α × List Char → Prop
  | mk (value : α) (rest : List Char) (h : rest.length ≤ length) :
    Finds length (value, rest ++ ['\r']) (value, rest)

/-- The reader finds the same whether a carriage return is behind the text or not. -/
def ReadsReturned (read : Reader α) : Prop :=
  ∀ text, Alike (Finds text.length) (read (text ++ ['\r'])) (read text)

variable {text rest : List Char}

/-- A text that is at most so long is at most so long for a greater length. -/
theorem Returned.mono {n m : Nat} (hle : n ≤ m) (returned text : List Char)
    (h : Returned n returned text) : Returned m returned text := by
  obtain ⟨_, h⟩ := h
  exact .mk _ (Nat.le_trans h hle)

/-- What was found in front of such a text was found in front of one for a greater length. -/
theorem Finds.mono {n m : Nat} (hle : n ≤ m) (returned found : α × List Char)
    (h : Finds n returned found) : Finds m returned found := by
  obtain ⟨value, _, h⟩ := h
  exact .mk value _ (Nat.le_trans h hle)

/-! ## Blanks and words -/

/-- A carriage return behind blanks is one of them. -/
theorem skipBlanks_returned_nil (h : skipBlanks text = []) :
    skipBlanks (text ++ ['\r']) = [] := by
  rw [skipBlanks] at h ⊢
  rw [List.dropWhile_append, h]
  rfl

/-- If a text is more than blanks, the carriage return behind it stays. -/
theorem skipBlanks_returned_cons {c : Char} (h : skipBlanks text = c :: rest) :
    skipBlanks (text ++ ['\r']) = c :: (rest ++ ['\r']) ∧ rest.length < text.length := by
  rw [skipBlanks] at h ⊢
  refine ⟨by rw [List.dropWhile_append, h]; rfl, ?_⟩
  have hle : (text.dropWhile isBlank).length ≤ text.length :=
    (List.dropWhile_suffix isBlank).length_le
  rw [h, List.length_cons] at hle
  omega

/-- A word without a carriage return is expected alike. -/
theorem expectWord_returned {word : List Char} (hword : '\r' ∉ word) (text : List Char) :
    Alike (Returned text.length) (expectWord word (text ++ ['\r'])) (expectWord word text) := by
  induction word generalizing text with
  | nil => exact .ok (.mk _ (Nat.le_refl _))
  | cons w word ih =>
    obtain ⟨hw, hword⟩ := not_or.1 (mt List.mem_cons.2 hword)
    cases text with
    | nil =>
      rw [List.nil_append, expectWord, expectWord, if_neg (by simpa using hw)]
      exact .error _ _
    | cons c text =>
      rw [List.cons_append, expectWord, expectWord]
      split
      · exact (ih hword text).mono (Returned.mono (Nat.le_succ _))
      · exact .error _ _

/-! ## Strings -/

/-- The digits of an escape are read alike. -/
theorem readHex_returned (text : List Char) :
    Alike (Finds text.length) (readHex (text ++ ['\r'])) (readHex text) := by
  match text with
  | [] | [_] | [_, _] => exact .error _ _
  | [a, b, c] =>
    -- the carriage return stands where the fourth digit is missing, and is none
    have hreturn : hexDigitValue? '\r' = none := by decide
    simp only [readHex, List.cons_append, List.nil_append, hreturn]
    split
    · contradiction
    · exact .error _ _
  | a :: b :: c :: d :: rest =>
    simp only [readHex, List.cons_append]
    split
    · exact .ok (.mk _ _ (by simp only [List.length_cons]; omega))
    · exact .error _ _

/-- A mark that is no carriage return is expected alike. -/
theorem expectInEscape_returned {mark : Char} (hmark : mark ≠ '\r') (text : List Char) :
    Alike (Returned text.length) (expectInEscape mark (text ++ ['\r'])) (expectInEscape mark text)
    := by
  cases text with
  | nil =>
    rw [List.nil_append, expectInEscape, expectInEscape, if_neg (by simpa using hmark.symm)]
    exact .error _ _
  | cons c text =>
    rw [List.cons_append, expectInEscape, expectInEscape]
    split
    · exact .ok (.mk _ (Nat.le_succ _))
    · exact .error _ _

/-- The second half of a pair is read alike. -/
theorem readLowSurrogate_returned (high : Nat) (text : List Char) :
    Alike (Finds text.length) (readLowSurrogate high (text ++ ['\r']))
      (readLowSurrogate high text) := by
  refine (expectInEscape_returned (by decide) text).bind ?_
  rintro _ rest ⟨_, hrest⟩
  refine (expectInEscape_returned (by decide) rest).bind ?_
  rintro _ rest₁ ⟨_, hrest₁⟩
  refine (readHex_returned rest₁).bind ?_
  rintro _ _ ⟨low, rest₂, hrest₂⟩
  dsimp only
  split
  · exact .error _ _
  · exact .ok (.mk _ _ (by omega))

/-- An escape by number is read alike. -/
theorem readUnicodeEscape_returned (text : List Char) :
    Alike (Finds text.length) (readUnicodeEscape (text ++ ['\r'])) (readUnicodeEscape text) := by
  refine (readHex_returned text).bind ?_
  rintro _ _ ⟨code, rest, hrest⟩
  dsimp only
  split
  · exact .error _ _
  · split
    · exact (readLowSurrogate_returned code rest).mono (Finds.mono hrest)
    · exact .ok (.mk _ _ hrest)

/-- Escapes are read alike. -/
theorem readsReturned_readEscape : ReadsReturned readEscape := by
  intro text
  cases text with
  | nil => exact .error _ _
  | cons c rest =>
    rw [List.cons_append]
    by_cases hc : c = 'u'
    · subst hc
      exact (readUnicodeEscape_returned rest).mono (Finds.mono (Nat.le_succ _))
    · rw [readEscape.eq_3 c _ hc, readEscape.eq_3 c _ hc]
      cases escapeLetter? c with
      | none => exact .error _ _
      | some value => exact .ok (.mk _ _ (Nat.le_succ _))

/-- The tail of a string goes on where an escape ends. -/
theorem readStringTail_escape_eq (read tail : List Char) :
    readStringTail read ('\\' :: tail) =
      readEscape tail >>= fun (c, rest) => readStringTail (c :: read) rest := by
  rw [readStringTail]
  cases readEscape tail <;> rfl

/-- The rest of a string is read alike, and takes up some of the text. -/
theorem readStringTail_returned (read text : List Char) :
    Alike (Finds (text.length - 1)) (readStringTail read (text ++ ['\r']))
      (readStringTail read text) := by
  induction hn : text.length using Nat.strongRecOn generalizing read text with
  | ind n ih =>
    cases text with
    | nil =>
      rw [List.nil_append, readStringTail.eq_4 _ _ _ (by decide) (by decide), if_pos (by decide),
        readStringTail]
      exact .error _ _
    | cons c rest =>
      rw [List.length_cons] at hn
      rw [List.cons_append]
      by_cases hquote : c = '"'
      · rw [hquote, readStringTail, readStringTail]
        exact .ok (.mk _ _ (by omega))
      by_cases hslash : c = '\\'
      · rw [hslash, readStringTail_escape_eq, readStringTail_escape_eq]
        refine (readsReturned_readEscape rest).bind ?_
        rintro _ _ ⟨c, rest, hrest⟩
        exact (ih rest.length (by omega) (c :: read) rest rfl).mono (Finds.mono (by omega))
      · rw [readStringTail.eq_4 _ _ _ hquote hslash, readStringTail.eq_4 _ _ _ hquote hslash]
        split
        · exact .error _ _
        · exact (ih rest.length (by omega) (c :: read) rest rfl).mono (Finds.mono (by omega))

/-- Strings are read alike, and take up some of the text. -/
theorem readString_returned (text : List Char) :
    Alike (Finds (text.length - 1)) (readString (text ++ ['\r'])) (readString text) :=
  readStringTail_returned [] text

/-! ## Numbers -/

/-- A carriage return stays behind what follows the digits. -/
theorem dropWhile_isDigit_returned (text : List Char) :
    (text ++ ['\r']).dropWhile Char.isDigit = text.dropWhile Char.isDigit ++ ['\r'] := by
  rw [List.dropWhile_append]
  split
  · next h =>
    rw [List.isEmpty_iff.1 h]
    rfl
  · rfl

/-- What follows the digits is no longer than the text. -/
theorem length_dropWhile_isDigit_le (text : List Char) :
    (text.dropWhile Char.isDigit).length ≤ text.length :=
  (List.dropWhile_suffix _).length_le

/-- A carriage return adds no digits. -/
theorem takeWhile_isDigit_returned (text : List Char) :
    (text ++ ['\r']).takeWhile Char.isDigit = text.takeWhile Char.isDigit := by
  induction text with
  | nil => rfl
  | cons c text ih =>
    rw [List.cons_append, List.takeWhile_cons, List.takeWhile_cons, ih]

/-- Digits are read alike. -/
theorem readDigits_returned (significand taken : Nat) (text : List Char) :
    readDigits significand taken (text ++ ['\r']) =
      { readDigits significand taken text with
        rest := (readDigits significand taken text).rest ++ ['\r'] } ∧
    (readDigits significand taken text).rest.length ≤ text.length := by
  induction text generalizing significand taken with
  | nil => exact ⟨rfl, Nat.le_refl _⟩
  | cons c text ih =>
    rw [List.cons_append, readDigits, readDigits]
    dsimp only
    split
    · split
      · obtain ⟨heq, hlength⟩ := ih (10 * significand + (c.toNat - '0'.toNat)) (taken + 1)
        exact ⟨heq, Nat.le_succ_of_le hlength⟩
      · rw [← List.cons_append, takeWhile_isDigit_returned, dropWhile_isDigit_returned]
        exact ⟨rfl, Nat.le_succ_of_le (length_dropWhile_isDigit_le text)⟩
    · exact ⟨rfl, Nat.le_refl _⟩

/-- A number is completed alike. -/
theorem finishNumber_returned (negative : Bool) (significand : Nat) (exponent : Int)
    (rest : List Char) :
    Alike (Finds rest.length) (finishNumber negative significand exponent (rest ++ ['\r']))
      (finishNumber negative significand exponent rest) := by
  unfold finishNumber
  cases scaled? significand exponent with
  | none => exact .error _ _
  | some value => exact .ok (.mk _ _ (Nat.le_refl _))

/-- The digits of an exponent are read alike. -/
theorem readExponentDigits_returned (exponent : Nat) (text : List Char) :
    ∃ power tooGreat rest, readExponentDigits exponent text = (power, tooGreat, rest) ∧
      readExponentDigits exponent (text ++ ['\r']) = (power, tooGreat, rest ++ ['\r']) ∧
      rest.length ≤ text.length := by
  induction text generalizing exponent with
  | nil => exact ⟨exponent, false, [], rfl, rfl, Nat.le_refl _⟩
  | cons c text ih =>
    rw [List.cons_append, readExponentDigits, readExponentDigits]
    dsimp only
    split
    · split
      · obtain ⟨power, tooGreat, rest, h, hreturned, hlength⟩ :=
          ih (10 * exponent + (c.toNat - '0'.toNat))
        exact ⟨power, tooGreat, rest, h, hreturned, Nat.le_succ_of_le hlength⟩
      · exact ⟨exponent, true, text, rfl, rfl, Nat.le_succ _⟩
    · exact ⟨exponent, false, c :: text, rfl, rfl, Nat.le_refl _⟩

/-- A sign is split off alike. -/
theorem splitSign_returned (text : List Char) :
    splitSign (text ++ ['\r']) = ((splitSign text).1, (splitSign text).2 ++ ['\r']) ∧
      (splitSign text).2.length ≤ text.length := by
  cases text with
  | nil => exact ⟨rfl, Nat.le_refl _⟩
  | cons c text =>
    rw [List.cons_append]
    by_cases hminus : c = '-'
    · subst hminus
      exact ⟨rfl, Nat.le_succ _⟩
    by_cases hplus : c = '+'
    · subst hplus
      exact ⟨rfl, Nat.le_succ _⟩
    · have h : ∀ rest, splitSign (c :: rest) = (false, c :: rest) := by
        intro rest
        rw [splitSign.eq_3 _ (by simpa using hminus) (by simpa using hplus)]
      rw [h, h]
      exact ⟨rfl, Nat.le_refl _⟩

/-- Exponents are read alike. -/
theorem readExponent_returned (negative : Bool) (significand : Nat) (exponent : Int)
    (text : List Char) :
    Alike (Finds text.length) (readExponent negative significand exponent (text ++ ['\r']))
      (readExponent negative significand exponent text) := by
  obtain ⟨hsign, hlength⟩ := splitSign_returned text
  rw [readExponent, readExponent, hsign]
  dsimp only
  cases hdigits : (splitSign text).2 with
  | nil => exact .error _ _
  | cons c rest =>
    rw [hdigits, List.length_cons] at hlength
    obtain ⟨power, tooGreat, left, h, hreturned, hleft⟩ :=
      readExponentDigits_returned (c.toNat - '0'.toNat) rest
    rw [List.cons_append]
    dsimp only
    rw [h, hreturned]
    dsimp only
    split
    · split
      · split
        · exact .error _ _
        · rw [dropWhile_isDigit_returned]
          have := length_dropWhile_isDigit_le left
          exact .ok (.mk _ _ (by omega))
      · exact (finishNumber_returned ..).mono (Finds.mono (by omega))
    · exact .error _ _

/-- An exponent that may be missing is read alike. -/
theorem readScale_returned (negative : Bool) (significand : Nat) (exponent : Int)
    (text : List Char) :
    Alike (Finds text.length) (readScale negative significand exponent (text ++ ['\r']))
      (readScale negative significand exponent text) := by
  cases text with
  | nil => exact finishNumber_returned negative significand exponent []
  | cons c rest =>
    rw [List.cons_append]
    by_cases hc : c = 'e' ∨ c = 'E'
    · rcases hc with rfl | rfl
      all_goals
        exact (readExponent_returned negative significand exponent rest).mono
          (Finds.mono (Nat.le_succ _))
    · have h : ∀ rest, readScale negative significand exponent (c :: rest) =
          finishNumber negative significand exponent (c :: rest) := by
        intro rest
        rw [readScale.eq_3] <;> simp_all
      rw [h, h]
      exact finishNumber_returned negative significand exponent (c :: rest)

/-- What stands behind a point is read alike. -/
theorem readFraction_returned (negative : Bool) (significand : Nat) (exponent : Int)
    (text : List Char) :
    Alike (Finds text.length) (readFraction negative significand exponent (text ++ ['\r']))
      (readFraction negative significand exponent text) := by
  obtain ⟨hdigits, hlength⟩ := readDigits_returned significand 0 text
  rw [readFraction, readFraction, hdigits]
  dsimp only
  split
  · cases (readDigits significand 0 text).rest <;> exact .error _ _
  · exact (readScale_returned ..).mono (Finds.mono hlength)

/-- Without a point, a number goes on with an exponent or ends. -/
theorem readAfterInteger_of_head?_ne {digits : Digits} (h : digits.rest.head? ≠ some '.')
    (negative : Bool) :
    readAfterInteger negative digits =
      if digits.dropped = 0 ∧ digits.rest.head? ≠ some 'e' ∧ digits.rest.head? ≠ some 'E' then
        .ok (ofInteger negative digits.significand, digits.rest)
      else readScale negative digits.significand digits.dropped digits.rest := by
  unfold readAfterInteger
  split
  · next rest heq => simp [heq] at h
  · rfl

/-- What stands behind the first digits is read alike. -/
theorem readAfterInteger_returned (negative : Bool) (digits : Digits) :
    Alike (Finds digits.rest.length)
      (readAfterInteger negative { digits with rest := digits.rest ++ ['\r'] })
      (readAfterInteger negative digits) := by
  obtain ⟨significand, taken, dropped, text⟩ := digits
  by_cases hpoint : text.head? = some '.'
  · obtain ⟨rest, rfl⟩ := List.head?_eq_some_iff.1 hpoint
    exact (readFraction_returned negative significand dropped rest).mono
      (Finds.mono (Nat.le_succ _))
  · have hhead : ∀ c, c ≠ '\r' → ((text ++ ['\r']).head? = some c ↔ text.head? = some c) := by
      intro c hc
      cases text <;> simp [hc.symm]
    rw [readAfterInteger_of_head?_ne (mt (hhead '.' (by decide)).1 hpoint),
      readAfterInteger_of_head?_ne hpoint]
    simp only [ne_eq, hhead 'e' (by decide), hhead 'E' (by decide)]
    split
    · exact .ok (.mk _ _ (Nat.le_refl _))
    · exact readScale_returned negative significand dropped text

/-- Numbers are read alike. -/
theorem readsReturned_readNumber (negative : Bool) : ReadsReturned (readNumber negative) := by
  intro text
  cases text with
  | nil =>
    rw [List.nil_append, readNumber.eq_4 _ _ _ (by decide), if_neg (by decide)]
    exact .error _ _
  | cons c rest =>
    rw [List.cons_append]
    by_cases hc : c = '0'
    · subst hc
      cases rest with
      | nil => exact .ok (.mk _ [] (Nat.zero_le _))
      | cons d rest =>
        rw [List.cons_append, readNumber, readNumber]
        split
        · exact .error _ _
        · exact (readAfterInteger_returned negative ⟨0, 1, 0, d :: rest⟩).mono
            (Finds.mono (Nat.le_succ _))
    · rw [readNumber.eq_4 _ _ _ hc, readNumber.eq_4 _ _ _ hc]
      split
      · obtain ⟨hdigits, hlength⟩ := readDigits_returned 0 0 (c :: rest)
        rw [← List.cons_append, hdigits]
        exact (readAfterInteger_returned ..).mono (Finds.mono hlength)
      · exact .error _ _

end NeighborGraph.Json
