import Mathlib.Data.List.TakeWhile
import Mathlib.Tactic.IntervalCases
import NeighborGraph.Json.Printer
import NeighborGraph.Json.Record
import NeighborGraph.Proofs.Except

/-!
# The text of numbers

A number can be read wherever what follows could not go on with it (`Parted`). What is written for
a natural number is read as this number (`readNumber_decimalText`). What is written for a finite
double has the shape of a number (`Decimal.shape_documentText`), so that the reader takes all
of it and nothing more (`Spans`), whether or not it finds a double for it. It may not find the
double that was written: `reread?` says which one it finds.
-/

namespace NeighborGraph

/-- A natural number is written with digits. -/
theorem isDigit_of_mem_decimalText {n : Nat} {c : Char} (h : c ∈ decimalText n) :
    c.isDigit = true :=
  Nat.isDigit_of_mem_toDigits (by decide) (by decide) h

/-- Only the text of zero begins with a zero. -/
theorem decimalText_eq_cons {n : Nat} (hn : n ≠ 0) :
    ∃ c digits, decimalText n = c :: digits ∧ c ≠ '0' := by
  induction n using Nat.strong_induction_on with
  | _ n ih =>
    by_cases hlt : n < 10
    · refine ⟨Nat.digitChar n, [], Nat.toDigits_of_lt_base hlt, ?_⟩
      interval_cases n <;> first | exact absurd rfl hn | decide
    · obtain ⟨c, digits, hdigits, hc⟩ := ih (n / 10) (by omega) (by omega)
      refine ⟨c, digits ++ [Nat.digitChar (n % 10)], ?_, hc⟩
      rw [decimalText, Nat.toDigits_of_base_le (by decide) (by omega)]
      rw [decimalText] at hdigits
      rw [hdigits, List.cons_append]

namespace Json

/-! ## Where numbers end -/

/-- A number could go on with the character. -/
def isNumeral (c : Char) : Bool := c.isDigit || c == '.' || c == 'e' || c == 'E'

/-- A number that stands before the text ends there. -/
def Parted (rest : List Char) : Prop := ∀ c ∈ rest.head?, isNumeral c = false

/-- Digits that stand before the text end there. -/
def Undigited (rest : List Char) : Prop := ∀ c ∈ rest.head?, c.isDigit = false

/-- At the end of a text a number ends. -/
theorem parted_nil : Parted [] := by simp [Parted]

/-- A number ends before a character that it cannot go on with. -/
theorem parted_cons {c : Char} {rest : List Char} (h : isNumeral c = false) :
    Parted (c :: rest) := by
  simpa [Parted] using h

/-- Digits end before a character that is none. -/
theorem undigited_cons {c : Char} {rest : List Char} (h : c.isDigit = false) :
    Undigited (c :: rest) := by
  simpa [Undigited] using h

/-- Where a number ends its digits do. -/
theorem Parted.undigited {rest : List Char} (h : Parted rest) : Undigited rest := by
  intro c hc
  have := h c hc
  simp_all [isNumeral]

/-- Where digits end there are no more to take. -/
theorem Undigited.takeWhile_eq {rest : List Char} (h : Undigited rest) :
    rest.takeWhile Char.isDigit = [] := by
  cases rest with
  | nil => rfl
  | cons c rest => exact List.takeWhile_cons_of_neg (by simp [h c rfl])

/-- Where digits end there are none to leave out. -/
theorem Undigited.dropWhile_eq {rest : List Char} (h : Undigited rest) :
    rest.dropWhile Char.isDigit = rest := by
  cases rest with
  | nil => rfl
  | cons c rest => exact List.dropWhile_cons_of_neg (by simp [h c rfl])

/-! ## Digits -/

/-- Digits are read as they are, whatever follows them. -/
theorem readDigits_append {digits rest : List Char} (hdigits : ∀ c ∈ digits, c.isDigit = true)
    (hrest : Undigited rest) (significand taken : Nat) :
    readDigits significand taken (digits ++ rest) =
      { readDigits significand taken digits with rest } := by
  induction digits generalizing significand taken with
  | nil =>
    cases rest with
    | nil => rfl
    | cons c rest => simp [readDigits, hrest c rfl]
  | cons c digits ih =>
    have hc : c.isDigit = true := hdigits c (List.mem_cons_self ..)
    have hmore : ∀ c ∈ digits, c.isDigit = true := fun c h => hdigits c (List.mem_cons_of_mem _ h)
    rw [List.cons_append, readDigits, readDigits, if_pos hc, if_pos hc]
    dsimp only
    split
    · exact ih hmore _ _
    · rw [← List.cons_append, List.takeWhile_append_of_pos hdigits,
        List.dropWhile_append_of_pos hmore, hrest.takeWhile_eq, hrest.dropWhile_eq,
        List.append_nil, List.takeWhile_eq_self_iff.2 hdigits]

/-- Every digit is read: it is taken or dropped. -/
theorem taken_add_dropped {digits : List Char} (hdigits : ∀ c ∈ digits, c.isDigit = true)
    (significand taken : Nat) :
    (readDigits significand taken digits).taken + (readDigits significand taken digits).dropped =
      taken + digits.length := by
  induction digits generalizing significand taken with
  | nil => rfl
  | cons c digits ih =>
    rw [readDigits, if_pos (hdigits c (List.mem_cons_self ..))]
    dsimp only
    split
    · rw [ih (fun c h => hdigits c (List.mem_cons_of_mem _ h)), List.length_cons]
      omega
    · rw [List.takeWhile_eq_self_iff.2 hdigits]

/-- A number that fits 64 bits is read digit by digit. -/
theorem readDigits_of_lt {digits : List Char} (hdigits : ∀ c ∈ digits, c.isDigit = true)
    {significand : Nat} (hlt : Nat.ofDigitChars 10 digits significand < wordLimit) (taken : Nat) :
    readDigits significand taken digits =
      ⟨Nat.ofDigitChars 10 digits significand, taken + digits.length, 0, []⟩ := by
  induction digits generalizing significand taken with
  | nil => rfl
  | cons c digits ih =>
    rw [Nat.ofDigitChars_cons] at hlt ⊢
    have hmore := ih (fun c h => hdigits c (List.mem_cons_of_mem _ h)) hlt (taken + 1)
    have hnext : 10 * significand + (c.toNat - '0'.toNat) < wordLimit := by
      refine Nat.lt_of_le_of_lt ?_ hlt
      rw [Nat.ofDigitChars_eq_ofDigitChars_zero]
      exact Nat.le_trans (Nat.le_mul_of_pos_left _ (Nat.pow_pos (by decide))) (Nat.le_add_right ..)
    rw [readDigits, if_pos (hdigits c (List.mem_cons_self ..))]
    dsimp only
    rw [if_pos hnext, hmore, List.length_cons]
    congr 1
    omega

/-! ## Natural numbers -/

/-- Digits after which the number ends write an integer. -/
theorem readAfterInteger_parted {rest : List Char} (hrest : Parted rest) (negative : Bool)
    (significand taken : Nat) :
    readAfterInteger negative ⟨significand, taken, 0, rest⟩ =
      .ok (ofInteger negative significand, rest) := by
  cases rest with
  | nil => rfl
  | cons c rest =>
    have hc : isNumeral c = false := hrest c rfl
    unfold readAfterInteger
    split
    · next heq =>
      cases heq
      exact absurd hc (by decide)
    · rw [if_pos]
      refine ⟨rfl, ?_, ?_⟩ <;>
        · rintro ⟨rfl⟩
          exact absurd hc (by decide)

/-- A number that begins with a zero has no other digits in front. -/
theorem readNumber_zero {rest : List Char} (hrest : Undigited rest) (negative : Bool) :
    readNumber negative ('0' :: rest) = readAfterInteger negative ⟨0, 1, 0, rest⟩ := by
  cases rest with
  | nil => rw [readNumber]
  | cons c rest => rw [readNumber, if_neg (by simp [hrest c rfl])]

/-- A number that begins with another digit has all of its first digits in front. -/
theorem readNumber_digits {c : Char} {digits rest : List Char} (hc : c ≠ '0')
    (hdigits : ∀ d ∈ c :: digits, d.isDigit = true) (hrest : Undigited rest) (negative : Bool) :
    readNumber negative (c :: digits ++ rest) =
      readAfterInteger negative { readDigits 0 0 (c :: digits) with rest } := by
  rw [List.cons_append, readNumber.eq_4 _ _ _ (fun h => hc h),
    if_pos (hdigits c (List.mem_cons_self ..)), ← List.cons_append, readDigits_append hdigits hrest]

/-- What is written for a natural number below `2 ^ 64` is read as this number. -/
theorem readNumber_decimalText {n : Nat} (hn : n < wordLimit) {rest : List Char}
    (hrest : Parted rest) :
    readNumber false (decimalText n ++ rest) = .ok (.natural n, rest) := by
  by_cases hzero : n = 0
  · subst hzero
    exact (readNumber_zero hrest.undigited false).trans (readAfterInteger_parted hrest ..)
  · obtain ⟨c, digits, hdigits, hc⟩ := decimalText_eq_cons hzero
    have hall : ∀ d ∈ decimalText n, d.isDigit = true := fun d h => isDigit_of_mem_decimalText h
    have hvalue : Nat.ofDigitChars 10 (decimalText n) 0 = n := Nat.ofDigitChars_ten_toDigits
    have hread := readDigits_of_lt hall (by rwa [hvalue]) 0
    rw [hdigits] at hall hread hvalue ⊢
    rw [readNumber_digits hc hall hrest.undigited, hread, hvalue, readAfterInteger_parted hrest]
    rfl

/-! ## Texts that are read as a whole -/

/-- The reader takes all of the text, whatever follows, and what it finds depends on the text
alone. -/
def Spans {α : Type} (read : Reader α) (text : List Char) : Prop :=
  ∃ found? : Option α, ∀ rest, Parted rest →
    (read (text ++ rest)).toOption = found?.map fun found => (found, rest)

/-- An exponent: its letter, a sign and digits. -/
inductive Power : List Char → Prop
  | mk {sign : Char} {digits : List Char} : sign = '-' ∨ sign = '+' → digits ≠ [] →
    (∀ c ∈ digits, c.isDigit = true) → Power ('e' :: sign :: digits)

/-- What follows the first digits of a number that is no integer: a point and digits, an exponent,
or both. -/
inductive Fractional : List Char → Prop
  | point {digits scale : List Char} : digits ≠ [] → (∀ c ∈ digits, c.isDigit = true) →
    scale = [] ∨ Power scale → Fractional ('.' :: (digits ++ scale))
  | power {scale : List Char} : Power scale → Fractional scale

/-- The digits in front: a single zero, or digits that do not begin with one. -/
inductive Whole : List Char → Prop
  | zero : Whole ['0']
  | digits {c : Char} {digits : List Char} : c ≠ '0' → (∀ d ∈ c :: digits, d.isDigit = true) →
    Whole (c :: digits)

/-- The digits in front begin with one. -/
theorem Whole.exists_cons {whole : List Char} (h : Whole whole) :
    ∃ c digits, whole = c :: digits ∧ c.isDigit = true := by
  cases h with
  | zero => exact ⟨'0', [], rfl, by decide⟩
  | digits _ hdigits => exact ⟨_, _, rfl, hdigits _ (List.mem_cons_self ..)⟩

/-- A number that is complete takes no more of the text. -/
theorem spans_finishNumber (negative : Bool) (significand : Nat) (exponent : Int) :
    Spans (finishNumber negative significand exponent) [] := by
  refine ⟨(scaled? significand exponent).map fun value =>
    .floating (if negative then -value else value), fun rest _ => ?_⟩
  rw [List.nil_append, finishNumber]
  cases scaled? significand exponent <;> rfl

/-- Digits of an exponent are read alike whatever follows them; those that are left, where the
exponent has become too great, are digits as well. -/
theorem readExponentDigits_append {digits rest : List Char}
    (hdigits : ∀ c ∈ digits, c.isDigit = true) (hrest : Undigited rest) (exponent : Nat) :
    ∃ power tooGreat left, readExponentDigits exponent digits = (power, tooGreat, left) ∧
      (∀ c ∈ left, c.isDigit = true) ∧ (tooGreat = false → left = []) ∧
      readExponentDigits exponent (digits ++ rest) = (power, tooGreat, left ++ rest) := by
  induction digits generalizing exponent with
  | nil =>
    refine ⟨exponent, false, [], rfl, by simp, fun _ => rfl, ?_⟩
    cases rest with
    | nil => rfl
    | cons c rest => simp [readExponentDigits, hrest c rfl]
  | cons c digits ih =>
    have hmore : ∀ c ∈ digits, c.isDigit = true := fun c h => hdigits c (List.mem_cons_of_mem _ h)
    rw [List.cons_append, readExponentDigits, readExponentDigits,
      if_pos (hdigits c (List.mem_cons_self ..)), if_pos (hdigits c (List.mem_cons_self ..))]
    dsimp only
    split
    · exact ih hmore _
    · exact ⟨exponent, true, digits, rfl, hmore, nofun, rfl⟩

/-- An exponent is taken as a whole. -/
theorem Power.spans {scale : List Char} (h : Power scale) (negative : Bool) (significand : Nat)
    (exponent : Int) : Spans (readScale negative significand exponent) scale := by
  obtain ⟨hsign, hne, hdigits⟩ := h
  rename_i sign digits
  obtain ⟨c, digits, rfl⟩ := List.exists_cons_of_ne_nil hne
  obtain ⟨below, hbelow⟩ : ∃ below, ∀ rest, splitSign (sign :: rest) = (below, rest) := by
    rcases hsign with rfl | rfl
    · exact ⟨true, fun _ => rfl⟩
    · exact ⟨false, fun _ => rfl⟩
  have hc : c.isDigit = true := hdigits c (List.mem_cons_self ..)
  have hmore : ∀ d ∈ digits, d.isDigit = true := fun d h => hdigits d (List.mem_cons_of_mem _ h)
  obtain ⟨power, tooGreat, left, hfound, hleft, hnone, -⟩ :=
    readExponentDigits_append hmore parted_nil.undigited (c.toNat - '0'.toNat)
  have hread : ∀ rest, Parted rest →
      readExponentDigits (c.toNat - '0'.toNat) (digits ++ rest) =
        (power, tooGreat, left ++ rest) := by
    intro rest hrest
    obtain ⟨_, _, _, h, -, -, happend⟩ :=
      readExponentDigits_append hmore hrest.undigited (c.toNat - '0'.toNat)
    rw [hfound] at h
    cases h
    exact happend
  cases tooGreat with
  | false =>
    cases hnone rfl
    obtain ⟨found?, hfinish⟩ := spans_finishNumber negative significand
      (saturate (exponent + if below then -(power : Int) else power))
    refine ⟨found?, fun rest hrest => ?_⟩
    rw [List.cons_append, readScale, readExponent, List.cons_append, hbelow]
    simp only [List.cons_append, hc, hread rest hrest, if_true, Bool.false_eq_true, if_false]
    exact hfinish rest hrest
  | true =>
    refine ⟨if significand ≠ 0 ∧ ¬ below then none
      else some (.floating (if negative then -0.0 else 0.0)), fun rest hrest => ?_⟩
    rw [List.cons_append, readScale, readExponent, List.cons_append, hbelow]
    simp only [List.cons_append, hc, hread rest hrest, if_true]
    have hdrop : (left ++ rest).dropWhile Char.isDigit = rest := by
      rw [List.dropWhile_append_of_pos hleft, hrest.undigited.dropWhile_eq]
    rw [hdrop]
    split <;> rfl

/-- What follows the digits after a point. -/
theorem spans_readScale {scale : List Char} (h : scale = [] ∨ Power scale) (negative : Bool)
    (significand : Nat) (exponent : Int) :
    Spans (readScale negative significand exponent) scale := by
  rcases h with rfl | h
  · obtain ⟨found?, hfinish⟩ := spans_finishNumber negative significand exponent
    refine ⟨found?, fun rest hrest => ?_⟩
    rw [List.nil_append, readScale.eq_3]
    · exact hfinish rest hrest
    all_goals
      rintro tail rfl
      exact absurd (hrest _ rfl) (by decide)
  · exact h.spans negative significand exponent

/-- Digits end before an exponent. -/
theorem Power.undigited {scale : List Char} (h : Power scale) (rest : List Char) :
    Undigited (scale ++ rest) := by
  cases h
  exact undigited_cons (by decide)

/-- The digits behind a point and an exponent after them are taken as a whole. -/
theorem spans_readFraction {digits scale : List Char} (hne : digits ≠ [])
    (hdigits : ∀ c ∈ digits, c.isDigit = true) (hscale : scale = [] ∨ Power scale)
    (negative : Bool) (significand : Nat) (exponent : Int) :
    Spans (readFraction negative significand exponent) (digits ++ scale) := by
  obtain ⟨found?, hfound⟩ := spans_readScale hscale negative
    (readDigits significand 0 digits).significand
    (exponent - (readDigits significand 0 digits).taken)
  refine ⟨found?, fun rest hrest => ?_⟩
  have hundigited : Undigited (scale ++ rest) := by
    rcases hscale with rfl | h
    · exact hrest.undigited
    · exact h.undigited rest
  have hcount := taken_add_dropped hdigits significand 0
  have hpos := List.length_pos_iff.2 hne
  rw [List.append_assoc, readFraction, readDigits_append hdigits hundigited]
  rw [if_neg (by dsimp only; omega)]
  exact hfound rest hrest

/-- Digits end before a point or an exponent. -/
theorem Fractional.undigited {tail : List Char} (h : Fractional tail) (rest : List Char) :
    Undigited (tail ++ rest) := by
  cases h with
  | point => exact undigited_cons (by decide)
  | power h => exact h.undigited rest

/-- What makes a number no integer is taken as a whole. -/
theorem Fractional.spans {tail : List Char} (h : Fractional tail) (negative : Bool)
    (significand taken dropped : Nat) :
    Spans (fun text => readAfterInteger negative ⟨significand, taken, dropped, text⟩) tail := by
  cases h with
  | point hne hdigits hscale =>
    obtain ⟨found?, hfound⟩ := spans_readFraction hne hdigits hscale negative significand dropped
    exact ⟨found?, fun rest hrest => hfound rest hrest⟩
  | power h =>
    obtain ⟨found?, hfound⟩ := h.spans negative significand dropped
    refine ⟨found?, fun rest hrest => ?_⟩
    rw [← hfound rest hrest]
    cases h
    exact congrArg Except.toOption (if_neg (by simp))

/-- A number that is no integer is taken as a whole. -/
theorem Fractional.spans_readNumber {whole tail : List Char} (htail : Fractional tail)
    (hwhole : Whole whole) (negative : Bool) : Spans (readNumber negative) (whole ++ tail) := by
  cases hwhole with
  | zero =>
    obtain ⟨found?, hfound⟩ := htail.spans negative 0 1 0
    refine ⟨found?, fun rest hrest => ?_⟩
    rw [← hfound rest hrest, List.append_assoc, List.singleton_append,
      readNumber_zero (htail.undigited rest)]
  | @digits c digits hc hdigits =>
    obtain ⟨found?, hfound⟩ := htail.spans negative (readDigits 0 0 (c :: digits)).significand
      (readDigits 0 0 (c :: digits)).taken (readDigits 0 0 (c :: digits)).dropped
    refine ⟨found?, fun rest hrest => ?_⟩
    rw [← hfound rest hrest, List.append_assoc, readNumber_digits hc hdigits (htail.undigited rest)]

end Json

/-! ## Doubles -/

namespace Decimal

open Json

/-- A row of zeros has digits only. -/
theorem isDigit_of_mem_zeros {n : Nat} {c : Char} (h : c ∈ zeros n) : c.isDigit = true := by
  rw [List.eq_of_mem_replicate h]
  decide

/-- There is no point among digits. -/
theorem not_contains_of_isDigit {text : List Char} (h : ∀ c ∈ text, c.isDigit = true) :
    text.contains '.' = false := by
  rw [Bool.eq_false_iff]
  intro hdot
  exact absurd (h '.' (List.contains_iff_mem.1 hdot)) (by decide)

/-- Plain text is made of digits, or has a point among digits. -/
theorem shape_plainText (d : Decimal) :
    (Whole d.plainText ∧ ∀ c ∈ d.plainText, c.isDigit = true) ∨
      ∃ whole digits, d.plainText = whole ++ '.' :: digits ∧ Whole whole ∧ digits ≠ [] ∧
        ∀ c ∈ digits, c.isDigit = true := by
  have hall : ∀ c ∈ decimalText d.digits, c.isDigit = true :=
    fun c h => isDigit_of_mem_decimalText h
  unfold plainText
  dsimp only
  split
  · exact .inl ⟨.zero, List.forall_mem_singleton.2 (by decide)⟩
  next hzero =>
    obtain ⟨c, digits, hdigits, hc⟩ := decimalText_eq_cons hzero
    split
    · refine .inr ⟨['0'], zeros (-d.pointPlace).toNat ++ decimalText d.digits, rfl, .zero, ?_, ?_⟩
      · simp [hdigits]
      · intro c h
        exact (List.mem_append.1 h).elim isDigit_of_mem_zeros (hall c)
    next hplace =>
      split
      · have htext : ∀ c ∈ decimalText d.digits ++ zeros (d.pointPlace.toNat -
            (decimalText d.digits).length), c.isDigit = true :=
          fun c h => (List.mem_append.1 h).elim (hall c) isDigit_of_mem_zeros
        refine .inl ⟨?_, htext⟩
        rw [hdigits, List.cons_append] at htext ⊢
        exact .digits hc htext
      next hlength =>
        obtain ⟨n, hn⟩ : ∃ n, d.pointPlace.toNat = n + 1 := ⟨d.pointPlace.toNat - 1, by omega⟩
        refine .inr ⟨_, _, rfl, ?_, ?_, fun c h => hall c (List.mem_of_mem_drop h)⟩
        · rw [hn, hdigits, List.take_succ_cons]
          refine .digits hc fun d h => ?_
          rw [← List.take_succ_cons, ← hdigits] at h
          exact hall d (List.mem_of_mem_take h)
        · rw [Ne, List.drop_eq_nil_iff]
          exact hlength

/-- A decimal that is written with a point has digits in front and is no integer. -/
theorem shape_pointedText (d : Decimal) :
    ∃ whole tail, d.pointedText = whole ++ tail ∧ Whole whole ∧ Fractional tail := by
  unfold pointedText
  dsimp only
  rcases d.shape_plainText with ⟨hwhole, hdigits⟩ | ⟨whole, digits, htext, hwhole, hne, hdigits⟩
  · rw [not_contains_of_isDigit hdigits]
    exact ⟨_, _, rfl, hwhole, .point (List.cons_ne_nil '0' [])
      (List.forall_mem_singleton.2 (by decide)) (.inl (Eq.refl []))⟩
  · rw [htext, if_pos (by simp)]
    refine ⟨whole, _, rfl, hwhole, ?_⟩
    simpa using Fractional.point hne hdigits (.inl rfl)

/-- The text of a decimal in a document is that of a number which is no integer. -/
theorem shape_documentText (d : Decimal) :
    ∃ whole tail, d.documentText = whole ++ tail ∧ Whole whole ∧ Fractional tail := by
  unfold documentText
  dsimp only
  split
  · exact d.shape_pointedText
  next hpower =>
    have hzero : d.digits ≠ 0 := fun h => hpower (.inl h)
    obtain ⟨c, digits, hdigits, hc⟩ := decimalText_eq_cons hzero
    have hall : ∀ e ∈ c :: digits, e.isDigit = true := by
      rw [← hdigits]
      exact fun e h => isDigit_of_mem_decimalText h
    have hscale : Power ('e' :: (if d.pointPlace - 1 < 0 then '-' else '+') ::
        decimalText (d.pointPlace - 1).natAbs) := by
      refine .mk ?_ Nat.toDigits_ne_nil fun c h => isDigit_of_mem_decimalText h
      split
      · exact .inl rfl
      · exact .inr rfl
    have hfirst : Whole [c] := .digits hc (by simpa using hall c (List.mem_cons_self ..))
    rw [significandText, hdigits]
    cases digits with
    | nil => exact ⟨[c], _, rfl, hfirst, .power hscale⟩
    | cons d digits =>
      exact ⟨[c], _, rfl, hfirst, .point (by simp) (fun e h => hall e (List.mem_cons_of_mem _ h))
        (.inr hscale)⟩

end Decimal

namespace Json

/-- The double that the reader finds in what is written for a double, if it finds one. -/
def reread? (value : Float) : Option Float :=
  (readFloat (floatChars value)).toOption.map (·.1)

end Json

end NeighborGraph
