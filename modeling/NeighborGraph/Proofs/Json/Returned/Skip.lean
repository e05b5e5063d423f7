import NeighborGraph.Proofs.Json.Returned.Scalar

/-!
# Values that are read over in front of a carriage return

Reading over a value leaves a carriage return behind the text where it is
(`skipValue_returned`). The steps of this reading are counted, and the count is enough for the
text with the carriage return exactly if it is for the text alone (`skipSteps`).
-/

namespace NeighborGraph.Json

open Except

variable {text rest : List Char}

/-- An escape is skipped alike. -/
theorem skipEscape_returned (text : List Char) :
    Alike (Returned text.length) (skipEscape (text ++ ['\r'])) (skipEscape text) := by
  cases text with
  | nil => exact .error _ _
  | cons c rest =>
    rw [List.cons_append]
    by_cases hc : c = 'u'
    · subst hc
      refine (readHex_returned rest).map ?_
      rintro _ _ ⟨_, rest, hrest⟩
      exact .mk _ (Nat.le_succ_of_le hrest)
    · rw [skipEscape.eq_3 c _ hc, skipEscape.eq_3 c _ hc]
      split
      · exact .ok (.mk _ (Nat.le_succ _))
      · exact .error _ _

/-- Reading over a string goes on where an escape ends. -/
theorem skipString_escape_eq (tail : List Char) :
    skipString ('\\' :: tail) = skipEscape tail >>= skipString := by
  rw [skipString]
  cases skipEscape tail <;> rfl

/-- A string is skipped alike. -/
theorem skipString_returned (text : List Char) :
    Alike (Returned text.length) (skipString (text ++ ['\r'])) (skipString text) := by
  induction hn : text.length using Nat.strongRecOn generalizing text with
  | ind n ih =>
    cases text with
    | nil =>
      rw [List.nil_append, skipString.eq_4 _ _ (by decide) (by decide), if_pos (by decide),
        skipString]
      exact .error _ _
    | cons c rest =>
      rw [List.length_cons] at hn
      rw [List.cons_append]
      by_cases hquote : c = '"'
      · rw [hquote, skipString, skipString]
        exact .ok (.mk _ (by omega))
      by_cases hslash : c = '\\'
      · rw [hslash, skipString_escape_eq, skipString_escape_eq]
        refine (skipEscape_returned rest).bind ?_
        rintro _ rest ⟨_, hrest⟩
        exact (ih rest.length (by omega) rest rfl).mono (Returned.mono (by omega))
      · rw [skipString.eq_4 _ _ hquote hslash, skipString.eq_4 _ _ hquote hslash]
        split
        · exact .error _ _
        · exact (ih rest.length (by omega) rest rfl).mono (Returned.mono (by omega))

/-- An exponent is skipped alike. -/
theorem skipExponent_returned (text : List Char) :
    Alike (Returned text.length) (skipExponent (text ++ ['\r'])) (skipExponent text) := by
  obtain ⟨hsign, hlength⟩ := splitSign_returned text
  rw [skipExponent, skipExponent, hsign]
  dsimp only
  cases hdigits : (splitSign text).2 with
  | nil => exact .error _ _
  | cons c rest =>
    rw [hdigits, List.length_cons] at hlength
    rw [List.cons_append]
    dsimp only
    rw [dropWhile_isDigit_returned]
    split
    · have := length_dropWhile_isDigit_le rest
      exact .ok (.mk _ (by omega))
    · exact .error _ _

/-- An exponent that may be missing is skipped alike. -/
theorem skipScale_returned (text : List Char) :
    Alike (Returned text.length) (skipScale (text ++ ['\r'])) (skipScale text) := by
  cases text with
  | nil => exact .ok (.mk _ (Nat.le_refl _))
  | cons c rest =>
    rw [List.cons_append]
    by_cases hc : c = 'e' ∨ c = 'E'
    · rcases hc with rfl | rfl
      all_goals exact (skipExponent_returned rest).mono (Returned.mono (Nat.le_succ _))
    · have h : ∀ rest, skipScale (c :: rest) = .ok (c :: rest) := by
        intro rest
        rw [skipScale.eq_3] <;> simp_all
      rw [h, h]
      exact .ok (.mk (c :: rest) (Nat.le_refl _))

/-- What stands behind the first digits is skipped alike. -/
theorem skipAfterInteger_returned (text : List Char) :
    Alike (Returned text.length) (skipAfterInteger (text ++ ['\r'])) (skipAfterInteger text) := by
  cases text with
  | nil => exact .ok (.mk _ (Nat.le_refl _))
  | cons c rest =>
    rw [List.cons_append]
    by_cases hc : c = '.'
    · subst hc
      cases rest with
      | nil => exact .error _ _
      | cons d rest =>
        rw [List.cons_append, skipAfterInteger, skipAfterInteger, dropWhile_isDigit_returned]
        split
        · have := length_dropWhile_isDigit_le rest
          refine (skipScale_returned _).mono (Returned.mono ?_)
          simp only [List.length_cons]
          omega
        · exact .error _ _
    · have h : ∀ rest, skipAfterInteger (c :: rest) = skipScale (c :: rest) := by
        intro rest
        rw [skipAfterInteger.eq_3 _ (by simpa using hc)]
      rw [h, h]
      exact skipScale_returned (c :: rest)

/-- A number is skipped alike, and takes up some of the text. -/
theorem skipNumber_returned (text : List Char) :
    Alike (Returned (text.length - 1)) (skipNumber (text ++ ['\r'])) (skipNumber text) := by
  cases text with
  | nil =>
    rw [List.nil_append, skipNumber.eq_3 _ _ (by decide), if_neg (by decide)]
    exact .error _ _
  | cons c rest =>
    rw [List.cons_append]
    by_cases hc : c = '0'
    · subst hc
      cases rest with
      | nil => exact .ok (.mk [] (Nat.zero_le _))
      | cons d rest =>
        rw [List.cons_append, skipNumber, skipNumber]
        split
        · exact .error _ _
        · exact skipAfterInteger_returned (d :: rest)
    · rw [skipNumber.eq_3 _ _ hc, skipNumber.eq_3 _ _ hc, dropWhile_isDigit_returned]
      split
      · exact (skipAfterInteger_returned _).mono (Returned.mono (length_dropWhile_isDigit_le rest))
      · exact .error _ _

/-- A colon is expected alike. -/
theorem expectColon_returned (text : List Char) :
    Alike (Returned text.length) (expectColon (text ++ ['\r'])) (expectColon text) := by
  unfold expectColon
  cases h : skipBlanks text with
  | nil =>
    rw [skipBlanks_returned_nil h]
    exact .error _ _
  | cons c rest =>
    obtain ⟨hreturned, hlength⟩ := skipBlanks_returned_cons h
    rw [hreturned]
    split
    · next heq =>
      cases heq
      exact .ok (.mk _ (Nat.le_of_lt hlength))
    · contradiction
    · next hne _ =>
      split
      · next heq =>
        cases heq
        exact absurd rfl (hne _)
      · contradiction
      · exact .error _ _

/-- The key of a member is skipped alike. -/
theorem skipKey_returned (container : Container) (text : List Char) :
    Alike (Returned text.length) (skipKey container (text ++ ['\r'])) (skipKey container text) := by
  cases container with
  | list => exact .ok (.mk _ (Nat.le_refl _))
  | map =>
    unfold skipKey
    dsimp only
    cases h : skipBlanks text with
    | nil =>
      rw [skipBlanks_returned_nil h]
      exact .error _ _
    | cons c rest =>
      obtain ⟨hreturned, hlength⟩ := skipBlanks_returned_cons h
      rw [hreturned]
      split
      · next heq =>
        cases heq
        refine (skipString_returned rest).bind ?_
        rintro _ rest ⟨_, hrest⟩
        exact (expectColon_returned rest).mono (Returned.mono (by omega))
      · contradiction
      · next hne _ =>
        split
        · next heq =>
          cases heq
          exact absurd rfl (hne _)
        · contradiction
        · exact .error _ _

/-- A bound on the steps that reading over a value takes. -/
def skipSteps : SkipStage → List Char → Nat
  | .opened, text => 2 * text.length + 1
  | .value, text => 2 * text.length
  | .ended, text => 2 * text.length

/-- The characters that a skipped value can begin with, the digits apart. -/
def valueMarks : List Char := ['n', 't', 'f', '-', '"', '[', '\x7b']

/-- A value that begins with none of the other marks is a number or none at all. -/
theorem skipOpen_digit {c : Char} (hc : c ∉ valueMarks) (h : skipBlanks text = c :: rest)
    (fuel : Nat) (containers : List Container) :
    skipOpen (fuel + 1) .value containers text =
      if c.isDigit then skipNumber (c :: rest) >>= skipOpen fuel .ended containers
      else .error (.onNext .valueExpected (c :: rest)) := by
  rw [skipOpen, h]
  split <;> simp_all [valueMarks]

/-- After a value without a comma behind it, the container is closed or the text is refused. -/
theorem skipOpen_ended {c : Char} (hc : c ≠ ',') (h : skipBlanks text = c :: rest) (fuel : Nat)
    (container : Container) (outer : List Container) :
    skipOpen (fuel + 1) .ended (container :: outer) text =
      if c == container.closing then skipOpen fuel .ended outer rest
      else .error (.onNext container.separatorCause (c :: rest)) := by
  rw [skipOpen, h]
  split <;> simp_all

/-- Whatever is left of a value is skipped alike if there are steps enough for both texts. -/
theorem skipOpen_returned {fuel fuel' : Nat} {stage : SkipStage} {text : List Char}
    (hfuel : skipSteps stage text < fuel) (hfuel' : skipSteps stage text + 2 < fuel')
    (containers : List Container) :
    Alike (Returned text.length) (skipOpen fuel' stage containers (text ++ ['\r']))
      (skipOpen fuel stage containers text) := by
  -- Both readings count their own steps, and each takes one at a time. The carriage return makes
  -- the text longer by one character, which is two steps more.
  induction fuel generalizing fuel' stage containers text with
  | zero => omega
  | succ fuel ih =>
    obtain ⟨fuel', rfl⟩ : ∃ n, fuel' = n + 1 := ⟨fuel' - 1, by omega⟩
    -- Each step reads something over, and goes on at a stage that needs fewer steps.
    have hnext : ∀ (next : SkipStage) {n : Nat} {x y : Except Fault (List Char)},
        Alike (Returned n) x y → n ≤ text.length →
        (∀ rest : List Char, rest.length ≤ n → skipSteps next rest < skipSteps stage text) →
        ∀ containers, Alike (Returned text.length) (x >>= skipOpen fuel' next containers)
          (y >>= skipOpen fuel next containers) := by
      intro next n x y hxy hn hsteps containers
      refine hxy.bind ?_
      rintro _ rest ⟨_, hrest⟩
      have hless := hsteps rest hrest
      exact (ih (by omega) (by omega) containers).mono (Returned.mono (by omega))
    cases stage with
    | value =>
      cases h : skipBlanks text with
      | nil =>
        rw [skipOpen, skipOpen, h, skipBlanks_returned_nil h]
        exact .error _ _
      | cons c rest =>
        obtain ⟨hreturned, hlength⟩ := skipBlanks_returned_cons h
        have hended := fun {x y} (hxy : Alike (Returned rest.length) x y) =>
          hnext .ended hxy (Nat.le_of_lt hlength)
            (fun t _ => by simp only [skipSteps]; omega) containers
        have hopened := fun container => hnext .opened (.ok (.mk rest (Nat.le_refl _)))
          (Nat.le_of_lt hlength) (fun t _ => by simp only [skipSteps]; omega)
          (container :: containers)
        by_cases hc : c ∈ valueMarks
        · rw [skipOpen, skipOpen, h, hreturned]
          simp only [valueMarks, List.mem_cons, List.not_mem_nil, or_false] at hc
          rcases hc with rfl | rfl | rfl | rfl | rfl | rfl | rfl
          · exact hended (expectWord_returned (by decide) rest)
          · exact hended (expectWord_returned (by decide) rest)
          · exact hended (expectWord_returned (by decide) rest)
          · exact hended ((skipNumber_returned rest).mono (Returned.mono (Nat.sub_le _ _)))
          · exact hended (skipString_returned rest)
          · exact hopened .list
          · exact hopened .map
        · rw [skipOpen_digit hc h, skipOpen_digit hc hreturned]
          split
          · exact hended (skipNumber_returned (c :: rest))
          · exact .error _ _
    | ended =>
      cases containers with
      | nil =>
        rw [skipOpen, skipOpen]
        exact .ok (.mk text (Nat.le_refl _))
      | cons container outer =>
        cases h : skipBlanks text with
        | nil =>
          rw [skipOpen, skipOpen, h, skipBlanks_returned_nil h]
          exact .error _ _
        | cons c rest =>
          obtain ⟨hreturned, hlength⟩ := skipBlanks_returned_cons h
          by_cases hc : c = ','
          · subst hc
            rw [skipOpen, skipOpen, h, hreturned]
            exact hnext .value (skipKey_returned container rest) (Nat.le_of_lt hlength)
              (fun t _ => by simp only [skipSteps]; omega) _
          · rw [skipOpen_ended hc h, skipOpen_ended hc hreturned]
            split
            · exact hnext .ended (.ok (.mk rest (Nat.le_refl _))) (Nat.le_of_lt hlength)
                (fun t _ => by simp only [skipSteps]; omega) _
            · exact .error _ _
    | opened =>
      cases containers with
      | nil =>
        rw [skipOpen, skipOpen]
        exact .ok (.mk text (Nat.le_refl _))
      | cons container outer =>
        cases h : skipBlanks text with
        | nil =>
          rw [skipOpen, skipOpen, h, skipBlanks_returned_nil h]
          exact .error _ _
        | cons c rest =>
          obtain ⟨hreturned, hlength⟩ := skipBlanks_returned_cons h
          rw [skipOpen, skipOpen, h, hreturned]
          dsimp only
          split
          · exact hnext .ended (.ok (.mk rest (Nat.le_refl _))) (Nat.le_of_lt hlength)
              (fun t _ => by simp only [skipSteps]; omega) _
          · exact hnext .value (skipKey_returned container (c :: rest)) (Nat.succ_le_of_lt hlength)
              (fun t ht => by simp only [skipSteps, List.length_cons] at ht ⊢; omega) _

/-- Values are skipped alike. -/
theorem skipValue_returned (text : List Char) :
    Alike (Returned text.length) (skipValue (text ++ ['\r'])) (skipValue text) := by
  refine skipOpen_returned ?_ ?_ []
  · simp only [skipSteps]
    omega
  · simp only [skipSteps, List.length_append, List.length_singleton]
    omega

end NeighborGraph.Json
