import NeighborGraph.Json.Printer
import NeighborGraph.Json.Scalar

/-!
# Strings and their escapes

Quotes, backslashes and controls are written with escapes, every other character as it is. The
reader undoes this character by character (`readStringTail_stringChar`), so that it gives back
every text and stops right behind the closing quote (`readString_stringChars`).
-/

namespace NeighborGraph.Json

/-- A digit of an escape is read as the number that it was written for. -/
theorem hexDigitValue?_hexDigitChar :
    ∀ n < 16, hexDigitValue? (hexDigitChar n) = some n := by
  decide

/-- Controls are written with four digits, of which the first two are zeros. -/
theorem readEscape_control {c : Char} (hc : c.toNat < 0x20) (rest : List Char) :
    readEscape ('u' :: '0' :: '0' :: hexDigitChar (c.toNat / 16) :: hexDigitChar (c.toNat % 16) ::
      rest) = .ok (c, rest) := by
  have hzero : hexDigitValue? '0' = some 0 := by decide
  have hhigh := hexDigitValue?_hexDigitChar (c.toNat / 16) (by omega)
  have hlow := hexDigitValue?_hexDigitChar (c.toNat % 16) (by omega)
  have hcode : ((0 * 16 + 0) * 16 + c.toNat / 16) * 16 + c.toNat % 16 = c.toNat := by omega
  have hsurrogate : ¬ 0xDC00 ≤ c.toNat ∧ ¬ 0xD800 ≤ c.toNat := by omega
  simp only [readEscape, readUnicodeEscape, readHex, hzero, hhigh, hlow, hcode]
  simp [bind, Except.bind, hsurrogate, pure, Except.pure]

/-- An escape in a string is read as its character. -/
theorem readStringTail_escape {tail rest : List Char} {c : Char}
    (h : readEscape tail = .ok (c, rest)) (read : List Char) :
    readStringTail read ('\\' :: tail) = readStringTail (c :: read) rest := by
  rw [readStringTail]
  split
  · next c' rest' h' =>
    rw [h] at h'
    cases h'
    rfl
  · next fault h' =>
    rw [h] at h'
    cases h'

/-- What is written for a character is read as that character. -/
theorem readStringTail_stringChar (read : List Char) (c : Char) (rest : List Char) :
    readStringTail read (stringChar c ++ rest) = readStringTail (c :: read) rest := by
  unfold stringChar
  split
  case h_8 hquote hslash _ _ _ _ _ =>
    split
    · next hc => exact readStringTail_escape (readEscape_control hc rest) read
    · next hc =>
      rw [List.singleton_append, readStringTail]
      · rw [if_neg hc]
      · exact hquote
      · exact hslash
  all_goals exact readStringTail_escape rfl read

/-- Characters that are written in a string are read again, up to the quote behind them. -/
theorem readStringTail_flatMap (read chars rest : List Char) :
    readStringTail read (chars.flatMap stringChar ++ '"' :: rest) =
      .ok (String.ofList (read.reverse ++ chars), rest) := by
  induction chars generalizing read with
  | nil => rw [List.flatMap_nil, List.nil_append, readStringTail, List.append_nil]
  | cons c chars ih =>
    rw [List.flatMap_cons, List.append_assoc, readStringTail_stringChar, ih]
    simp

/-- Every text is read back from what is written for it. -/
theorem readString_stringChars (text : String) (rest : List Char) :
    readString (text.toList.flatMap stringChar ++ '"' :: rest) = .ok (text, rest) := by
  rw [readString, readStringTail_flatMap, List.reverse_nil, List.nil_append, String.ofList_toList]

end NeighborGraph.Json
