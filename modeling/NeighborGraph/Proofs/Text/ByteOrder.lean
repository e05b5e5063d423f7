import Mathlib.Data.List.Lex
import Mathlib.Data.String.Basic
import Mathlib.Tactic.SplitIfs

/-!
# The order of texts

Texts are compared character by character. In UTF-8 this is the same as comparing them byte by byte
(`String.le_iff_utf8_le`): of two characters, the encoding of the smaller one comes first, and it
does so whatever follows (`String.utf8EncodeChar_append_lt`).
-/

namespace String

/-- The bytes of a text in UTF-8. -/
def utf8 (s : String) : List UInt8 := s.toUTF8.data.toList

/-- The bytes of a text are those of its characters in turn. -/
theorem utf8_eq_flatMap (s : String) : s.utf8 = s.toList.flatMap utf8EncodeChar := by
  rw [utf8, toUTF8_eq_toByteArray, ← utf8Encode_toList, List.utf8Encode,
    List.toList_data_toByteArray]

/-- Of two different characters, the encoding of the smaller one comes first, whatever follows. -/
theorem utf8EncodeChar_append_lt {c d : Char} (h : c < d) (s t : List UInt8) :
    utf8EncodeChar c ++ s < utf8EncodeChar d ++ t := by
  have hlt : c.val.toNat < d.val.toNat := UInt32.lt_iff_toNat_lt.1 h
  have hd : d.val.toNat < 0x110000 := by
    rcases d.valid with hd | ⟨-, hd⟩
    · exact Nat.lt_trans hd (by decide)
    · exact hd
  -- Bytes come first if the first one of them does, or if it is the same and the rest comes first.
  have htie : ∀ {a b : Nat} {l m : List UInt8}, a < 256 → b < 256 → a ≤ b → (a = b → l < m) →
      UInt8.ofNat a :: l < UInt8.ofNat b :: m := by
    intro a b l m ha hb hle h
    rw [List.cons_lt_cons_iff, UInt8.lt_iff_toNat_lt, ← UInt8.toNat_inj,
      UInt8.toNat_ofNat_of_lt' ha, UInt8.toNat_ofNat_of_lt' hb]
    rcases Nat.lt_or_eq_of_le hle with hlt | heq
    · exact .inl hlt
    · exact .inr ⟨heq, h heq⟩
  unfold utf8EncodeChar
  generalize c.val.toNat = v at hlt
  generalize d.val.toNat = w at hlt hd
  dsimp only
  -- Either the encodings differ in length, and then in the first byte, or they have a first byte to
  -- differ in because the numbers of the characters do.
  split_ifs
  all_goals first
    | omega
    | simp only [List.cons_append, List.nil_append]
      repeat refine htie (by omega) (by omega) (by omega) fun _ => ?_
      omega

/-- A text that comes first by its characters comes first by its bytes. -/
theorem utf8_lt_of_lt {l m : List Char} (h : l < m) :
    l.flatMap utf8EncodeChar < m.flatMap utf8EncodeChar := by
  induction h with
  | @nil d m =>
    rw [List.flatMap_nil, List.flatMap_cons]
    cases hd : utf8EncodeChar d with
    | nil => exact absurd hd utf8EncodeChar_ne_nil
    | cons b rest => exact .nil
  | @cons c l m _ ih =>
    rw [List.flatMap_cons, List.flatMap_cons]
    exact List.append_left_lt ih
  | @rel c l d m hcd =>
    rw [List.flatMap_cons, List.flatMap_cons]
    exact utf8EncodeChar_append_lt hcd _ _

/-- One text is before another exactly if its bytes are. -/
theorem lt_iff_utf8_lt {s t : String} : s < t ↔ s.utf8 < t.utf8 := by
  rw [utf8_eq_flatMap, utf8_eq_flatMap]
  constructor
  · exact utf8_lt_of_lt
  · intro h
    rcases lt_trichotomy s t with hlt | rfl | hgt
    · exact hlt
    · exact absurd h (List.lt_irrefl _)
    · exact absurd h (List.lt_asymm (utf8_lt_of_lt hgt))

/-- The order of texts is the order of their bytes. -/
theorem le_iff_utf8_le {s t : String} : s ≤ t ↔ s.utf8 ≤ t.utf8 :=
  not_congr lt_iff_utf8_lt

end String
