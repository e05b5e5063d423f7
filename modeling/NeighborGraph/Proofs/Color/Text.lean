import NeighborGraph.Color.Text
import NeighborGraph.Proofs.Json.Numbers

/-!
# What colors are written with

A color that is written by a name has the name of a color (`Color.IsProper`). Changes of opacity
keep colors proper, and the text of a proper color, like that of a number, has printable characters
only.
-/

namespace NeighborGraph

/-- The characters from the blank to the tilde. -/
def isPrintable (c : Char) : Bool := 0x20 ≤ c.toNat && c.toNat < 0x7F

/-- All characters of a text are printable. -/
def IsPrintable (text : String) : Prop := ∀ c ∈ text.toList, isPrintable c = true

instance (text : String) : Decidable (IsPrintable text) :=
  List.decidableBAll (isPrintable · = true) text.toList

@[simp] theorem isPrintable_append {a b : String} :
    IsPrintable (a ++ b) ↔ IsPrintable a ∧ IsPrintable b := by
  simp only [IsPrintable, String.toList_append]
  exact List.forall_mem_append

/-! ## Numbers -/

/-- A digit is printable. -/
theorem isPrintable_of_isDigit {c : Char} (h : c.isDigit = true) : isPrintable c = true := by
  simp only [Char.isDigit, Bool.and_eq_true, decide_eq_true_eq, ge_iff_le,
    UInt32.le_iff_toNat_le] at h
  change 48 ≤ c.toNat ∧ c.toNat ≤ 57 at h
  simp only [isPrintable, Bool.and_eq_true, decide_eq_true_eq]
  omega

/-- A decimal number is written with digits and a point. -/
theorem Decimal.isDigit_or_eq_of_mem_plainText {d : Decimal} {c : Char} (h : c ∈ d.plainText) :
    c.isDigit = true ∨ c = '.' := by
  rcases d.shape_plainText with ⟨-, hdigits⟩ | ⟨whole, digits, htext, hwhole, -, hdigits⟩
  · exact .inl (hdigits c h)
  · rw [htext] at h
    rcases List.mem_append.1 h with h | h
    · cases hwhole with
      | zero => exact .inl (by rw [List.mem_singleton.1 h]; decide)
      | digits _ hall => exact .inl (hall c h)
    · exact (List.mem_cons.1 h).elim .inr fun h => .inl (hdigits c h)

/-- The text of a binary number is printable, sign or none. -/
theorem BinaryNumber.isPrintable_plainText (n : BinaryNumber) : IsPrintable n.plainText := by
  cases n with
  | nan => decide
  | infinite negative => cases negative <;> decide
  | finite negative m =>
    intro c hc
    rw [plainText, String.toList_ofList] at hc
    rcases List.mem_append.1 hc with hsign | hdigits
    · cases negative with
      | true => rw [List.mem_singleton.1 hsign]; decide
      | false => cases hsign
    · rcases Decimal.isDigit_or_eq_of_mem_plainText hdigits with hdigit | rfl
      · exact isPrintable_of_isDigit hdigit
      · decide

/-! ## Colors -/

namespace Color

/-- If the color is written by a name, it is the name of a color. -/
def IsProper (c : Color) : Prop :=
  ∀ name, c.writtenAs = .named name → (bytesOfName? name).isSome = true

/-- The names of colors are printable. -/
theorem isPrintable_of_bytesOfName? {name : String} (h : (bytesOfName? name).isSome = true) :
    IsPrintable name := by
  have hnames : ∀ entry ∈ names, IsPrintable entry.1 := by decide +kernel
  obtain ⟨bytes, hbytes⟩ := Option.isSome_iff_exists.1 h
  obtain ⟨before, after, hsplit, -⟩ := List.lookup_eq_some_iff.1 hbytes
  exact hnames (name, bytes) (by rw [hsplit]; simp)

@[simp] theorem isPrintable_componentText (scale : Float32) (a : Option Float32) :
    IsPrintable (componentText scale a) := by
  cases a with
  | none => exact (by decide : IsPrintable "none")
  | some a => exact BinaryNumber.isPrintable_plainText _

/-- A function with commas between its arguments is printable if its name is. -/
theorem isPrintable_commaText (c : Color) {name : String} (h : IsPrintable name) (scale : Float32) :
    IsPrintable (c.commaText name scale) := by
  unfold commaText
  split <;> simp [h] <;> decide

/-- A function with blanks between its arguments is printable. -/
theorem isPrintable_blankText (c : Color) : IsPrintable c.blankText := by
  unfold blankText
  split <;> simp <;> decide

/-- A color function that names its space is printable. -/
theorem isPrintable_spaceText (c : Color) : IsPrintable c.spaceText := by
  unfold spaceText genericText functionText
  cases c.space with
  | hsl => exact c.isPrintable_commaText (by decide) _
  | _ =>
    simp only [isPrintable_append, isPrintable_blankText, and_true]
    decide

/-- The text of a proper color is printable. -/
theorem isPrintable_text {c : Color} (h : c.IsProper) : IsPrintable c.text := by
  unfold text
  split
  · next hname => exact isPrintable_of_bytesOfName? (h _ hname)
  · exact isPrintable_commaText _ (by decide) _
  · exact isPrintable_commaText _ (by decide) _
  · exact isPrintable_commaText _ (by decide) _
  · exact c.isPrintable_spaceText

/-! ## Proper colors -/

/-- A color that is not written by a name is proper, as only names could spoil the text. -/
theorem isProper_of_ne_named {c : Color} (h : ∀ name, c.writtenAs ≠ .named name) : c.IsProper :=
  fun name hname => absurd hname (h name)

/-- A color that is written by a known name is proper. -/
theorem isProper_ofNamed {name : String} {bytes : Nat} (h : bytesOfName? name = some bytes) :
    (ofNamed name bytes).IsProper := by
  rintro _ ⟨⟩
  rw [h]
  rfl

/-- Black is proper. -/
theorem isProper_black : black.IsProper := isProper_ofNamed rfl

/-- Blue is proper. -/
theorem isProper_blue : blue.IsProper := isProper_ofNamed rfl

/-- The gray of links is proper. -/
theorem isProper_linkGray : linkGray.IsProper := isProper_of_ne_named fun _ => nofun

/-- A proper color stays so with another opacity. -/
theorem isProper_withAlpha {c : Color} (h : c.IsProper) (alpha : Float32) :
    (c.withAlpha alpha).IsProper := by
  unfold withAlpha
  split
  · exact h
  · exact isProper_of_ne_named fun name => nofun

end Color

end NeighborGraph
