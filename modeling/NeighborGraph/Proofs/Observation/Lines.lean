import Mathlib.Data.List.ReduceOption
import Mathlib.Logic.Relation
import NeighborGraph.Observation.Log
import NeighborGraph.Proofs.Json.Returned.Record
import NeighborGraph.Proofs.Text.ByteOrder

/-!
# The lines of a log

Each line of a log says something of its own: an observation, or nothing if it is blank
(`ObservationLog.said?`). A log is read if all of its lines say something, and its document is
that of all observations; else the first line that is not sound decides, and nothing behind it
matters (`ObservationLog.toDocument_by_lines`).

What a log says is put together from what its parts say, cut at line ends
(`ObservationLog.observed?_append`). A carriage return behind a line, a blank line and the end of
the last line add nothing to it, so that logs which differ in these alone have the same document
(`ObservationLog.Respaced`).
-/

namespace NeighborGraph

open Json

/-! ## Observations in front of a carriage return -/

/-- Numbers of packets are read alike. -/
theorem readsReturned_readPacketCount : ReadsReturned readPacketCount := by
  intro text
  refine (readsReturned_readNumberAs "f64" _ text).bind ?_
  rintro _ _ ⟨count, rest, hrest⟩
  dsimp only
  split
  · exact .ok (.mk count rest hrest)
  · exact .error _ _

/-- All fields of an observation are read alike. -/
theorem Observation.readsReturned_form : form.ReadsReturned := by
  intro field hfield
  simp only [form, List.mem_cons, List.not_mem_nil, or_false] at hfield
  rcases hfield with rfl | rfl | rfl
  · exact readsReturned_readText.mandatory "s" _
  · exact readsReturned_readText.mandatory "d" _
  · exact readsReturned_readPacketCount.mandatory "pk" _

/-- A carriage return behind an observation does not matter. -/
theorem Observation.toOption_ofJson_return (text : List Char) :
    (ofJson (text ++ ['\r'])).toOption = (ofJson text).toOption :=
  (readsReturned_readRecord readsReturned_form).toOption_readWhole text

namespace ObservationLog

/-! ## The text of a line -/

/-- Bytes encode a text if they are its UTF-8. -/
theorem decode?_eq_some {bytes : List UInt8} {text : List Char} :
    decode? bytes = some text ↔ text.flatMap String.utf8EncodeChar = bytes := by
  rw [decode?, Option.map_eq_some_iff]
  constructor
  · rintro ⟨s, hs, rfl⟩
    unfold String.fromUTF8? at hs
    split at hs
    · cases hs
      rw [← String.utf8_eq_flatMap, String.utf8, String.toUTF8_eq_toByteArray, String.fromUTF8]
    · cases hs
  · rintro rfl
    have hbytes : (String.ofList text).toByteArray =
        ⟨(text.flatMap String.utf8EncodeChar).toArray⟩ := by
      rw [String.toByteArray_ofList, List.utf8Encode]
      exact ByteArray.ext (Array.ext' (by simp))
    have hvalid := (String.ofList text).isValidUTF8
    rw [hbytes] at hvalid
    refine ⟨String.ofList text, ?_, String.toList_ofList⟩
    rw [String.fromUTF8?, dif_pos hvalid]
    exact congrArg some (String.toByteArray_inj.1 hbytes.symm)

/-- Only a carriage return is encoded with the byte of one at its end. -/
theorem eq_return_of_encode {c : Char} {bytes : List UInt8}
    (h : String.utf8EncodeChar c = bytes ++ [13]) : c = '\r' := by
  have hlast : (String.utf8EncodeChar c).getLast? = some 13 := by
    rw [h, List.getLast?_concat]
  have hnat : ∀ n < 256, UInt8.ofNat n = 13 → n = 13 := by
    intro n hn heq
    rw [← UInt8.toNat_ofNat_of_lt' hn, heq]
    rfl
  unfold String.utf8EncodeChar at hlast
  dsimp only at hlast
  -- every byte behind the first one of a character is at least 128
  split_ifs at hlast
  all_goals
    simp only [List.getLast?_cons_cons, List.getLast?_singleton, Option.some.injEq] at hlast
    have hcode := hnat _ (by omega) hlast
  · exact Char.ext (UInt32.toNat_inj.1 hcode)
  all_goals omega

/-- A carriage return behind a text is one more character of it. -/
theorem decode?_append_return (bytes : List UInt8) :
    decode? (bytes ++ [13]) = (decode? bytes).map (· ++ ['\r']) := by
  have hreturn : String.utf8EncodeChar '\r' = [13] := by decide
  ext text
  rw [Option.map_eq_some_iff, decode?_eq_some]
  constructor
  · intro h
    rcases List.eq_nil_or_concat' text with rfl | ⟨init, c, rfl⟩
    · simp at h
    rw [List.flatMap_append, List.flatMap_singleton] at h
    obtain ⟨front, last, hlast⟩ : ∃ front last, String.utf8EncodeChar c = front ++ [last] := by
      rcases List.eq_nil_or_concat' (String.utf8EncodeChar c) with hnil | hconcat
      · exact absurd hnil String.utf8EncodeChar_ne_nil
      · exact hconcat
    rw [hlast, ← List.append_assoc] at h
    obtain ⟨hbytes, hbyte⟩ := List.append_inj' h rfl
    cases hbyte
    cases eq_return_of_encode hlast
    have hfront : front = [] := by
      rw [hreturn] at hlast
      simpa using hlast
    rw [hfront, List.append_nil] at hbytes
    exact ⟨init, decode?_eq_some.2 hbytes, rfl⟩
  · rintro ⟨text, htext, rfl⟩
    rw [List.flatMap_append, decode?_eq_some.1 htext, List.flatMap_singleton, hreturn]

/-! ## What a line says -/

/-- What a line says, if it is sound: nothing if it is blank, else an observation. -/
def said? (line : List UInt8) : Option (Option Observation) := do
  let text ← decode? line
  if isBlankText text then return none
  else
    let o ← (Observation.ofJson text).toOption
    return some o

/-- A line is text, and an observation if it is not blank. -/
def Sound (line : List UInt8) : Prop :=
  ∃ text, decode? line = some text ∧
    (isBlankText text = false → ∃ o, Observation.ofJson text = .ok o)

/-- What is wrong with a line of a number that is not sound. -/
inductive Offends (number : Nat) (line : List UInt8) : LoadFault → Prop
  | notText (hdecode : decode? line = none) : Offends number line (.unreadable .notText)
  | badObservation {text : List Char} {fault : Fault} (hdecode : decode? line = some text)
    (hblank : isBlankText text = false) (hread : Observation.ofJson text = .error fault) :
    Offends number line (.badObservation number (fault.report .whole text))

/-- A line is sound exactly if it says something, if only that it is blank. -/
theorem sound_iff {line : List UInt8} : Sound line ↔ ∃ entry, said? line = some entry := by
  unfold Sound said?
  cases decode? line with
  | none => simp
  | some text =>
    cases hblank : isBlankText text with
    | true => simp [hblank]
    | false => cases hread : Observation.ofJson text <;> simp [hblank, hread, Except.toOption]

/-- What a line says is read from a text. -/
theorem ofJson_of_said? {line : List UInt8} {o : Observation} (h : said? line = some (some o)) :
    ∃ text, Observation.ofJson text = .ok o := by
  obtain ⟨text, -, h⟩ := Option.bind_eq_some_iff.1 h
  split at h
  · cases h
  · obtain ⟨found, hfound, h⟩ := Option.bind_eq_some_iff.1 h
    cases h
    exact ⟨text, Except.toOption_eq_some.1 hfound⟩

/-- A carriage return behind a line does not change what it says. -/
theorem said?_append_return (line : List UInt8) : said? (line ++ [13]) = said? line := by
  have hblank : ∀ text : List Char, isBlankText (text ++ ['\r']) = isBlankText text := by
    intro text
    rw [isBlankText, List.all_append, show ['\r'].all isBlankChar = true by decide, Bool.and_true]
    rfl
  unfold said?
  rw [decode?_append_return]
  cases decode? line with
  | none => rfl
  | some text =>
    dsimp only [Option.map_some, Option.bind_eq_bind, Option.bind_some]
    rw [hblank, Observation.toOption_ofJson_return]

/-! ## What lines say together -/

/-- The observations of lines, if all of them are sound. -/
def heard? (lines : List (List UInt8)) : Option (List Observation) :=
  (lines.mapM said?).map List.reduceOption

/-- What some lines say is what the first one says, and then what the others say. -/
theorem heard?_cons (line : List UInt8) (lines : List (List UInt8)) :
    heard? (line :: lines) = (said? line).bind fun entry =>
      (heard? lines).map (entry.toList ++ ·) := by
  unfold heard?
  rw [List.mapM_cons]
  cases said? line with
  | none => rfl
  | some entry =>
    cases lines.mapM said? with
    | none => rfl
    | some entries => cases entry <;> rfl

/-- Something is heard from some lines exactly if all of them are sound. -/
theorem heard?_eq_some_iff {lines : List (List UInt8)} :
    (∃ os, heard? lines = some os) ↔ ∀ line ∈ lines, Sound line := by
  induction lines with
  | nil => simp [heard?]
  | cons line lines ih =>
    rw [List.forall_mem_cons, ← ih, sound_iff, heard?_cons]
    cases said? line <;> cases heard? lines <;> simp

/-- Reading a line adds to a tally what the line says. -/
theorem toOption_readLine (number : Nat) (tally : Tally) (line : List UInt8) :
    (readLine number tally line).toOption =
      (said? line).map fun entry => entry.toList.foldl Tally.observe tally := by
  unfold readLine said?
  cases decode? line with
  | none => rfl
  | some text =>
    dsimp only [Option.bind_eq_bind, Option.bind_some]
    split
    · rfl
    · cases Observation.ofJson text <;> rfl

/-- Reading some lines adds to a tally what they say, in order. -/
theorem toOption_readLines (number : Nat) (tally : Tally) (lines : List (List UInt8)) :
    (readLines number tally lines).toOption =
      (heard? lines).map fun os => os.foldl Tally.observe tally := by
  induction lines generalizing number tally with
  | nil => rfl
  | cons line lines ih =>
    rw [readLines, Except.toOption_bind, toOption_readLine, heard?_cons]
    cases said? line with
    | none => rfl
    | some entry =>
      rw [Option.map_some, Option.bind_some, Option.bind_some, ih, Option.map_map]
      simp only [Function.comp_def, List.foldl_append]

/-- A line that is not sound is refused for what is wrong with it. -/
theorem readLine_eq_error {number : Nat} {tally : Tally} {line : List UInt8} {fault : LoadFault} :
    readLine number tally line = .error fault ↔ Offends number line fault := by
  constructor
  · intro h
    unfold readLine at h
    split at h
    · next hdecode =>
      cases h
      exact .notText hdecode
    · next hdecode =>
      split at h
      · cases h
      · next hblank =>
        split at h
        · cases h
        · next hread =>
          cases h
          exact .badObservation hdecode (Bool.eq_false_iff.2 hblank) hread
  · rintro (hdecode | ⟨hdecode, hblank, hread⟩)
    · rw [readLine, hdecode]
    · simp [readLine, hdecode, hblank, hread]

/-- Lines are refused for the first one that is not sound. -/
theorem readLines_eq_error {number : Nat} {tally : Tally} {lines : List (List UInt8)}
    {fault : LoadFault} :
    readLines number tally lines = .error fault ↔
      ∃ before line after, lines = before ++ line :: after ∧ (∀ l ∈ before, Sound l) ∧
        Offends (number + before.length) line fault := by
  induction lines generalizing number tally with
  | nil => simp [readLines]
  | cons line lines ih =>
    have hnumber : ∀ n, number + 1 + n = number + (n + 1) := by omega
    rw [readLines, Except.bind_eq_error]
    simp only [ih, readLine_eq_error, hnumber]
    constructor
    · rintro (h | ⟨middle, hline, before, last, after, rfl, hbefore, hlast⟩)
      · exact ⟨[], line, lines, rfl, List.forall_mem_nil _, h⟩
      · have hsound : Sound line := by
          have hentry := Except.toOption_eq_some.2 hline
          rw [toOption_readLine, Option.map_eq_some_iff] at hentry
          obtain ⟨entry, hentry, -⟩ := hentry
          exact sound_iff.2 ⟨entry, hentry⟩
        exact ⟨line :: before, last, after, rfl, List.forall_mem_cons.2 ⟨hsound, hbefore⟩, hlast⟩
    · rintro ⟨_ | ⟨first, before⟩, last, after, hlines, hbefore, hlast⟩
      · cases hlines
        exact .inl hlast
      · cases hlines
        obtain ⟨hsound, hbefore⟩ := List.forall_mem_cons.1 hbefore
        obtain ⟨entry, hentry⟩ := sound_iff.1 hsound
        refine .inr ⟨entry.toList.foldl Tally.observe tally, ?_, before, last, after, rfl,
          hbefore, hlast⟩
        rw [← Except.toOption_eq_some, toOption_readLine, hentry]
        rfl

/-! ## Cutting a log into lines -/

/-- A line without the carriage return that stands before its end, if there is one. -/
def unreturned (line : List UInt8) : List UInt8 :=
  if line.getLast? = some 13 then line.dropLast else line

/-- A line feed ends the line that has been begun, and another one begins. -/
theorem linesFrom_end (line rest : List UInt8) :
    linesFrom line (10 :: rest) = unreturned line.reverse :: lines rest := by
  rw [linesFrom.eq_def, unreturned, List.getLast?_reverse]
  dsimp only
  rw [if_pos rfl]
  split
  · next others =>
    rw [List.head?_cons, if_pos rfl, List.reverse_cons, List.dropLast_concat]
    rfl
  · next hne =>
    rw [if_neg]
    · rfl
    · intro hhead
      obtain ⟨others, rfl⟩ := List.head?_eq_some_iff.1 hhead
      exact hne others rfl

/-- Any other byte belongs to the line that has been begun. -/
theorem linesFrom_byte {byte : UInt8} (hbyte : byte ≠ 10) (line rest : List UInt8) :
    linesFrom line (byte :: rest) = linesFrom (byte :: line) rest := by
  rw [linesFrom.eq_def]
  exact if_neg hbyte

/-- So do several bytes without a line feed among them. -/
theorem linesFrom_append {bytes : List UInt8} (hbytes : 10 ∉ bytes) (line rest : List UInt8) :
    linesFrom line (bytes ++ rest) = linesFrom (bytes.reverse ++ line) rest := by
  induction bytes generalizing line with
  | nil => rfl
  | cons byte bytes ih =>
    obtain ⟨hbyte, hbytes⟩ := not_or.1 (mt List.mem_cons.2 hbytes)
    rw [List.cons_append, linesFrom_byte (Ne.symm hbyte), ih hbytes, List.reverse_cons,
      List.append_assoc, List.singleton_append]

/-- What stands behind the last line feed is a line as it is, if anything stands there. -/
theorem lines_last {line : List UInt8} (hline : 10 ∉ line) :
    lines line = if line = [] then [] else [line] := by
  have h := linesFrom_append hline [] []
  rw [List.append_nil, List.append_nil] at h
  rw [lines, h, linesFrom]
  simp

/-- A log with a line feed in it is cut there into two. -/
theorem linesFrom_append_end (line before after : List UInt8) :
    linesFrom line (before ++ 10 :: after) = linesFrom line (before ++ [10]) ++ lines after := by
  induction before generalizing line with
  | nil =>
    rw [List.nil_append, List.nil_append, linesFrom_end, linesFrom_end]
    rfl
  | cons byte before ih =>
    rw [List.cons_append, List.cons_append]
    by_cases hbyte : byte = 10
    · rw [hbyte, linesFrom_end, linesFrom_end, lines, ih]
      rfl
    · rw [linesFrom_byte hbyte, linesFrom_byte hbyte, ih]

/-- Lines that have ended are the same lines whatever follows. -/
theorem lines_append_end (before after : List UInt8) :
    lines (before ++ 10 :: after) = lines (before ++ [10]) ++ lines after :=
  linesFrom_append_end [] before after

/-! ## What a log says -/

/-- The observations of a log, if all of its lines are sound. -/
def observed? (log : List UInt8) : Option (List Observation) := heard? (lines log)

/-- The document of a log is that of the tally of what is observed. -/
theorem toOption_toDocument (log : List UInt8) :
    (toDocument log).toOption =
      (observed? log).map fun os => (Tally.ofList os).toDocument := by
  rw [toDocument, Except.toOption_bind, toOption_readLines, observed?]
  cases heard? (lines log) <;> rfl

/-- A line says the same without the carriage return before its end. -/
theorem said?_unreturned (line : List UInt8) : said? (unreturned line) = said? line := by
  unfold unreturned
  split
  · next h =>
    obtain ⟨init, rfl⟩ := List.getLast?_eq_some_iff.1 h
    rw [List.dropLast_concat, said?_append_return]
  · rfl

/-- A single line is heard as it is said. -/
theorem heard?_singleton (line : List UInt8) : heard? [line] = (said? line).map Option.toList := by
  rw [heard?_cons]
  cases said? line with
  | none => rfl
  | some entry => exact congrArg some (List.append_nil _)

/-- An empty line says nothing, so that it does not matter whether it is a line at all. -/
theorem heard?_linesFrom_nil (line : List UInt8) :
    heard? (linesFrom line []) = (said? line.reverse).map Option.toList := by
  cases line with
  | nil =>
    have hdecode : decode? [] = some [] := decode?_eq_some.2 rfl
    rw [List.reverse_nil, said?, hdecode]
    rfl
  | cons byte line => exact heard?_singleton _

/-- What a log says behind a line feed comes after what it says before. -/
theorem heard?_linesFrom_append (line before after : List UInt8) :
    heard? (linesFrom line (before ++ 10 :: after)) =
      (heard? (linesFrom line before)).bind fun os => (observed? after).map (os ++ ·) := by
  induction before generalizing line with
  | nil =>
    rw [List.nil_append, linesFrom_end, heard?_cons, said?_unreturned, heard?_linesFrom_nil,
      Option.bind_map]
    rfl
  | cons byte before ih =>
    rw [List.cons_append]
    by_cases hbyte : byte = 10
    · rw [hbyte, linesFrom_end, linesFrom_end, heard?_cons, heard?_cons, lines, lines, ih]
      cases said? (unreturned line.reverse) with
      | none => rfl
      | some entry =>
        cases heard? (linesFrom [] before) with
        | none => rfl
        | some os =>
          cases observed? after with
          | none => rfl
          | some os' => exact congrArg some (List.append_assoc _ _ _).symm
    · rw [linesFrom_byte hbyte, linesFrom_byte hbyte, ih]

/-- A carriage return at the end of a log does not matter. -/
theorem heard?_linesFrom_return (line log : List UInt8) :
    heard? (linesFrom line (log ++ [13])) = heard? (linesFrom line log) := by
  induction log generalizing line with
  | nil =>
    rw [List.nil_append, linesFrom_byte (by decide), heard?_linesFrom_nil, heard?_linesFrom_nil,
      List.reverse_cons, said?_append_return]
  | cons byte log ih =>
    rw [List.cons_append]
    by_cases hbyte : byte = 10
    · rw [hbyte, linesFrom_end, linesFrom_end, heard?_cons, heard?_cons, lines, lines, ih]
    · rw [linesFrom_byte hbyte, linesFrom_byte hbyte, ih]

/-- What is said before a line end and what is said behind it are said together. -/
theorem observed?_append (before after : List UInt8) :
    observed? (before ++ 10 :: after) =
      (observed? before).bind fun os => (observed? after).map (os ++ ·) :=
  heard?_linesFrom_append [] before after

/-- A carriage return behind a log says nothing. -/
theorem observed?_append_return (log : List UInt8) : observed? (log ++ [13]) = observed? log :=
  heard?_linesFrom_return [] log

/-- The end of the last line says nothing. -/
theorem observed?_append_end (log : List UInt8) : observed? (log ++ [10]) = observed? log := by
  have hnil : observed? [] = some [] := rfl
  rw [observed?_append, hnil]
  cases observed? log with
  | none => rfl
  | some os => exact congrArg some (List.append_nil os)

/-- A blank line says nothing. -/
theorem observed?_blank {blank : List UInt8} {text : List Char} (hline : 10 ∉ blank)
    (hdecode : decode? blank = some text) (hblank : isBlankText text = true) :
    observed? blank = some [] := by
  have hentry : said? blank = some none := by
    rw [said?, hdecode]
    exact if_pos hblank
  rw [observed?, lines_last hline]
  split
  · rfl
  · rw [heard?_singleton, hentry]
    rfl

/-! ## Logs that differ in blanks alone -/

/-- A log is changed where it says nothing. -/
inductive Respaced : List UInt8 → List UInt8 → Prop
  /-- A blank line is put in front of a line, or behind the last one if that has ended. -/
  | blankLine {before blank after : List UInt8} {text : List Char}
    (hbefore : before = [] ∨ before.getLast? = some 10) (hline : 10 ∉ blank)
    (hdecode : decode? blank = some text) (hblank : isBlankText text = true) :
    Respaced (before ++ after) (before ++ (blank ++ 10 :: after))
  /-- A carriage return is put in front of a line feed. -/
  | lineEnd {before after : List UInt8} :
    Respaced (before ++ 10 :: after) (before ++ 13 :: 10 :: after)
  /-- The last line is ended. -/
  | lastEnd {log : List UInt8} : Respaced log (log ++ [10])

/-- Logs that are changed where they say nothing say the same. -/
theorem Respaced.observed?_eq {log log' : List UInt8} (h : Respaced log log') :
    observed? log' = observed? log := by
  cases h with
  | @blankLine before blank after text hbefore hline hdecode hblank =>
    have hnone : ∀ after, observed? (blank ++ 10 :: after) = observed? after := by
      intro after
      rw [observed?_append, observed?_blank hline hdecode hblank]
      exact Option.map_id'
    rcases hbefore with rfl | hbefore
    · exact hnone after
    · obtain ⟨init, rfl⟩ := List.getLast?_eq_some_iff.1 hbefore
      rw [List.append_assoc, List.append_assoc, List.singleton_append, List.singleton_append,
        observed?_append init, hnone, observed?_append init]
  | @lineEnd before after =>
    have h := observed?_append (before ++ [13]) after
    rw [List.append_assoc, List.singleton_append] at h
    rw [h, observed?_append, observed?_append_return]
  | lastEnd => exact observed?_append_end log

/-- Logs that come of each other by any changes where they say nothing have the same document. -/
theorem toOption_toDocument_of_respaced {log log' : List UInt8}
    (h : Relation.EqvGen Respaced log log') :
    (toDocument log).toOption = (toDocument log').toOption := by
  have hsame : observed? log = observed? log' := by
    induction h with
    | rel log log' h => exact h.observed?_eq.symm
    | refl log => rfl
    | symm log log' _ ih => exact ih.symm
    | trans log log' log'' _ _ ih ih' => exact ih.trans ih'
  rw [toOption_toDocument, toOption_toDocument, hsame]

/-- The log with a carriage return in front of each line feed. -/
def withReturns (log : List UInt8) : List UInt8 :=
  log.flatMap fun byte => if byte = 10 then [13, 10] else [byte]

/-- A log that has carriage returns before its line feeds is changed where it says nothing. -/
theorem respaced_withReturns (before log : List UInt8) :
    Relation.EqvGen Respaced (before ++ log) (before ++ withReturns log) := by
  induction log generalizing before with
  | nil => exact .refl _
  | cons byte log ih =>
    rw [withReturns, List.flatMap_cons]
    by_cases hbyte : byte = 10
    · subst hbyte
      rw [if_pos rfl]
      have h := ih (before ++ [13, 10])
      rw [List.append_assoc, List.append_assoc] at h
      exact .trans _ _ _ (.rel _ _ .lineEnd) h
    · rw [if_neg hbyte]
      have h := ih (before ++ [byte])
      rwa [List.append_assoc, List.append_assoc] at h

/-! ## The document of a log -/

/-- The fault of a log is that of its first line that is not sound. -/
inductive FirstOffence (log : List UInt8) : LoadFault → Prop
  | mk {before after : List (List UInt8)} {line : List UInt8} {fault : LoadFault}
    (hlines : lines log = before ++ line :: after) (hbefore : ∀ l ∈ before, Sound l)
    (hline : Offends (before.length + 1) line fault) : FirstOffence log fault

/-- A log is refused for its first offence, and for no other reason. -/
theorem toDocument_eq_error {log : List UInt8} {fault : LoadFault} :
    toDocument log = .error fault ↔ FirstOffence log fault := by
  rw [toDocument, Except.bind_eq_error, readLines_eq_error]
  constructor
  · rintro (⟨before, line, after, hlines, hbefore, hline⟩ | ⟨_, -, ⟨⟩⟩)
    rw [Nat.add_comm] at hline
    exact ⟨hlines, hbefore, hline⟩
  · rintro ⟨hlines, hbefore, hline⟩
    rw [Nat.add_comm] at hline
    exact .inl ⟨_, _, _, hlines, hbefore, hline⟩

/-- **A log is read line by line**: it has a document if all of its lines are sound, which is that
of their observations in order. Else it is refused for its first line that is not sound, whatever
follows that line. Where a log says nothing it may be changed at will. -/
theorem toDocument_by_lines (log : List UInt8) :
    ((∃ d, toDocument log = .ok d) ↔ ∀ line ∈ lines log, Sound line) ∧
    (∀ d, toDocument log = .ok d ↔ ∃ entries, (lines log).mapM said? = some entries ∧
      d = (Tally.ofList entries.reduceOption).toDocument) ∧
    (∀ fault, toDocument log = .error fault ↔ FirstOffence log fault) ∧
    (∀ fault after, toDocument (log ++ [10]) = .error fault →
      toDocument (log ++ 10 :: after) = .error fault) ∧
    (∀ log' d, Relation.EqvGen Respaced log log' →
      (toDocument log = .ok d ↔ toDocument log' = .ok d)) ∧
    ∀ d, toDocument log = .ok d ↔ toDocument (withReturns log) = .ok d := by
  have hrespaced : ∀ log' d, Relation.EqvGen Respaced log log' →
      (toDocument log = .ok d ↔ toDocument log' = .ok d) := by
    intro log' d h
    rw [← Except.toOption_eq_some, ← Except.toOption_eq_some, toOption_toDocument_of_respaced h]
  refine ⟨?_, fun d => ?_, fun _ => toDocument_eq_error, fun fault after h => ?_, hrespaced,
    fun d => hrespaced _ d (respaced_withReturns [] log)⟩
  · rw [← heard?_eq_some_iff]
    simp only [← Except.toOption_eq_some, toOption_toDocument, Option.map_eq_some_iff]
    constructor
    · rintro ⟨d, os, hos, -⟩
      exact ⟨os, hos⟩
    · rintro ⟨os, hos⟩
      exact ⟨_, os, hos, rfl⟩
  · rw [← Except.toOption_eq_some, toOption_toDocument, observed?, heard?, Option.map_map,
      Option.map_eq_some_iff]
    simp only [Function.comp_apply, eq_comm]
  · obtain ⟨hlines, hbefore, hline⟩ := toDocument_eq_error.1 h
    have hmore := lines_append_end log after
    rw [hlines, List.append_assoc, List.cons_append] at hmore
    exact toDocument_eq_error.2 ⟨hmore, hbefore, hline⟩

end ObservationLog

end NeighborGraph
