import NeighborGraph.Proofs.Json.Numbers
import NeighborGraph.Proofs.Session.Recorded
import NeighborGraph.Proofs.Storage.Alteration
import NeighborGraph.Surface.FrameFiles

/-!
# Frames as files

The name of a file tells its tick, as the zeros in front of a number do not change it
(`FrameFiles.fileName_injective`). Whatever frames the writer is given, its files and its list of
names are told by those of them that it has kept (`FrameFiles.Filed`), the last one for each place.
In a run the frames are those of consecutive ticks, so that the directory has exactly one file for
each multiple of the interval among them (`FrameFiles.files_of_run`).
-/

namespace NeighborGraph

/-- A canvas writes the text of the frame. -/
theorem Canvas.write_eq_ok {canvas : Canvas} {frame : Frame Float} {path : FilePath}
    {files after : FileTree} (h : canvas.write frame path files = .ok after) :
    files.write path (canvas.text frame).toUTF8.toList = .ok after := by
  unfold write at h
  split at h
  · exact Except.mapError_eq_ok.1 h
  · cases h

namespace FrameFiles

/-! ## Names -/

/-- The name of a drawing has at least five digits, with zeros in front where they are missing. -/
theorem toList_fileName (tick : Nat) : (fileName tick).toList = "frame-".toList ++
    (List.replicate (5 - (decimalText tick).length) '0' ++ decimalText tick ++ ".svg".toList) := by
  simp [fileName]

/-- The name of a drawing is a single step. -/
theorem isStep_fileName (tick : Nat) : FilePath.IsStep (fileName tick) := by
  constructor
  · intro hempty
    have htext := toList_fileName tick
    rw [hempty] at htext
    cases htext
  · rw [toList_fileName, List.mem_append, List.mem_append, List.mem_append]
    rintro (h | (h | h) | h)
    · exact absurd h (by decide)
    · cases List.eq_of_mem_replicate h
    · exact absurd (isDigit_of_mem_decimalText h) (by decide)
    · exact absurd h (by decide)

/-- The name of a drawing is none that begins otherwise. -/
theorem fileName_ne {name : String} (hname : name.toList.head? ≠ some 'f') (tick : Nat) :
    fileName tick ≠ name := by
  rintro rfl
  rw [toList_fileName] at hname
  exact hname rfl

/-- The name can be that of an entry of a directory. -/
def IsEntryName (name : String) : Prop := FilePath.IsStep name ∧ name ≠ "." ∧ name ≠ ".."

/-- The drawing of a tick can have its name in any directory. -/
theorem isEntryName_fileName (tick : Nat) : IsEntryName (fileName tick) :=
  ⟨isStep_fileName tick, fileName_ne (by decide) tick, fileName_ne (by decide) tick⟩

/-- Zeros in front of a number do not change it. -/
theorem ofDigitChars_replicate_append (count : Nat) (digits : List Char) :
    Nat.ofDigitChars 10 (List.replicate count '0' ++ digits) 0 = Nat.ofDigitChars 10 digits 0 := by
  induction count with
  | zero => rfl
  | succ count ih => rw [List.replicate_succ, List.cons_append, Nat.ofDigitChars_cons]; exact ih

/-- No two ticks share a file, be their numbers padded or not. -/
theorem fileName_injective : Function.Injective fileName := by
  intro tick tick' h
  have htext := congrArg String.toList h
  rw [toList_fileName, toList_fileName, List.append_cancel_left_eq, List.append_cancel_right_eq]
    at htext
  have hvalue := congrArg (Nat.ofDigitChars 10 · 0) htext
  simpa only [ofDigitChars_replicate_append, decimalText, Nat.ofDigitChars_ten_toDigits]
    using hvalue

/-! ## Frames that are kept -/

/-- A tick is drawn if its number is a multiple of the interval; the interval zero counts as one. -/
theorem takes_iff (w : FrameFiles) (tick : Nat) : w.takes tick = true ↔ max w.every 1 ∣ tick := by
  rw [takes, beq_iff_eq, Nat.dvd_iff_mod_eq_zero]

/-- The place of the drawing of a tick in a directory. -/
def placeOf (directory : Place) (tick : Nat) : Place := directory ++ [fileName tick]

/-- The drawings of different ticks have different places. -/
theorem placeOf_injective (directory : Place) : Function.Injective (placeOf directory) :=
  fun _ _ h => fileName_injective (List.singleton_inj.1 (List.append_cancel_left h))

/-- The three things that become of a frame: it is not to be written, it cannot be written, or it is
written. -/
theorem present_cases (w : FrameFiles) (tick : Nat) (frame : Frame Float) (state : State) :
    (w.takes tick = false ∧ w.surface.present tick frame state = (state, .ok ())) ∨
    (w.takes tick = true ∧ ∃ fault,
      w.surface.present tick frame state = (state, .error fault)) ∨
    (w.takes tick = true ∧ ∃ files,
      state.files.write (w.directory.child (fileName tick)) (w.canvas.text frame).toUTF8.toList =
        .ok files ∧
      w.surface.present tick frame state =
        (⟨files, state.written ++ [fileName tick]⟩, .ok ())) := by
  dsimp only [surface]
  cases htakes : w.takes tick with
  | false => exact .inl ⟨rfl, rfl⟩
  | true =>
    rw [if_pos rfl]
    cases hwrite : w.canvas.write frame (w.directory.child (fileName tick)) state.files with
    | error fault => exact .inr (.inl ⟨rfl, fault, rfl⟩)
    | ok files => exact .inr (.inr ⟨rfl, files, Canvas.write_eq_ok hwrite, rfl⟩)

/-- Of frames that the writer has been given, those that it has written. -/
def kept (w : FrameFiles) (given : List (Surface.Presentation Float)) :
    List (Surface.Presentation Float) :=
  given.filter fun g => w.takes g.tick && g.isTaken

/-- The directory of the drawings, if there is one, is at a place below which nothing is. -/
structure EmptyAt (w : FrameFiles) (directory : Place) (files : FileTree) : Prop where
  directoryOf : ∀ place, files.directoryOf w.directory = .ok place → place = directory
  entries : ∀ name, IsEntryName name → files.entryAt? (directory ++ [name]) = none

/-- After the frames that it has been given, the writer has listed the files of those that it has
kept, and of those for a place the last one is there, in a file that has no other name. It has
refused none but what it was to write. -/
structure Filed (w : FrameFiles) (directory : Place) (before : FileTree) (after : State)
    (given : List (Surface.Presentation Float)) : Prop where
  takes_of_refused : ∀ g ∈ given, g.isTaken = false → w.takes g.tick = true
  written : after.written = (w.kept given).map fun g => fileName g.tick
  altered : FileTree.Altered (fun _ => False) (fun _ => True) before after.files
  sameFile : ∀ tick place, after.files.SameFile (placeOf directory tick) place →
    place = placeOf directory tick
  entryAt?_eq : ∀ place, after.files.entryAt? place =
    match (w.kept given).reverse.find? fun g => placeOf directory g.tick = place with
    | some g => some (.file (w.canvas.text g.frame).toUTF8.toList)
    | none => before.entryAt? place

section

variable {w : FrameFiles} {directory : Place} {before : FileTree}
  (hempty : w.EmptyAt directory before)

include hempty

/-- Before any frame, nothing is filed. -/
theorem EmptyAt.filed_nil : w.Filed directory before ⟨before, []⟩ [] where
  takes_of_refused := nofun
  written := rfl
  altered := FileTree.altered_refl before
  sameFile tick place hsame := by
    obtain ⟨number, hrecord, -⟩ := hsame
    have hnone := hempty.entries (fileName tick) (isEntryName_fileName tick)
    rw [FileTree.entryAt?_eq_none_iff] at hnone
    cases hnone.symm.trans hrecord
  entryAt?_eq _ := rfl

/-- A drawing goes to its place in the directory. -/
theorem EmptyAt.eq_of_locate {state : State} {given : List (Surface.Presentation Float)}
    (h : w.Filed directory before state given) {tick : Nat} {place : Place}
    (hlocate : state.files.locate (w.directory.child (fileName tick)) = .ok place) :
    place = placeOf directory tick := by
  obtain ⟨hstep, hdot, hdots⟩ := isEntryName_fileName tick
  obtain ⟨found, hfound, hplace⟩ :=
    FileTree.locate_child hstep hdot hdots (h.altered.locate_back hlocate)
  cases hempty.directoryOf found hfound
  obtain rfl | ⟨target, hlink⟩ := hplace
  · rfl
  · rw [hempty.entries (fileName tick) (isEntryName_fileName tick)] at hlink
    cases hlink

/-- What is filed is so after one more frame. -/
theorem EmptyAt.filed_present {state : State} {given : List (Surface.Presentation Float)}
    (h : w.Filed directory before state given) (tick : Nat) (frame : Frame Float) :
    w.Filed directory before (w.surface.present tick frame state).1
      (given ++ [⟨tick, frame, (w.surface.present tick frame state).2⟩]) := by
  obtain ⟨htakes, he⟩ | ⟨htakes, fault, he⟩ | ⟨htakes, files, hwrite, he⟩ :=
    w.present_cases tick frame state <;> rw [he]
  · have hkept : w.kept (given ++ [⟨tick, frame, .ok ()⟩]) = w.kept given := by
      simp [kept, htakes]
    refine ⟨?_, hkept ▸ h.written, h.altered, h.sameFile, hkept ▸ h.entryAt?_eq⟩
    simpa [or_imp, forall_and] using h.takes_of_refused
  · have hkept : w.kept (given ++ [⟨tick, frame, .error fault⟩]) = w.kept given := by
      simp [kept]
    refine ⟨?_, hkept ▸ h.written, h.altered, h.sameFile, hkept ▸ h.entryAt?_eq⟩
    simpa [or_imp, forall_and, htakes] using h.takes_of_refused
  · have hkept : w.kept (given ++ [⟨tick, frame, .ok ()⟩]) =
        w.kept given ++ [⟨tick, frame, .ok ()⟩] := by
      simp [kept, htakes]
    obtain ⟨place, hlocate, hwritten⟩ := FileTree.write_eq_ok hwrite
    cases hempty.eq_of_locate h hlocate
    refine ⟨by simpa [or_imp, forall_and] using h.takes_of_refused, ?_,
      h.altered.trans (FileTree.altered_of_write hwrite fun _ _ => trivial), ?_,
      fun place => ?_⟩
    · rw [hkept, List.map_append, ← h.written]
      rfl
    · intro other place hsame
      obtain rfl | hsame := hwritten.sameFile hsame
      · rfl
      · exact h.sameFile other place hsame
    · rw [hkept, List.reverse_append, List.reverse_singleton, List.singleton_append,
        List.find?_cons]
      by_cases hplace : placeOf directory tick = place
      · subst hplace
        rw [decide_eq_true rfl]
        exact hwritten.entryAt?_self
      · rw [decide_eq_false hplace]
        refine Eq.trans (hwritten.entryAt?_of_ne (Ne.symm hplace) fun hsame => ?_)
          (h.entryAt?_eq place)
        exact hplace (h.sameFile tick place hsame).symm

/-- A run leaves the files of the frames that it gives to the writer. -/
theorem EmptyAt.filed_run (s : Session Float) (budget : Nat) :
    w.Filed directory before (s.run w.surface budget ⟨before, []⟩).1.2
      ((Session.Operation.run w.surface budget ⟨before, []⟩).shown s) := by
  have hview := (Surface.view_observed w.surface).run budget s (⟨before, []⟩, [])
  have hstep : ∀ tick frame (state : State × List (Surface.Presentation Float)),
      w.Filed directory before state.1 state.2 →
      w.Filed directory before (w.surface.observed.present tick frame state).1.1
        (w.surface.observed.present tick frame state).1.2 :=
    fun tick frame _ h => hempty.filed_present h tick frame
  let start : State × List (Surface.Presentation Float) := (⟨before, []⟩, [])
  have hstart : w.Filed directory before start.1 start.2 := hempty.filed_nil
  have hrun := Session.state_of_run
    (P := fun state : State × List (Surface.Presentation Float) =>
      w.Filed directory before state.1 state.2)
    hstep s budget hstart
  rw [show s.run w.surface budget ⟨before, []⟩ = _ from hview]
  exact hrun

end

/-! ## Runs -/

/-- The tick is one of those after the first and up to the last one that are drawn. -/
def Draws (w : FrameFiles) (first last tick : Nat) : Prop :=
  first < tick ∧ tick ≤ last ∧ max w.every 1 ∣ tick

/-- The frames of the ticks after the first and up to the last one have been taken, and those of the
multiples of the interval among them have been written and listed in order, each in a file of its
own. Nothing else has been changed. -/
structure Drawn (w : FrameFiles) (directory : Place) (first last : Nat)
    (given : List (Surface.Presentation Float)) (before : FileTree) (after : State) : Prop where
  taken : (given.filter (·.isTaken)).map (·.tick) = List.range' (first + 1) (last - first)
  written : ∃ ticks : List Nat, ticks.Pairwise (· < ·) ∧
    (∀ tick, tick ∈ ticks ↔ w.Draws first last tick) ∧ after.written = ticks.map fileName
  nodup_written : after.written.Nodup
  contents : ∀ g ∈ given, g.isTaken = true → w.Draws first last g.tick →
    after.files.entryAt? (placeOf directory g.tick) =
      some (.file (w.canvas.text g.frame).toUTF8.toList)
  others : ∀ place, (∀ tick, w.Draws first last tick → place ≠ placeOf directory tick) →
    after.files.entryAt? place = before.entryAt? place

section

variable {w : FrameFiles} {directory : Place} {before : FileTree} {after : State}
  {given : List (Surface.Presentation Float)} {first last : Nat}

/-- The frames that are kept are those that were taken at ticks to be drawn. -/
theorem kept_eq : w.kept given = (given.filter (·.isTaken)).filter fun g => w.takes g.tick := by
  rw [kept, List.filter_filter]

/-- Of the frames of consecutive ticks, the writer keeps those of the multiples of the interval. -/
theorem ticks_kept (htaken : (given.filter (·.isTaken)).map (·.tick) =
      List.range' (first + 1) (last - first)) :
    (w.kept given).map (·.tick) =
      (List.range' (first + 1) (last - first)).filter w.takes := by
  rw [← htaken, List.filter_map, kept_eq]
  rfl

/-- The ticks of a run that are to be drawn, counted one by one. -/
theorem mem_ticks_iff (tick : Nat) :
    tick ∈ (List.range' (first + 1) (last - first)).filter w.takes ↔
      w.Draws first last tick := by
  rw [List.mem_filter, List.mem_range'_1, takes_iff, Draws]
  constructor
  · rintro ⟨⟨hle, hlt⟩, hdvd⟩
    exact ⟨hle, by omega, hdvd⟩
  · rintro ⟨hlt, hle, hdvd⟩
    exact ⟨⟨hlt, by omega⟩, hdvd⟩

/-- If no two frames that are kept are of the same tick, then each of them is the last one for its
place. -/
theorem find?_kept (hnodup : ((w.kept given).map (·.tick)).Nodup)
    {g : Surface.Presentation Float} (hg : g ∈ w.kept given) :
    (w.kept given).reverse.find?
        (fun other => placeOf directory other.tick = placeOf directory g.tick) =
      some g := by
  obtain ⟨found, hfound⟩ := Option.isSome_iff_exists.1
    (List.find?_isSome
      (p := fun other => decide (placeOf directory other.tick = placeOf directory g.tick)).2
      ⟨g, List.mem_reverse.2 hg, by rw [decide_eq_true_iff]⟩)
  have hmem : found ∈ w.kept given := List.mem_reverse.1 (List.mem_of_find?_eq_some hfound)
  have hplace := List.find?_some hfound
  rw [decide_eq_true_iff] at hplace
  have htick : found.tick = g.tick := placeOf_injective directory hplace
  rw [hfound, List.inj_on_of_nodup_map hnodup hmem hg htick]

/-- The frames of consecutive ticks are drawn in files of their own. -/
theorem Filed.drawn (h : w.Filed directory before after given)
    (htaken : (given.filter (·.isTaken)).map (·.tick) =
      List.range' (first + 1) (last - first)) :
    w.Drawn directory first last given before after := by
  have hticks := ticks_kept (w := w) htaken
  have hincreasing : ((w.kept given).map (·.tick)).Pairwise (· < ·) := by
    rw [hticks]
    exact List.Pairwise.filter _ List.pairwise_lt_range'
  have hdraws : ∀ g ∈ w.kept given, w.Draws first last g.tick := fun g hg =>
    (mem_ticks_iff g.tick).1 (hticks ▸ List.mem_map_of_mem hg)
  have hwritten : after.written = ((w.kept given).map (·.tick)).map fileName := by
    rw [h.written, List.map_map]
    rfl
  refine ⟨htaken, ⟨_, hincreasing, fun tick => hticks ▸ mem_ticks_iff tick, hwritten⟩, ?_, ?_, ?_⟩
  · rw [hwritten]
    exact (hincreasing.imp Nat.ne_of_lt).map fileName fun _ _ hne heq =>
      hne (fileName_injective heq)
  · intro g hg hisTaken hdraw
    have hkept : g ∈ w.kept given := by
      rw [kept_eq]
      exact List.mem_filter.2 ⟨List.mem_filter.2 ⟨hg, hisTaken⟩, (w.takes_iff _).2 hdraw.2.2⟩
    rw [h.entryAt?_eq, find?_kept (hincreasing.imp Nat.ne_of_lt) hkept]
  · intro place hplace
    have hnone :
        (w.kept given).reverse.find? (fun g => placeOf directory g.tick = place) = none := by
      refine List.find?_eq_none.2 fun g hg => ?_
      rw [decide_eq_true_iff]
      exact fun hsame => hplace g.tick (hdraws g (List.mem_reverse.1 hg)) hsame.symm
    rw [h.entryAt?_eq, hnone]

end

/-- What is drawn in an empty directory is all that is there. -/
theorem Drawn.entryAt?_ne_none_iff {w : FrameFiles} {directory : Place} {first last : Nat}
    {given : List (Surface.Presentation Float)} {before : FileTree} {after : State}
    (h : w.Drawn directory first last given before after) (hempty : w.EmptyAt directory before)
    {name : String} (hname : IsEntryName name) :
    after.files.entryAt? (directory ++ [name]) ≠ none ↔
      ∃ tick, w.Draws first last tick ∧ fileName tick = name := by
  constructor
  · intro hentry
    by_contra hnone
    have hother := h.others (directory ++ [name]) fun tick hdraws hplace =>
      hnone ⟨tick, hdraws, (List.singleton_inj.1 (List.append_cancel_left hplace)).symm⟩
    exact hentry (hother.trans (hempty.entries name hname))
  · rintro ⟨tick, hdraws, rfl⟩
    have hmem : tick ∈ (given.filter (·.isTaken)).map (·.tick) := by
      rw [h.taken, List.mem_range'_1]
      have := hdraws.1
      have := hdraws.2.1
      omega
    obtain ⟨g, hg, rfl⟩ := List.mem_map.1 hmem
    obtain ⟨hg, hisTaken⟩ := List.mem_filter.1 hg
    have hcontent := h.contents g hg hisTaken hdraws
    exact fun hnone => nomatch hcontent.symm.trans hnone

end FrameFiles

namespace Session

/-- The frames that a surface takes in a run are those of consecutive ticks, up to the refused one
if there is one. -/
theorem ticks_taken_of_run {σ : Type} {surface : Surface Float σ} {s : Session Float} {budget : Nat}
    {state : σ} {q : Session Float × σ} {result : Except ExportFault (RunSummary Float)}
    (h : s.run surface budget state = (q, result)) :
    let taken := ((Operation.run surface budget state).shown s).filter (·.isTaken)
    taken.map (·.tick) = List.range' (s.ticks + 1) taken.length ∧
      q.1.ticks = s.ticks + taken.length + (q.1.refused result).length := by
  intro taken
  obtain ⟨hticks, hshown, -⟩ := shown_of_run h
  obtain ⟨n, -, hnumbers⟩ := (Operation.run surface budget state).numbers_shown s
  constructor
  · rw [hshown, List.map_append, eq_comm, List.range'_eq_append_iff] at hnumbers
    obtain ⟨k, -, htaken, -⟩ := hnumbers
    have hlength : taken.length = k := by
      rw [← List.length_map (fun g => g.tick), htaken, List.length_range']
    rw [htaken, hlength]
  · rw [hticks, Nat.add_assoc, ← List.length_append, ← hshown]

end Session

namespace FrameFiles

/-- In an empty directory, the one that the path of the writer leads to if it leads to any, a run
leaves exactly the drawings of those of its ticks that are multiples of the interval, each in a file
of its own, listed in their order, and with the frame that was shown at the tick. If a frame cannot
be written, then it is that of a multiple of the interval, and the drawings are those of the ticks
before it. -/
theorem files_of_run (w : FrameFiles) (s : Session Float) (budget : Nat) {files : FileTree}
    {directory : Place}
    (hdirectory : ∀ place, files.directoryOf w.directory = .ok place → place = directory)
    (hempty : ∀ name, IsEntryName name → files.entryAt? (directory ++ [name]) = none) :
    let after := (s.run w.surface budget ⟨files, []⟩).1
    let result := (s.run w.surface budget ⟨files, []⟩).2
    let shown := (Session.Operation.run w.surface budget ⟨files, []⟩).shown s
    Function.Injective fileName ∧
    ∃ last,
      (∀ summary, result = .ok summary → last = s.ticks + summary.ticks) ∧
      (∀ fault, result = .error fault →
        after.1.ticks = last + 1 ∧ max w.every 1 ∣ last + 1) ∧
      w.Drawn directory s.ticks last shown files after.2 ∧
      ∀ name, IsEntryName name →
        (¬ after.2.files.entryAt? (directory ++ [name]) = none ↔
          ∃ tick, w.Draws s.ticks last tick ∧ fileName tick = name) := by
  intro after result shown
  have hrun : s.run w.surface budget ⟨files, []⟩ = (after, result) := rfl
  have hempty : w.EmptyAt directory files := ⟨hdirectory, hempty⟩
  have hfiled : w.Filed directory files after.2 shown := hempty.filed_run s budget
  obtain ⟨htaken, hticks⟩ := Session.ticks_taken_of_run hrun
  have hdrawn : w.Drawn directory s.ticks (s.ticks + (shown.filter (·.isTaken)).length) shown files
      after.2 := by
    refine hfiled.drawn ?_
    rw [Nat.add_sub_cancel_left]
    exact htaken
  refine ⟨fileName_injective, _, fun summary hok => ?_, fun fault hfault => ?_, hdrawn,
    fun name hname => hdrawn.entryAt?_ne_none_iff hempty hname⟩
  · rw [hok] at hrun hticks
    have hdone := Session.completed_of_run hrun
    rw [← hdone.totalTicks, ← hdone.ticks_eq, hticks]
    rfl
  · rw [hfault] at hrun hticks
    have hfailed : after.1.ticks = s.ticks + (shown.filter (·.isTaken)).length + 1 := hticks
    refine ⟨hfailed, ?_⟩
    rw [← hfailed, ← takes_iff]
    obtain ⟨-, hshown, -⟩ := Session.shown_of_run hrun
    refine hfiled.takes_of_refused ⟨after.1.ticks, after.1.frame, .error fault⟩ ?_ rfl
    rw [show shown = _ from hshown]
    exact List.mem_append_right _ (List.mem_singleton.2 rfl)

/-- Ticks whose numbers grow longer than the padding, of which every second one is drawn, in a
directory that a link leads to. -/
theorem files_of_run_longNumber :
    let simulation : Simulation Float :=
      ⟨.default, .ofSeed 0, ⟨#[⟨⟨"a"⟩, "A", .origin, .origin, false⟩], #[]⟩, .origin, none, 99998⟩
    let s : Session Float := ⟨.ofSimulation simulation .default, 0, 0, 99998, false⟩
    let w : FrameFiles := ⟨.ofConfig .default, ⟨"frames"⟩, 2⟩
    let files : FileTree :=
      .ofEntries ["work"] [(["work", "frames"], .link ⟨"../drawings"⟩), (["drawings"], .directory)]
    ((s.run w.surface 3 ⟨files, []⟩).2.map (·.ticks)).toOption = some 3 ∧
      ∀ name, IsEntryName name →
        (¬ FileTree.entryAt? (s.run w.surface 3 ⟨files, []⟩).1.2.files ["drawings", name] = none ↔
          name = "frame-100000.svg") := by
  intro simulation s w files
  have hdirectory : files.directoryOf w.directory = .ok ["drawings"] :=
    Except.toOption_eq_some.1 (by decide +kernel)
  have hempty : ∀ name, IsEntryName name → files.entryAt? (["drawings"] ++ [name]) = none := by
    intro name _
    simp [files, FileTree.ofEntries, FileTree.put, FileTree.withRecord, assign, FileTree.entryAt?,
      FileTree.record?]
  have hticks : ((s.run w.surface 3 ⟨files, []⟩).2.map (·.ticks)).toOption = some 3 := by
    decide +kernel
  refine ⟨hticks, fun name hname => ?_⟩
  obtain ⟨-, last, hlast, -, -, hnames⟩ := files_of_run w s 3
    (fun place hplace => Except.ok.inj (hplace.symm.trans hdirectory)) hempty
  obtain ⟨summary, hok, hsummary⟩ :=
    Option.map_eq_some_iff.1 ((Except.toOption_map _ _).symm.trans hticks)
  have hlast : last = 99998 + 3 :=
    (hlast summary (Except.toOption_eq_some.1 hok)).trans (congrArg (99998 + ·) hsummary)
  rw [show ["drawings", name] = ["drawings"] ++ [name] from rfl, hnames name hname]
  constructor
  · rintro ⟨tick, ⟨hlt, hle, hdvd⟩, rfl⟩
    have hdvd : 2 ∣ tick := hdvd
    have hlt : 99998 < tick := hlt
    obtain rfl : tick = 100000 := by omega
    decide
  · rintro rfl
    exact ⟨100000, ⟨by decide, by omega, by decide⟩, by decide⟩

end FrameFiles

end NeighborGraph
