import NeighborGraph.Proofs.Command.Configuration
import NeighborGraph.Proofs.Command.Render
import NeighborGraph.Proofs.Document.Requests
import NeighborGraph.Proofs.Surface.FrameFiles

/-!
# What commands leave behind

A command that fails before anything is drawn leaves the files as they were. A session always starts
once its input has been loaded (`RenderRequest.exists_start`), so that every later failure is one of
drawing; until then only directories on the way to that of the single drawings have been made, and
files right in it written (`RenderRequest.altered_simulate`).
-/

namespace NeighborGraph

/-! ## Single drawings -/

namespace FrameFiles

/-- The place of the drawing of a tick: the one that its name in the directory leads to, be it right
there or along links. -/
def IsFrame (files : FileTree) (directory : FilePath) (place : Place) : Prop :=
  ∃ tick, files.locate (directory.child (fileName tick)) = .ok place

variable {made : FileTree}

/-- Whether or not a frame is taken, at most its drawing is written. -/
theorem altered_present (w : FrameFiles) {state : State}
    (h : FileTree.Altered (fun _ => False) (IsFrame made w.directory) made state.files)
    (tick : Nat) (frame : Frame Float) :
    FileTree.Altered (fun _ => False) (IsFrame made w.directory) made
      (w.surface.present tick frame state).1.files := by
  obtain ⟨-, he⟩ | ⟨-, fault, he⟩ | ⟨-, files, hwrite, he⟩ := w.present_cases tick frame state <;>
    rw [he]
  · exact h
  · exact h
  · -- as no directories are made, the name leads to where it led before
    refine h.trans (FileTree.altered_of_write hwrite fun place hplace => ?_)
    exact ⟨tick, h.locate_back hplace⟩

/-- A recorder beside it does not touch the files. -/
theorem altered_present_pair (w : FrameFiles) {state : Recording Float × State}
    (h : FileTree.Altered (fun _ => False) (IsFrame made w.directory) made state.2.files)
    (tick : Nat) (frame : Frame Float) :
    FileTree.Altered (fun _ => False) (IsFrame made w.directory) made
      ((Surface.pair Recording.surface w.surface).present tick frame state).1.2.files := by
  unfold Surface.pair
  dsimp only [Recording.surface]
  exact w.altered_present h tick frame

/-- In a run, at most the drawings of ticks are written. -/
theorem altered_run (w : FrameFiles) {config : Config Float} {spareSeed : UInt64}
    {graph : Graph Float} {state : Recording Float × State}
    (h : FileTree.Altered (fun _ => False) (IsFrame made w.directory) made state.2.files) :
    FileTree.Altered (fun _ => False) (IsFrame made w.directory) made
      (config.run spareSeed (.pair Recording.surface w.surface) graph state).1.2.files :=
  Config.state_of_run
    (P := fun state : Recording Float × State =>
      FileTree.Altered (fun _ => False) (IsFrame made w.directory) made state.2.files)
    (fun tick frame _ h => w.altered_present_pair h tick frame) h

end FrameFiles

/-! ## Loading -/

/-- The failure is one of drawing. -/
def Failure.IsExport (failure : Failure) : Prop := ∃ fault, failure = .exporting fault

namespace Workplace

/-- Looking for the configuration fails at no drawing. -/
theorem not_isExport_of_findConfig {w : Workplace} {named? : Option String} {failure : Failure}
    (h : w.findConfig named? = .error failure) : ¬ failure.IsExport := by
  rintro ⟨fault, rfl⟩
  cases decides_iff.2 h with
  | first _ _ hreads => cases hreads

end Workplace

namespace RenderRequest

variable {r : RenderRequest} {w : Workplace} {config : Config Float} {graph : Graph Float}

/-- What has been loaded can be run. -/
theorem exists_start (h : r.load w = .ok (config, graph)) (spareSeed : UInt64) :
    ∃ s, Session.start config spareSeed graph = .ok s := by
  obtain ⟨found, hfound, h⟩ := Except.bind_eq_ok.1 h
  obtain ⟨text, -, h⟩ := Except.bind_eq_ok.1 h
  obtain ⟨read, hread, h⟩ := Except.bind_eq_ok.1 h
  cases h
  have hbuilt := Graph.built_of_read (Except.mapError_eq_ok.1 hread)
  obtain ⟨-, hs⟩ | ⟨fault, hfault, -⟩ :=
    Session.start_of_check hbuilt.wellFormed.check (r.adjust found) spareSeed
  · exact hs
  · -- the ticks and the seed are none of the settings that are checked
    have hcheck : (r.adjust found).check = found.check := rfl
    rw [hcheck, Workplace.check_of_findConfig hfound] at hfault
    cases hfault

/-- What is to be loaded fails to be for its configuration, for a file, or for its graph. -/
theorem load_eq_error {failure : Failure} (h : r.load w = .error failure) :
    w.findConfig r.config? = .error failure ∨ (∃ fault, failure = .storage fault) ∨
      ∃ fault, failure = .ofGraphLoad fault := by
  obtain hconfig | ⟨config, -, h⟩ := Except.bind_eq_error.1 h
  · exact .inl hconfig
  obtain htext | ⟨text, -, h⟩ := Except.bind_eq_error.1 h
  · obtain ⟨fault, -, rfl⟩ := Except.mapError_eq_error.1 htext
    exact .inr (.inl ⟨fault, rfl⟩)
  obtain hgraph | ⟨graph, -, h⟩ := Except.bind_eq_error.1 h
  · obtain ⟨fault, -, rfl⟩ := Except.mapError_eq_error.1 hgraph
    exact .inr (.inr ⟨fault, rfl⟩)
  · cases h

/-- Loading what is to be drawn fails at no drawing. -/
theorem not_isExport_of_load {failure : Failure} (h : r.load w = .error failure) :
    ¬ failure.IsExport := by
  rintro ⟨fault, rfl⟩
  obtain hconfig | ⟨_, heq⟩ | ⟨_ | _, heq⟩ := load_eq_error h
  · exact Workplace.not_isExport_of_findConfig hconfig ⟨fault, rfl⟩
  all_goals cases heq

/-- A graph that has been loaded fails to run to its end only because of a drawing. -/
theorem simulate_eq_error (hload : r.load w = .ok (config, graph)) {files : FileTree}
    {failure : Failure} (h : r.simulate w config graph = (files, .error failure)) :
    failure.IsExport := by
  obtain ⟨-, _, result, hrun, he⟩ | ⟨_, _, fault, -, -, he⟩ |
      ⟨_, _, _, _, result, -, -, hrun, he⟩ := r.simulate_cases w config graph <;> rw [he] at h
  · cases result with
    | ok found => cases h
    | error failure =>
      cases h
      exact Config.run_eq_error (exists_start hload w.spareSeed) hrun
  · cases h
    exact ⟨.storage fault, rfl⟩
  · cases result with
    | ok found => cases h
    | error failure =>
      cases h
      exact Config.run_eq_error (exists_start hload w.spareSeed) hrun

/-- Running a graph to its end alters no more than the drawings of single ticks ask for. -/
theorem altered_simulate (config : Config Float) (graph : Graph Float) :
    (r.framesDirectory? = none → (r.simulate w config graph).1 = w.files) ∧
    ∀ name, r.framesDirectory? = some name →
      FileTree.Altered (w.files.OnWay (FilePath.route ⟨name⟩ w.files.directory))
        (FrameFiles.IsFrame (w.files.makeDirectories ⟨name⟩).1 ⟨name⟩) w.files
        (r.simulate w config graph).1 := by
  obtain ⟨hnone, _, _, -, he⟩ | ⟨name, files, _, hname, hmade, he⟩ |
      ⟨name, files, _, _, _, hname, hmade, hrun, he⟩ := r.simulate_cases w config graph <;> rw [he]
  · refine ⟨fun _ => rfl, fun name hname => ?_⟩
    rw [hnone] at hname
    cases hname
  all_goals
    refine ⟨fun hnone => absurd (hnone.symm.trans hname) nofun, fun name' hname' => ?_⟩
    cases hname.symm.trans hname'
    have hmade' : FileTree.Altered (w.files.OnWay (FilePath.route ⟨name⟩ w.files.directory))
        (FrameFiles.IsFrame (w.files.makeDirectories ⟨name⟩).1 ⟨name⟩) w.files
        (w.files.makeDirectories ⟨name⟩).1 :=
      FileTree.altered_makeDirectories w.files ⟨name⟩
    rw [hmade] at hmade' ⊢
  · exact hmade'
  · have hwritten : FileTree.Altered (fun _ => False) (FrameFiles.IsFrame files ⟨name⟩) files
        (config.run w.spareSeed
          (.pair Recording.surface (FrameFiles.surface ⟨.ofConfig config, ⟨name⟩, r.frameEvery⟩))
          graph (.blank, ⟨files, []⟩)).1.2.files :=
      FrameFiles.altered_run ⟨.ofConfig config, ⟨name⟩, r.frameEvery⟩ (FileTree.altered_refl files)
    rw [hrun] at hwritten
    exact hmade'.trans (hwritten.mono (fun _ h => h.elim) fun _ h => h)

/-- Running a graph to its end takes nothing away, and makes no links. -/
theorem altered_simulate_anywhere (config : Config Float) (graph : Graph Float) :
    FileTree.Altered (fun _ => True) (fun _ => True) w.files (r.simulate w config graph).1 := by
  obtain ⟨hnone, hsome⟩ := r.altered_simulate (w := w) config graph
  cases hname : r.framesDirectory? with
  | none =>
    rw [hnone hname]
    exact FileTree.altered_refl w.files
  | some name => exact (hsome name hname).mono (fun _ _ => trivial) fun _ _ => trivial

/-- All that a request to draw does if it fails: it stops at its input, or it runs the graph and
stops at a drawing, the last one at the latest. -/
theorem run_eq_error {failure : Failure} (h : (r.run w).result = .error failure) :
    (r.load w = .error failure ∧ (r.run w).files = w.files) ∨
    (failure.IsExport ∧ ∃ config graph, r.load w = .ok (config, graph) ∧
      (r.run w).files = (r.simulate w config graph).1) := by
  obtain ⟨_, hload, he⟩ | ⟨config, graph, hload, ⟨files, _, hsimulate, he⟩ | ⟨files, _, hsimulate,
      ⟨fault, -, he⟩ | ⟨_, -, he⟩⟩⟩ := r.run_cases w <;> rw [he] at h ⊢ <;> cases h
  · exact .inl ⟨hload, rfl⟩
  · exact .inr ⟨simulate_eq_error hload hsimulate, config, graph, hload, by rw [hsimulate]⟩
  · exact .inr ⟨⟨fault, rfl⟩, config, graph, hload, by rw [hsimulate]⟩

end RenderRequest

/-- A request to convert that fails changes nothing, and does not fail at a drawing. -/
theorem ConvertRequest.run_eq_error {r : ConvertRequest} {w : Workplace} {failure : Failure}
    (h : (r.run w).result = .error failure) :
    (r.run w).files = w.files ∧ ¬ failure.IsExport := by
  cases hload : r.load w with
  | error fault =>
    have hrun : r.run w = ⟨w.files, "", .error fault⟩ := by simp only [run, hload]
    rw [hrun] at h ⊢
    cases h
    refine ⟨rfl, ?_⟩
    rintro ⟨fault, rfl⟩
    unfold load at hload
    split at hload
    · obtain ⟨_, -, heq⟩ := Except.mapError_eq_error.1 hload
      cases heq
    · cases hload
    · cases hload
  | ok document =>
    cases houtput : r.output? with
    | none =>
      simp only [run, hload, houtput] at h
      cases h
    | some name =>
      cases hwrite : w.files.write ⟨name⟩ document.toJson.toUTF8.toList with
      | ok files =>
        simp only [run, hload, houtput, hwrite] at h
        cases h
      | error fault =>
        have hrun : r.run w = ⟨w.files, "", .error (.storage fault)⟩ := by
          simp only [run, hload, houtput, hwrite]
        rw [hrun] at h ⊢
        cases h
        exact ⟨rfl, nofun⟩

/-- To carry out a request to draw is to run it. -/
theorem Request.run_render (r : RenderRequest) (w : Workplace) :
    Request.run (.render r) w = r.run w := rfl

/-- A command that fails leaves everything as it was, unless it fails at a drawing. Only a request
to draw does, and not before its configuration and its graph have been loaded: input that cannot be
read, or that holds nothing of use, has no effect on any file, be it the output or the input. At a
drawing, missing directories on the way of the path to the directory for single drawings may have
been made, and files written that the names of these drawings in it lead to. Such a file is right in
the directory unless a link stands there; its content is that of all its names. -/
theorem Request.files_of_failed {request : Request} {w : Workplace} {failure : Failure}
    (h : (request.run w).result = .error failure) :
    (¬ failure.IsExport → (request.run w).files = w.files) ∧
    (failure.IsExport → ∃ r, request = .render r ∧ (∃ found, r.load w = .ok found) ∧
      (r.framesDirectory? = none → (request.run w).files = w.files) ∧
      ∀ name, r.framesDirectory? = some name →
        let made := (w.files.makeDirectories ⟨name⟩).1
        (∀ place, (request.run w).files.entryAt? place = w.files.entryAt? place ∨
          (w.files.OnWay (FilePath.route ⟨name⟩ w.files.directory) place ∧
            w.files.entryAt? place = none ∧
            (request.run w).files.entryAt? place = some .directory) ∨
          ∃ written, FrameFiles.IsFrame made ⟨name⟩ written ∧
            (written = place ∧ w.files.entryAt? place = none ∨ w.files.SameFile written place) ∧
            ∃ content, (request.run w).files.entryAt? place = some (.file content)) ∧
        ∀ tick written,
          made.locate (FilePath.child ⟨name⟩ (FrameFiles.fileName tick)) = .ok written →
          ∃ directory, made.directoryOf ⟨name⟩ = .ok directory ∧
            (written = directory ++ [FrameFiles.fileName tick] ∨ ∃ target,
              made.entryAt? (directory ++ [FrameFiles.fileName tick]) = some (.link target))) := by
  cases request with
  | convert r =>
    obtain ⟨hfiles, hkind⟩ := r.run_eq_error h
    exact ⟨fun _ => hfiles, fun hexport => absurd hexport hkind⟩
  | render r =>
    obtain ⟨hload, hfiles⟩ | ⟨hkind, config, graph, hload, hfiles⟩ := r.run_eq_error h
    · exact ⟨fun _ => hfiles, fun hexport =>
        absurd hexport (RenderRequest.not_isExport_of_load hload)⟩
    · refine ⟨fun hexport => absurd hkind hexport, fun _ => ⟨r, rfl, ⟨_, hload⟩, ?_⟩⟩
      rw [Request.run_render, hfiles]
      obtain ⟨hnone, hsome⟩ := r.altered_simulate config graph
      refine ⟨hnone, fun name hname => ⟨(hsome name hname).entryAt?_cases, fun tick written => ?_⟩⟩
      obtain ⟨hstep, hdot, hdots⟩ := FrameFiles.isEntryName_fileName tick
      exact FileTree.locate_child hstep hdot hdots

/-- A single node, a directory where its drawing is to be written, and a link with the name of the
drawing of the first tick that leads out of the directory for such drawings. -/
def Workplace.linkedFrame : Workplace where
  files := .ofEntries ["work"] (Workplace.singleNode.files.entries ++ [
    (["work", "frames"], .directory),
    (["work", "frames", "frame-00001.svg"], .link ⟨"../notes"⟩)])
  userConfig? := none
  spareSeed := 0

/-- Draws the single node and its first tick, the node where it cannot be. -/
def RenderRequest.misdirected (frames : String) : RenderRequest :=
  { RenderRequest.singleNode "out" with framesDirectory? := some frames }

/-- The command has failed at a drawing, which can be found out by running it. -/
def Outcome.failsAtDrawing (outcome : Outcome) : Bool :=
  match outcome.result with
  | .error (.exporting _) => true
  | _ => false

/-- A failure at a drawing is one. -/
theorem Outcome.exists_of_failsAtDrawing {outcome : Outcome} (h : outcome.failsAtDrawing = true) :
    ∃ failure, outcome.result = .error failure ∧ failure.IsExport := by
  unfold failsAtDrawing at h
  split at h
  · next fault hresult => exact ⟨_, hresult, fault, rfl⟩
  · cases h

/-- The drawing of the first tick comes to be outside of the directory for such drawings. -/
theorem RenderRequest.run_linkedFrame :
    let outcome := (misdirected "frames").run Workplace.linkedFrame
    outcome.failsAtDrawing = true ∧
      (outcome.files.directoryOf ⟨"frames"⟩).toOption = some ["work", "frames"] ∧
      Workplace.linkedFrame.files.entryAt? ["work", "notes"] = none ∧
      outcome.files.entryAt? ["work", "notes"] ≠ none ∧
      outcome.files.entryAt? ["work", "notes"] ≠ some .directory := by
  decide +kernel

/-- A drawing that comes to be where a link with its name leads to. -/
theorem Request.files_of_failed_link :
    let w := Workplace.linkedFrame
    let outcome := Request.run (.render (.misdirected "frames")) w
    (∃ failure, outcome.result = .error failure ∧ failure.IsExport) ∧
    FrameFiles.IsFrame (w.files.makeDirectories ⟨"frames"⟩).1 ⟨"frames"⟩ ["work", "notes"] ∧
    w.files.entryAt? ["work", "notes"] = none ∧
    ∃ content, outcome.files.entryAt? ["work", "notes"] = some (.file content) := by
  intro w outcome
  obtain ⟨hfails, -, hbefore, hafter, hfile⟩ := RenderRequest.run_linkedFrame
  have hrun : outcome = (RenderRequest.misdirected "frames").run w := Request.run_render _ w
  rw [← hrun] at hfails hafter hfile
  obtain ⟨failure, hresult, hexport⟩ := Outcome.exists_of_failsAtDrawing hfails
  obtain ⟨r, hr, -, -, hframes⟩ := (files_of_failed hresult).2 hexport
  cases hr
  obtain ⟨hplaces, -⟩ := hframes "frames" rfl
  refine ⟨⟨failure, hresult, hexport⟩, ?_⟩
  obtain hsame | ⟨-, -, hdirectory⟩ | ⟨written, hframe, ⟨rfl, -⟩ | ⟨number, -, hthere⟩, hcontent⟩ :=
    hplaces ["work", "notes"]
  · exact absurd (hsame.trans hbefore) hafter
  · exact absurd hdirectory hfile
  · exact ⟨hframe, hbefore, hcontent⟩
  · rw [FileTree.entryAt?_eq_none_iff.1 hbefore] at hthere
    cases hthere

/-- What the request has changed is in its directory for single drawings, or is one of those that
hold this directory. -/
def RenderRequest.KeepsToFrames (r : RenderRequest) (w : Workplace) : Prop :=
  ∀ name directory place, r.framesDirectory? = some name →
    (r.run w).files.directoryOf ⟨name⟩ = .ok directory →
    (r.run w).files.entryAt? place ≠ w.files.entryAt? place →
    directory <+: place ∨ place <+: directory

/-- A failed request need not keep to its directory for single drawings: links lead out of it, and a
path may lead to it, although it is there, through another directory that is missing. -/
theorem RenderRequest.not_keepsToFrames :
    ((misdirected "frames").run Workplace.linkedFrame).failsAtDrawing = true ∧
    ¬ (misdirected "frames").KeepsToFrames Workplace.linkedFrame ∧
    ((misdirected "missing/../out").run Workplace.singleNode).failsAtDrawing = true ∧
    ¬ (misdirected "missing/../out").KeepsToFrames Workplace.singleNode := by
  obtain ⟨hfails, hdirectory, hbefore, hafter, -⟩ := run_linkedFrame
  have hdetour : let outcome := (misdirected "missing/../out").run Workplace.singleNode
      outcome.failsAtDrawing = true ∧
      (outcome.files.directoryOf ⟨"missing/../out"⟩).toOption = some ["work", "out"] ∧
      outcome.files.entryAt? ["work", "missing"] ≠
        Workplace.singleNode.files.entryAt? ["work", "missing"] := by
    decide +kernel
  refine ⟨hfails, fun hkeeps => ?_, hdetour.1, fun hkeeps => ?_⟩
  · exact absurd (hkeeps "frames" ["work", "frames"] ["work", "notes"] rfl
      (Except.toOption_eq_some.1 hdirectory) (hbefore ▸ hafter)) (by decide)
  · exact absurd (hkeeps "missing/../out" ["work", "out"] ["work", "missing"] rfl
      (Except.toOption_eq_some.1 hdetour.2.1) hdetour.2.2) (by decide)

end NeighborGraph
