import NeighborGraph.Command.Run
import NeighborGraph.Proofs.Session.Relaxation
import NeighborGraph.Proofs.Surface.FrameFiles

/-!
# Drawings that commands leave

Whether or not single ticks are drawn, a request to draw that succeeds runs its graph as a recorder
alone would (`RenderRequest.simulate_eq_ok`), and writes the frame that is left of this run. So
there is one picture of a graph under a configuration with a seed, by whatever route it comes about
(`RenderRequest.read_output`).
-/

namespace NeighborGraph

namespace RenderRequest

variable {r : RenderRequest} {w : Workplace} {config : Config Float} {graph : Graph Float}

/-- The three things that running a graph to its end can come to: a run on a recorder; no run, as
the directory for single drawings cannot be made; or a run on a recorder that is paired with the
writer of these drawings. -/
theorem simulate_cases (r : RenderRequest) (w : Workplace) (config : Config Float)
    (graph : Graph Float) :
    (r.framesDirectory? = none ∧ ∃ recording result,
      config.run w.spareSeed Recording.surface graph .blank = (recording, result) ∧
      r.simulate w config graph =
        (w.files, result.map fun found => found.1.finalFrame recording)) ∨
    (∃ name files fault, r.framesDirectory? = some name ∧
      w.files.makeDirectories ⟨name⟩ = (files, .error fault) ∧
      r.simulate w config graph = (files, .error (.exporting (.storage fault)))) ∨
    ∃ name made recording state result, r.framesDirectory? = some name ∧
      w.files.makeDirectories ⟨name⟩ = (made, .ok ()) ∧
      config.run w.spareSeed
        (.pair Recording.surface (FrameFiles.surface ⟨.ofConfig config, ⟨name⟩, r.frameEvery⟩))
        graph (.blank, ⟨made, []⟩) = ((recording, state), result) ∧
      r.simulate w config graph =
        (state.files, result.map fun found => found.1.finalFrame recording) := by
  cases hdirectory : r.framesDirectory? with
  | none =>
    rcases hrun : config.run w.spareSeed Recording.surface graph .blank with ⟨recording, result⟩
    refine .inl ⟨rfl, recording, result, rfl, ?_⟩
    rw [simulate, hdirectory]
    dsimp only
    rw [hrun]
  | some name =>
    rcases hmade : w.files.makeDirectories ⟨name⟩ with ⟨made, fault | ⟨⟩⟩
    · refine .inr (.inl ⟨name, made, fault, rfl, hmade, ?_⟩)
      rw [simulate, hdirectory]
      dsimp only
      rw [hmade]
    · rcases hrun : config.run w.spareSeed
          (.pair Recording.surface (FrameFiles.surface ⟨.ofConfig config, ⟨name⟩, r.frameEvery⟩))
          graph (.blank, ⟨made, []⟩) with ⟨⟨recording, state⟩, result⟩
      refine .inr (.inr ⟨name, made, recording, state, result, rfl, hmade, hrun, ?_⟩)
      rw [simulate, hdirectory]
      dsimp only
      rw [hmade]
      dsimp only
      rw [hrun]

/-- The frame that is left of a run does not depend on whether single ticks are drawn. -/
theorem simulate_eq_ok {files : FileTree} {frame : Frame Float}
    (h : r.simulate w config graph = (files, .ok frame)) :
    ∃ recording session summary,
      config.run w.spareSeed Recording.surface graph .blank =
        (recording, .ok (session, summary)) ∧
      frame = session.finalFrame recording := by
  obtain ⟨-, recording, result, hrun, he⟩ | ⟨_, _, _, -, -, he⟩ |
      ⟨name, made, recording, state, result, -, -, hrun, he⟩ := r.simulate_cases w config graph <;>
    rw [he] at h
  · cases result with
    | error failure => cases h
    | ok found =>
      cases h
      exact ⟨recording, _, _, hrun, rfl⟩
  · cases h
  · cases result with
    | error failure => cases h
    | ok found =>
      cases h
      have halone := Config.run_of_relaxation (Surface.relaxation_pair fun _ => rfl) hrun
      exact ⟨recording, _, _, halone, rfl⟩

/-- The four ways that a request to draw can go: it stops at its input, at its run, or at its
drawing, or it does not stop before the drawing is written. -/
theorem run_cases (r : RenderRequest) (w : Workplace) :
    (∃ failure, r.load w = .error failure ∧ r.run w = ⟨w.files, "", .error failure⟩) ∨
    ∃ config graph, r.load w = .ok (config, graph) ∧
      ((∃ files failure, r.simulate w config graph = (files, .error failure) ∧
        r.run w = ⟨files, "", .error failure⟩) ∨
      ∃ files frame, r.simulate w config graph = (files, .ok frame) ∧
        ((∃ fault, (Canvas.ofConfig config).write frame ⟨r.output⟩ files = .error fault ∧
          r.run w = ⟨files, "", .error (.exporting fault)⟩) ∨
        ∃ after, (Canvas.ofConfig config).write frame ⟨r.output⟩ files = .ok after ∧
          r.run w = ⟨after, "", .ok ()⟩)) := by
  cases hload : r.load w with
  | error failure => exact .inl ⟨failure, rfl, by rw [run, hload]⟩
  | ok found =>
    obtain ⟨config, graph⟩ := found
    refine .inr ⟨config, graph, rfl, ?_⟩
    rcases hsimulate : r.simulate w config graph with ⟨files, failure | frame⟩
    · exact .inl ⟨files, failure, rfl, by simp only [run, hload, hsimulate]⟩
    · refine .inr ⟨files, frame, rfl, ?_⟩
      cases hwrite : (Canvas.ofConfig config).write frame ⟨r.output⟩ files with
      | error fault => exact .inl ⟨fault, rfl, by simp only [run, hload, hsimulate, hwrite]⟩
      | ok after => exact .inr ⟨after, rfl, by simp only [run, hload, hsimulate, hwrite]⟩

/-- All that a request to draw does if it succeeds. -/
theorem run_eq_ok (h : (r.run w).result = .ok ()) :
    ∃ config graph recording session summary files,
      r.load w = .ok (config, graph) ∧
      config.run w.spareSeed Recording.surface graph .blank =
        (recording, .ok (session, summary)) ∧
      (Canvas.ofConfig config).write (session.finalFrame recording) ⟨r.output⟩ files =
        .ok (r.run w).files := by
  obtain ⟨failure, -, he⟩ | ⟨config, graph, hload, ⟨_, _, -, he⟩ | ⟨files, frame, hsimulate,
      ⟨_, -, he⟩ | ⟨after, hwrite, he⟩⟩⟩ := r.run_cases w <;> rw [he] at h ⊢ <;> cases h
  obtain ⟨recording, session, summary, hrun, rfl⟩ := simulate_eq_ok hsimulate
  exact ⟨config, graph, recording, session, summary, files, hload, hrun, hwrite⟩

end RenderRequest

/-- What a canvas has written is the text of the frame. -/
theorem Canvas.read_of_write {canvas : Canvas} {frame : Frame Float} {path : FilePath}
    {files after : FileTree} (h : canvas.write frame path files = .ok after) :
    after.read path = .ok (canvas.text frame).toUTF8.toList :=
  FileTree.read_of_write (write_eq_ok h)

namespace RenderRequest

/-- The drawing that a request writes is the picture of its configuration and graph. It is also that
of the session at the end of any run of them that nothing closes: the frame that a recorder
remembers is that of the session, and that of the placement if no tick was made. -/
theorem read_output {r : RenderRequest} {w : Workplace} (h : (r.run w).result = .ok ()) :
    ∃ config graph, r.load w = .ok (config, graph) ∧
      (config.simulation.seed.isSome = true → ∀ spareSeed,
        ∃ text recording session summary,
          (r.run w).files.read ⟨r.output⟩ = .ok text.toUTF8.toList ∧
          config.picture spareSeed graph = .ok text ∧
          config.run spareSeed Recording.surface graph .blank =
            (recording, .ok (session, summary)) ∧
          text = (Canvas.ofConfig config).text session.frame ∧
          session.finalFrame recording = session.frame ∧
          (summary.ticks = 0 → Session.start config spareSeed graph = .ok session) ∧
          ∀ {σ : Type} {surface : Surface Float σ} {state after : σ}
            {found : Session Float × RunSummary Float},
            (∀ state, surface.isClosed state = false) →
            config.run spareSeed surface graph state = (after, .ok found) →
            text = (Canvas.ofConfig config).text found.1.frame) := by
  obtain ⟨config, graph, recording, session, summary, files, hload, hrun, hwrite⟩ := run_eq_ok h
  refine ⟨config, graph, hload, fun hseed spareSeed => ?_⟩
  rw [Config.run_of_seed hseed _ spareSeed] at hrun
  obtain ⟨hframe, hstart⟩ := Config.run_recording hrun
  rw [hframe] at hwrite
  refine ⟨(Canvas.ofConfig config).text session.frame, recording, session, summary,
    Canvas.read_of_write hwrite, ?_, hrun, rfl, hframe, hstart, ?_⟩
  · rw [Config.picture, hrun, ← hframe]
    rfl
  · intro σ surface state after found hopen hfound
    rw [Config.run_unique hopen (fun _ => rfl) hfound hrun]

end RenderRequest

/-- A graph of a single node, and a directory. -/
def Workplace.singleNode : Workplace where
  files := .ofEntries ["work"] [
    (["work", "in.json"],
      .file "\x7b\"nodes\":[\x7b\"name\":\"a\"\x7d],\"links\":[]\x7d".toUTF8.toList),
    (["work", "out"], .directory)]
  userConfig? := none
  spareSeed := 0

/-- Draws this graph after a tick, and the tick by itself. -/
def RenderRequest.singleNode (output : String) : RenderRequest :=
  ⟨"in.json", output, some 1, some "frames/all", 1, none, some 7⟩

/-- A single node that is drawn with its tick as a file of its own. -/
theorem RenderRequest.read_output_singleNode :
    ((singleNode "out.svg").run Workplace.singleNode).result = .ok () ∧ ∃ config graph text,
      (singleNode "out.svg").load Workplace.singleNode = .ok (config, graph) ∧
      config.simulation.seed = some 7 ∧ config.picture 0 graph = .ok text ∧
      ((singleNode "out.svg").run Workplace.singleNode).files.read ⟨"out.svg"⟩ =
        .ok text.toUTF8.toList := by
  have hresult : ((singleNode "out.svg").run Workplace.singleNode).result = .ok () :=
    Except.toOption_eq_some.1 (by decide +kernel)
  have hseed : ((singleNode "out.svg").load Workplace.singleNode).toOption.map
      (fun found => found.1.simulation.seed) = some (some 7) := by
    decide +kernel
  obtain ⟨config, graph, hload, hpicture⟩ := read_output hresult
  rw [hload] at hseed
  have hseed : config.simulation.seed = some 7 := Option.some.inj hseed
  obtain ⟨text, _, _, _, hread, hpicture, -⟩ := hpicture (by rw [hseed]; rfl) 0
  exact ⟨hresult, config, graph, text, hload, hseed, hpicture, hread⟩

end NeighborGraph
