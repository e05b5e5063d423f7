import NeighborGraph.Proofs.Command.Failed
import NeighborGraph.Proofs.Storage.Agreement

/-!
# Where the configuration comes from

The files after the one that decides on the configuration are not looked at: a request to draw looks
at the paths that it names and at the files up to the deciding one, and on files that agree there it
does the same (`RenderRequest.run_agreeOn`). What the request sets itself takes the place of what
the configuration says, and cannot spoil it, so that a fault of the configuration is found before
the input is read (`RenderRequest.configuration_precedence`).
-/

namespace NeighborGraph

namespace Workplace

variable {w : Workplace} {named? : Option String} {path : FilePath} {files' : FileTree}

/-! ## What is looked at -/

section

variable (h : FileTree.AgreeOn (w.files.OnWayOf (w.Tries named?)) w.files files')

include h

/-- A file that is tried exists in both trees or in none. -/
theorem contains_of_tries (htries : w.Tries named? path) :
    files'.contains path = w.files.contains path :=
  (h.contains fun _ hplace => ⟨path, htries, hplace⟩).symm

/-- A file that is tried is tried as well where the files that are tried are the same. -/
theorem Tries.of_agreeOn (htries : w.Tries named? path) :
    Tries { w with files := files' } named? path := by
  obtain ⟨before, later, hcandidates, hbefore⟩ := htries
  refine ⟨before, later, hcandidates, fun other hother => ?_⟩
  obtain ⟨before', between, rfl⟩ := List.append_of_mem hother
  have htries : w.Tries named? other := by
    refine ⟨before', between ++ path :: later, ?_, fun earlier hearlier => ?_⟩
    · rw [hcandidates, List.append_assoc, List.cons_append]
    · exact hbefore earlier (List.mem_append_left _ hearlier)
  exact (contains_of_tries h htries).trans (hbefore other hother)

/-- A file that is tried holds the same configuration. -/
theorem readConfig_of_tries (htries : w.Tries named? path) :
    readConfig { w with files := files' } path = w.readConfig path := by
  rw [readConfig, readConfig, h.readText fun _ hplace => ⟨path, htries, hplace⟩]

/-- Files that come after the deciding one have no say. -/
theorem findConfig_of_agreeOn :
    findConfig { w with files := files' } named? = w.findConfig named? := by
  have hdecides : w.Decides named? (w.findConfig named?) := decides_iff.2 rfl
  refine decides_iff.1 ?_
  generalize w.findConfig named? = result at hdecides ⊢
  cases hdecides with
  | @missing name habsent =>
    exact .missing ((contains_of_tries h ⟨[], [], rfl, nofun⟩).trans habsent)
  | first htries hexists hreads =>
    refine .first (htries.of_agreeOn h) ((contains_of_tries h htries).trans hexists) ?_
    exact reads_iff.2 ((readConfig_of_tries h htries).trans (reads_iff.1 hreads))
  | usual habsent =>
    refine .usual fun path hpath => ?_
    have hpath : path ∈ w.candidates none := hpath
    obtain ⟨before, later, hcandidates⟩ := List.append_of_mem hpath
    have htries : w.Tries none path := by
      refine ⟨before, later, hcandidates, fun other hother => habsent other ?_⟩
      rw [hcandidates]
      exact List.mem_append_left _ hother
    exact (contains_of_tries h htries).trans (habsent path hpath)

end

end Workplace

/-! ## Drawing on files that agree -/

/-- Two outcomes that report the same and leave the same at the places that are seen. -/
structure Outcome.AgreeOn (seen : Place → Prop) (outcome outcome' : Outcome) : Prop where
  result_eq : outcome.result = outcome'.result
  printed_eq : outcome.printed = outcome'.printed
  files : FileTree.AgreeOn seen outcome.files outcome'.files

/-- Where a drawing is written to files that agree, they agree again. -/
theorem Canvas.write_agreeOn (canvas : Canvas) (frame : Frame Float) {path : FilePath}
    {files files' : FileTree} {seen : Place → Prop} (h : FileTree.AgreeOn seen files files')
    (hpath : ∀ place, files.OnWay (path.route files.directory) place → seen place) :
    Except.Matches (FileTree.AgreeOn seen) (canvas.write frame path files)
      (canvas.write frame path files') := by
  unfold write
  split
  · exact (h.write hpath _).mapError ExportFault.storage
  · exact .error _

/-- On files that agree wherever its drawings may be, the writer of single drawings is alike. As it
makes no links, this is where they might be at the beginning. -/
theorem FrameFiles.bisimulation_agreeOn (w : FrameFiles) {files : FileTree} {seen : Place → Prop}
    (hseen : ∀ tick place, files.OnWay ((w.directory.child (fileName tick)).route files.directory)
      place → seen place) :
    Surface.Bisimulation w.surface w.surface fun state state' =>
      FileTree.AgreeOn seen state.files state'.files ∧ state.written = state'.written ∧
        FileTree.Altered (fun _ => True) (fun _ => True) files state.files where
  present tick frame state state' h := by
    obtain ⟨hagree, hwritten, haltered⟩ := h
    have hwrite := w.canvas.write_agreeOn frame hagree fun place hplace =>
      hseen tick place (haltered.onWay_route_iff.1 hplace)
    have hafter : ∀ after,
        w.canvas.write frame (w.directory.child (fileName tick)) state.files = .ok after →
        FileTree.Altered (fun _ => True) (fun _ => True) files after := fun after hafter =>
      haltered.trans (FileTree.altered_of_write (Canvas.write_eq_ok hafter) fun _ _ => trivial)
    dsimp only [surface]
    split
    · generalize w.canvas.write frame _ state.files = left,
        w.canvas.write frame _ state'.files = right at hwrite hafter ⊢
      cases hwrite with
      | error fault => exact ⟨⟨hagree, hwritten, haltered⟩, rfl⟩
      | ok hfiles =>
        exact ⟨⟨hfiles, congrArg (· ++ [fileName tick]) hwritten, hafter _ rfl⟩, rfl⟩
    · exact ⟨⟨hagree, hwritten, haltered⟩, rfl⟩
  isClosed _ := rfl

/-- So it is behind a recorder. -/
theorem Surface.Bisimulation.behindRecorder {σ τ : Type} {first : Surface Float τ}
    {second : Surface Float σ} {R : τ → σ → Prop} (hb : Surface.Bisimulation first second R) :
    Surface.Bisimulation (.pair Recording.surface first) (.pair Recording.surface second)
      fun state state' => state.1 = state'.1 ∧ R state.2 state'.2 where
  present tick frame state state' h := by
    obtain ⟨hstates, hanswers⟩ := hb.present tick frame h.2
    dsimp only [Surface.pair, Recording.surface]
    exact ⟨⟨by rw [h.1], hstates⟩, hanswers⟩
  isClosed h := congrArg (false || ·) (hb.isClosed h.2)

namespace RenderRequest

variable {r : RenderRequest} {w : Workplace} {files' : FileTree} {seen : Place → Prop}

/-- The paths that a request to draw follows besides those of configuration files: to its input, to
its output, and to the directory for single drawings and the files in it. -/
inductive Follows (r : RenderRequest) : FilePath → Prop
  | input : Follows r ⟨r.input⟩
  | output : Follows r ⟨r.output⟩
  | directory {name : String} (h : r.framesDirectory? = some name) : Follows r ⟨name⟩
  | frame {name : String} (h : r.framesDirectory? = some name) (tick : Nat) :
    Follows r (FilePath.child ⟨name⟩ (FrameFiles.fileName tick))

/-- The graph of a request. -/
def loadGraph (r : RenderRequest) (w : Workplace) : Except Failure (Graph Float) := do
  let text ← (w.files.readText ⟨r.input⟩).mapError .storage
  (Graph.read text).mapError .ofGraphLoad

/-- What becomes of a request with what has been loaded for it. -/
def finish (r : RenderRequest) (w : Workplace)
    (loaded : Except Failure (Config Float × Graph Float)) : Outcome :=
  match loaded with
  | .error failure => ⟨w.files, "", .error failure⟩
  | .ok (config, graph) =>
    match r.simulate w config graph with
    | (files, .error failure) => ⟨files, "", .error failure⟩
    | (files, .ok frame) =>
      match (Canvas.ofConfig config).write frame ⟨r.output⟩ files with
      | .error fault => ⟨files, "", .error (.exporting fault)⟩
      | .ok files => ⟨files, "", .ok ()⟩

/-- What becomes of a request once its configuration has been found. -/
def draw (r : RenderRequest) (w : Workplace) (config : Config Float) : Outcome :=
  r.finish w ((r.loadGraph w).map fun graph => (config, graph))

/-- The request without a number of ticks and a seed of its own. -/
def plain (r : RenderRequest) : RenderRequest := { r with ticks? := none, seed? := none }

/-- To run a request is to finish it with what has been loaded. -/
theorem run_eq_finish (r : RenderRequest) (w : Workplace) : r.run w = r.finish w (r.load w) := rfl

/-- What is loaded once the configuration has been found is this one, adjusted, and the graph. -/
theorem load_of_findConfig {config : Config Float} (h : w.findConfig r.config? = .ok config) :
    r.load w = (r.loadGraph w).map fun graph => (r.adjust config, graph) := by
  rw [load, Except.bind_of_eq_ok h, loadGraph]
  cases hread : (w.files.readText ⟨r.input⟩).mapError Failure.storage with
  | error failure => rfl
  | ok text =>
    rw [Except.bind_of_eq_ok rfl, Except.bind_of_eq_ok rfl]
    cases (Graph.read text).mapError Failure.ofGraphLoad <;> rfl

/-- A request goes on with the configuration that it finds, adjusted. -/
theorem run_of_findConfig {config : Config Float} (h : w.findConfig r.config? = .ok config) :
    r.run w = r.draw w (r.adjust config) := by
  rw [run_eq_finish, load_of_findConfig h, draw]

/-- A request ends with the fault of its configuration. -/
theorem run_of_findConfig_error {failure : Failure}
    (h : w.findConfig r.config? = .error failure) : r.run w = ⟨w.files, "", .error failure⟩ := by
  rw [run_eq_finish, load, h]
  rfl

section

variable (h : FileTree.AgreeOn seen w.files files')
  (hseen : ∀ path, r.Follows path →
    ∀ place, w.files.OnWay (path.route w.files.directory) place → seen place)

include h hseen

/-- The same graph is loaded. -/
theorem loadGraph_of_agreeOn : r.loadGraph { w with files := files' } = r.loadGraph w := by
  rw [loadGraph, loadGraph, h.readText (hseen _ .input)]

/-- The graph runs to the same end, and the same drawings of single ticks are written. -/
theorem simulate_agreeOn (config : Config Float) (graph : Graph Float) :
    FileTree.AgreeOn seen (r.simulate w config graph).1
        (r.simulate { w with files := files' } config graph).1 ∧
      (r.simulate w config graph).2 = (r.simulate { w with files := files' } config graph).2 := by
  unfold simulate
  split
  · exact ⟨h, rfl⟩
  · next name hname =>
    obtain ⟨htrees, hmade⟩ := h.makeDirectories (hseen _ (.directory hname))
    have haltered : FileTree.Altered (fun _ => True) (fun _ => True) w.files
        (w.files.makeDirectories ⟨name⟩).1 :=
      (w.files.altered_makeDirectories ⟨name⟩).mono (fun _ _ => trivial) fun _ h => h
    generalize w.files.makeDirectories ⟨name⟩ = left, files'.makeDirectories ⟨name⟩ = right
      at htrees hmade haltered ⊢
    obtain ⟨made, result⟩ := left
    obtain ⟨made', result'⟩ := right
    cases hmade
    cases result with
    | error fault => exact ⟨htrees, rfl⟩
    | ok _ =>
      have hwriter := (FrameFiles.bisimulation_agreeOn ⟨.ofConfig config, ⟨name⟩, r.frameEvery⟩
        fun tick => hseen _ (.frame hname tick)).behindRecorder
      obtain ⟨hstates, hanswers⟩ := config.run_of_bisimulation w.spareSeed graph hwriter
        (.blank, ⟨made, []⟩) (.blank, ⟨made', []⟩) ⟨rfl, htrees, rfl, haltered⟩
      dsimp only
      generalize config.run w.spareSeed
          (.pair Recording.surface (FrameFiles.surface ⟨.ofConfig config, ⟨name⟩, r.frameEvery⟩))
          graph (.blank, ⟨made, []⟩) = left,
        config.run w.spareSeed
          (.pair Recording.surface (FrameFiles.surface ⟨.ofConfig config, ⟨name⟩, r.frameEvery⟩))
          graph (.blank, ⟨made', []⟩) = right at hstates hanswers ⊢
      obtain ⟨⟨recording, state⟩, result⟩ := left
      obtain ⟨⟨recording', state'⟩, result'⟩ := right
      obtain ⟨hrecording, hfiles, -⟩ := hstates
      cases hrecording
      cases hanswers
      exact ⟨hfiles, rfl⟩

/-- What has been loaded is drawn alike. -/
theorem finish_agreeOn (loaded : Except Failure (Config Float × Graph Float)) :
    (r.finish w loaded).AgreeOn seen (r.finish { w with files := files' } loaded) := by
  cases loaded with
  | error failure => exact ⟨rfl, rfl, h⟩
  | ok found =>
    obtain ⟨config, graph⟩ := found
    obtain ⟨hfiles, hresults⟩ := simulate_agreeOn h hseen config graph
    have haltered := r.altered_simulate_anywhere (w := w) config graph
    dsimp only [finish]
    generalize r.simulate w config graph = left,
      r.simulate { w with files := files' } config graph = right at hfiles hresults haltered ⊢
    obtain ⟨files, result⟩ := left
    obtain ⟨files', result'⟩ := right
    cases hresults
    cases result with
    | error failure => exact ⟨rfl, rfl, hfiles⟩
    | ok frame =>
      have hwrite := (Canvas.ofConfig config).write_agreeOn frame hfiles fun place hplace =>
        hseen _ .output place (haltered.onWay_route_iff.1 hplace)
      dsimp only at hwrite ⊢
      generalize (Canvas.ofConfig config).write frame ⟨r.output⟩ files = left,
        (Canvas.ofConfig config).write frame ⟨r.output⟩ files' = right at hwrite ⊢
      cases hwrite with
      | error fault => exact ⟨rfl, rfl, hfiles⟩
      | ok hfiles => exact ⟨rfl, rfl, hfiles⟩

/-- With a configuration, the request does the same. -/
theorem draw_agreeOn (config : Config Float) :
    (r.draw w config).AgreeOn seen (r.draw { w with files := files' } config) := by
  rw [draw, draw, loadGraph_of_agreeOn h hseen]
  exact finish_agreeOn h hseen _

end

/-- On files that agree wherever a request looks, it does the same. -/
theorem run_agreeOn (h : FileTree.AgreeOn seen w.files files')
    (hseen : ∀ place, w.files.OnWayOf (fun path => r.Follows path ∨ w.Tries r.config? path) place →
      seen place) :
    (r.run w).AgreeOn seen (r.run { w with files := files' }) := by
  have hconfigs := Workplace.findConfig_of_agreeOn
    (h.mono fun place ⟨path, htries, hplace⟩ => hseen place ⟨path, .inr htries, hplace⟩)
  cases hconfig : w.findConfig r.config? with
  | error failure =>
    rw [run_of_findConfig_error hconfig, run_of_findConfig_error (hconfigs.trans hconfig)]
    exact ⟨rfl, rfl, h⟩
  | ok config =>
    rw [run_of_findConfig hconfig, run_of_findConfig (hconfigs.trans hconfig)]
    exact draw_agreeOn h (fun path hpath place hplace => hseen place ⟨path, .inl hpath, hplace⟩) _

/-- No fault of the configuration comes up once the configuration has been found. -/
theorem findConfig_of_run_eq_error {fault : ConfigFault}
    (h : (r.run w).result = .error (.config fault)) :
    w.findConfig r.config? = .error (.config fault) := by
  obtain ⟨hload, -⟩ | ⟨⟨_, heq⟩, -⟩ := run_eq_error h
  · obtain hconfig | ⟨_, heq⟩ | ⟨_ | _, heq⟩ := load_eq_error hload
    · exact hconfig
    all_goals cases heq
  · cases heq

/-- The configuration of a request to draw is that of the first file that exists, or the usual one;
a fault in that file, or the absence of a file that is named, ends the request. Files that are tried
later have no say: on files that agree along the paths that the request names and those that are
tried, it does the same. Every configuration that is found can be used, also with the number of
ticks and the seed of the request in place of its own, and the request draws with it what it draws
without them on a configuration that has them. So a fault of the configuration is always one of the
search for it. -/
theorem configuration_precedence (r : RenderRequest) (w : Workplace) :
    (∀ result, w.Decides r.config? result ↔ w.findConfig r.config? = result) ∧
    (∀ failure, w.findConfig r.config? = .error failure →
      r.run w = ⟨w.files, "", .error failure⟩) ∧
    (∀ files' seen,
      (∀ place, w.files.OnWayOf (fun path => r.Follows path ∨ w.Tries r.config? path) place →
        seen place) →
      FileTree.AgreeOn seen w.files files' →
      (r.run w).AgreeOn seen (r.run { w with files := files' })) ∧
    (∀ config, w.findConfig r.config? = .ok config →
      config.check = .ok () ∧ (r.adjust config).check = .ok () ∧
      r.run w = r.draw w (r.adjust config) ∧
      ∀ ticks seed,
        let own : RenderRequest := { r with ticks? := some ticks, seed? := some seed }
        let config' : Config Float :=
          { config with
            simulation := { config.simulation with maxTicks := ticks, seed := some seed } }
        config'.check = .ok () ∧ own.run w = r.plain.draw w config' ∧
          ∀ files' seen, (∀ place, w.files.OnWayOf r.Follows place → seen place) →
            FileTree.AgreeOn seen w.files files' →
            Workplace.findConfig { w with files := files' } r.config? = .ok config' →
            (own.run w).AgreeOn seen (r.plain.run { w with files := files' })) ∧
    ∀ fault, (r.run w).result = .error (.config fault) ↔
      w.findConfig r.config? = .error (.config fault) := by
  refine ⟨fun _ => Workplace.decides_iff, fun _ => run_of_findConfig_error,
    fun _ _ hseen h => run_agreeOn h hseen, fun config hconfig => ?_,
    fun fault => ⟨findConfig_of_run_eq_error, fun hfault => ?_⟩⟩
  · have hcheck := Workplace.check_of_findConfig hconfig
    -- the ticks and the seed are none of the settings that are checked
    refine ⟨hcheck, hcheck, run_of_findConfig hconfig, fun ticks seed => ?_⟩
    refine ⟨hcheck, run_of_findConfig hconfig, fun files' seen hseen h hconfig' => ?_⟩
    rw [run_of_findConfig (r := { r with ticks? := some ticks, seed? := some seed }) hconfig,
      run_of_findConfig (r := r.plain) hconfig']
    exact draw_agreeOn (r := r) h
      (fun path hpath place hplace => hseen place ⟨path, hpath, hplace⟩) _
  · rw [run_of_findConfig_error hfault]

/-- A project whose configuration has a seed, and a broken file of the user's own: without the
broken file the outcome is the same, and so it is with the configured ticks and seed asked for. -/
theorem configuration_precedence_brokenLater :
    let files : FileTree := .ofEntries ["work"] (Workplace.singleNode.files.entries ++ [
      (["work", "arpviz"], .directory),
      (["work", "arpviz", "config.toml"],
        .file "[simulation]\nmax_ticks = 2\nseed = 7\n".toUTF8.toList)])
    let broken : Place := ["work", "user.toml"]
    let w : Workplace := ⟨files.put broken (.file "[".toUTF8.toList), some ⟨"user.toml"⟩, 0⟩
    let r : RenderRequest := ⟨"in.json", "out.svg", none, none, 1, none, none⟩
    let own : RenderRequest := { r with ticks? := some 2, seed? := some 7 }
    (∃ config, w.findConfig none = .ok config ∧ config.simulation.maxTicks = 2) ∧
      (r.run w).AgreeOn (· ≠ broken) (r.run { w with files }) ∧
      (own.run w).AgreeOn (fun _ => True) (r.run w) := by
  intro files broken w r own
  have hsettings : ((w.findConfig none).toOption.map fun config =>
      (config.simulation.maxTicks, config.simulation.seed)) = some (2, some 7) := by
    decide +kernel
  have hexists : w.files.contains Workplace.projectConfig = true := by decide +kernel
  have hrecords : w.files.records = [(["work", "in.json"], .file 0), (["work", "out"], .directory),
      (["work", "arpviz"], .directory), (["work", "arpviz", "config.toml"], .file 1),
      (broken, .file 2)] := by
    decide +kernel
  have habsent : files.entryAt? broken = none := by decide +kernel
  -- no path that is followed or tried leads past the broken file
  have hplaces : ∀ path, r.Follows path ∨ w.Tries none path →
      broken ∉ (path.route ["work"]).steps.scanl Place.enter (path.route ["work"]).start := by
    rintro path (h | ⟨before, later, hcandidates, hbefore⟩)
    · cases h with
      | input | output => decide
      | directory h | frame h _ => cases h
    · cases before with
      | nil =>
        cases hcandidates
        decide
      | cons first before =>
        cases (List.cons.inj hcandidates).1
        rw [hbefore _ (List.mem_cons_self ..)] at hexists
        cases hexists
  have hseen : ∀ place,
      w.files.OnWayOf (fun path => r.Follows path ∨ w.Tries none path) place → place ≠ broken := by
    rintro place ⟨path, hpath, hplace⟩ rfl
    refine hplaces path hpath (hplace.mem_scanl fun _ _ => FileTree.link?_eq_none ?_)
    rw [hrecords]
    simp
  have hagree : FileTree.AgreeOn (· ≠ broken) w.files files := by
    refine ⟨FileTree.directory_put .., fun place hne => FileTree.entryAt?_put_of_ne _ _ hne, ?_⟩
    intro place other hplace hother
    rw [FileTree.sameFile_put_file habsent]
    simp [hplace, hother]
  obtain ⟨config, hconfig, hsettings⟩ := Option.map_eq_some_iff.1 hsettings
  have hconfig := Except.toOption_eq_some.1 hconfig
  obtain ⟨hticks, hseed⟩ := Prod.mk.inj hsettings
  have hsame : { config with
      simulation := { config.simulation with maxTicks := 2, seed := some 7 } } = config := by
    rw [← hticks, ← hseed]
  obtain ⟨-, -, hlater, hown, -⟩ := configuration_precedence r w
  obtain ⟨-, -, -, hown⟩ := hown config hconfig
  obtain ⟨-, -, hown⟩ := hown 2 7
  exact ⟨⟨config, hconfig, hticks⟩, hlater files _ hseen hagree,
    hown w.files _ (fun _ _ => trivial) (FileTree.agreeOn_refl _)
      (hconfig.trans (congrArg Except.ok hsame.symm))⟩

end RenderRequest

end NeighborGraph
