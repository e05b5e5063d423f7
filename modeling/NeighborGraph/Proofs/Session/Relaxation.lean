import NeighborGraph.Proofs.Session.Operation
import NeighborGraph.Visualization

/-!
# The frame that is left of a run

A surface relaxes another one (`Surface.Relaxation`) if it takes every frame that the other one
takes. A run that comes to its end does so on every relaxation of its surface, with the same session
(`Surface.Relaxation.run`), so that the session does not depend on what watches it, as long as
nothing closes it. The frame that a recorder remembers in the end is that of the session, also if
it has not been given any (`Session.Runs.finalFrame`).
-/

namespace NeighborGraph

variable {α σ τ : Type}

namespace Surface

/-- `view` shows the states of a surface as states of another one, which takes every frame that the
first one takes. -/
structure Relaxation (fine : Surface α τ) (coarse : Surface α σ) (view : τ → σ) : Prop where
  present : ∀ {tick frame state after}, fine.present tick frame state = (after, .ok ()) →
    coarse.present tick frame (view state) = (view after, .ok ())
  isClosed : ∀ state, coarse.isClosed (view state) = fine.isClosed state

/-- The surface that takes every frame and remembers nothing. -/
def blind : Surface α Unit where
  present _ _ _ := ((), .ok ())
  isClosed _ := false

/-- The surface that takes every frame and remembers none goes on wherever an open one does. -/
theorem relaxation_blind {surface : Surface α σ} (hopen : ∀ state, surface.isClosed state = false) :
    Relaxation surface blind fun _ => () where
  present _ := rfl
  isClosed state := (hopen state).symm

/-- A recorder relaxes every pair of itself with a surface that does not close. -/
theorem relaxation_pair {surface : Surface α σ} (hopen : ∀ state, surface.isClosed state = false) :
    Relaxation (pair Recording.surface surface) Recording.surface Prod.fst where
  present {tick frame state after} h := by
    have hfirst := congrArg (·.1.1) h
    exact Prod.ext hfirst rfl
  isClosed state := by
    change false = (false || surface.isClosed state.2)
    rw [hopen]
    rfl

end Surface

variable [Scalar α] {fine : Surface α τ} {coarse : Surface α σ} {view : τ → σ}

/-- A tick that succeeds on the finer surface does the same on the coarser one. -/
theorem Surface.Relaxation.tick (h : Surface.Relaxation fine coarse view) {s : Session α}
    {state : τ} {q : Session α × τ} {stepped : Bool} (ht : s.tick fine state = (q, .ok stepped)) :
    s.tick coarse (view state) = ((q.1, view q.2), .ok stepped) := by
  obtain ⟨hc, ht'⟩ | ⟨-, _, _, -, ht'⟩ | ⟨hc, after, hp, ht'⟩ := Session.tick_cases fine s state <;>
    rw [ht'] at ht <;> cases ht
  · rw [Session.tick, hc]
    rfl
  · have hp' := h.present hp
    simp [Session.tick, hc, show s.advance.ticks = s.ticks + 1 from rfl, hp', h.isClosed]

/-- A run that comes to its end does so on every relaxation of its surface. -/
theorem Surface.Relaxation.runFrom (h : Surface.Relaxation fine coarse view) {done budget : Nat}
    {s : Session α} {state : τ} {q : Session α × τ} {summary : RunSummary α}
    (hrun : Session.runFrom fine done budget s state = (q, .ok summary)) :
    Session.runFrom coarse done budget s (view state) = ((q.1, view q.2), .ok summary) := by
  induction budget generalizing done s state with
  | zero =>
    cases hs : s.stop? 0 with
    | some reason =>
      rw [Session.runFrom_of_stop? hs] at hrun ⊢
      cases hrun
      rfl
    | none => exact absurd rfl (Session.stop?_eq_none_iff.1 hs).2.2
  | succ budget ih =>
    cases hs : s.stop? (budget + 1) with
    | some reason =>
      rw [Session.runFrom_of_stop? hs] at hrun ⊢
      cases hrun
      rfl
    | none =>
      obtain ⟨hc, hm, -⟩ := Session.stop?_eq_none_iff.1 hs
      rw [Session.runFrom_succ hc hm] at hrun ⊢
      cases ht : s.tick fine state with
      | mk middle answer =>
        rw [ht] at hrun
        cases answer with
        | error fault => cases hrun
        | ok stepped =>
          rw [h.tick ht]
          exact ih hrun

/-- A run that succeeds on the finer surface does the same on the coarser one. -/
theorem Surface.Relaxation.run (h : Surface.Relaxation fine coarse view) {budget : Nat}
    {s : Session α} {state : τ} {q : Session α × τ} {summary : RunSummary α}
    (hrun : s.run fine budget state = (q, .ok summary)) :
    s.run coarse budget (view state) = ((q.1, view q.2), .ok summary) :=
  h.runFrom hrun

namespace Session

/-- What an accepted tick on a recorder leaves: the session after the step, and its frame as the
last one. -/
theorem tick_recording (s : Session Float) (state : Recording Float) (hc : s.closed = false) :
    s.tick Recording.surface state =
      ((s.advance, ⟨some (s.ticks + 1, s.advance.frame), state.presented + 1⟩), .ok true) := by
  rw [tick, hc]
  rfl

/-- The frame that is left stays that of the session: each tick records the frame of the session
that it leaves. -/
theorem Runs.finalFrame {k : Nat} {p q : Session Float × Recording Float}
    (hr : Runs Recording.surface k p q) (hp : p.1.finalFrame p.2 = p.1.frame) :
    q.1.finalFrame q.2 = q.1.frame := by
  induction hr with
  | none p => exact hp
  | @tick s state middle q k hc _ ht _ ih =>
    rw [tick_recording s state hc] at ht
    cases ht
    exact ih rfl

end Session

/-! ## Runs of a graph -/

namespace Config

variable {config : Config Float} {spareSeed : UInt64} {graph : Graph Float}

/-- To run a configuration is to start a session and to run it. -/
theorem run_eq_ok {surface : Surface Float σ} {state after : σ} {session : Session Float}
    {summary : RunSummary Float} :
    config.run spareSeed surface graph state = (after, .ok (session, summary)) ↔
      ∃ started, Session.start config spareSeed graph = .ok started ∧
        started.run surface config.simulation.maxTicks state = ((session, after), .ok summary) := by
  cases hstart : Session.start config spareSeed graph with
  | error fault =>
    rw [run, hstart]
    exact ⟨nofun, fun ⟨_, h, _⟩ => nomatch h⟩
  | ok started =>
    rw [run, hstart]
    dsimp only
    constructor
    · intro h
      split at h <;> cases h
      exact ⟨started, rfl, ‹_›⟩
    · rintro ⟨_, ⟨rfl⟩, h⟩
      rw [h]

/-- A run that has started fails only because a frame is refused. -/
theorem run_eq_error {surface : Surface Float σ} {state after : σ} {failure : Failure}
    (hstart : ∃ started, Session.start config spareSeed graph = .ok started)
    (h : config.run spareSeed surface graph state = (after, .error failure)) :
    ∃ fault, failure = .exporting fault := by
  obtain ⟨started, hstart⟩ := hstart
  rw [run, hstart] at h
  dsimp only at h
  split at h
  · cases h
    exact ⟨_, rfl⟩
  · cases h

/-- What a surface keeps of its state with every frame, it keeps in a run of a graph. -/
theorem state_of_run {P : σ → Prop} {surface : Surface Float σ}
    (hP : ∀ tick frame state, P state → P (surface.present tick frame state).1) {state : σ}
    (h : P state) : P (config.run spareSeed surface graph state).1 := by
  unfold run
  split
  · exact h
  · next session hstart =>
    have hrun := session.state_of_run hP config.simulation.maxTicks h
    split <;>
    · next hfound =>
      rw [hfound] at hrun
      exact hrun

/-- A run of a graph that comes to its end does so on every relaxation of its surface. -/
theorem run_of_relaxation {fine : Surface Float τ} {coarse : Surface Float σ} {view : τ → σ}
    (h : Surface.Relaxation fine coarse view) {state after : τ} {session : Session Float}
    {summary : RunSummary Float}
    (hrun : config.run spareSeed fine graph state = (after, .ok (session, summary))) :
    config.run spareSeed coarse graph (view state) = (view after, .ok (session, summary)) := by
  obtain ⟨started, hstart, hrun⟩ := run_eq_ok.1 hrun
  exact run_eq_ok.2 ⟨started, hstart, h.run hrun⟩

/-- A run of a graph goes alike on surfaces that are alike. -/
theorem run_of_bisimulation (config : Config Float) (spareSeed : UInt64) (graph : Graph Float)
    {first : Surface Float τ} {second : Surface Float σ} {R : τ → σ → Prop}
    (hb : Surface.Bisimulation first second R) (state : τ) (state' : σ) (h : R state state') :
    R (config.run spareSeed first graph state).1 (config.run spareSeed second graph state').1 ∧
      (config.run spareSeed first graph state).2 =
        (config.run spareSeed second graph state').2 := by
  unfold run
  split
  · exact ⟨h, rfl⟩
  · next session hstart =>
    obtain ⟨hsession, hstates, hanswers⟩ := hb.run config.simulation.maxTicks session h
    generalize session.run first config.simulation.maxTicks state = left,
      session.run second config.simulation.maxTicks state' = right at hsession hstates hanswers ⊢
    obtain ⟨⟨after, middle⟩, answer⟩ := left
    obtain ⟨⟨after', middle'⟩, answer'⟩ := right
    cases hsession
    cases hanswers
    cases answer with
    | error fault => exact ⟨hstates, rfl⟩
    | ok summary => exact ⟨hstates, rfl⟩

/-- Two runs of a graph that come to their ends, on surfaces that do not close, end with the same
session. -/
theorem run_unique {first : Surface Float σ} {second : Surface Float τ}
    (hfirst : ∀ state, first.isClosed state = false)
    (hsecond : ∀ state, second.isClosed state = false)
    {state after : σ} {state' after' : τ} {found found' : Session Float × RunSummary Float}
    (h : config.run spareSeed first graph state = (after, .ok found))
    (h' : config.run spareSeed second graph state' = (after', .ok found')) : found = found' := by
  have hblind := run_of_relaxation (Surface.relaxation_blind hfirst) h
  have hblind' := run_of_relaxation (Surface.relaxation_blind hsecond) h'
  rw [hblind] at hblind'
  exact Except.ok.inj (congrArg Prod.snd hblind')

/-- A run on a recorder leaves the frame of its session, and that of the placement if it makes no
tick. -/
theorem run_recording {recording : Recording Float} {session : Session Float}
    {summary : RunSummary Float}
    (h : config.run spareSeed Recording.surface graph .blank =
      (recording, .ok (session, summary))) :
    session.finalFrame recording = session.frame ∧
      (summary.ticks = 0 → Session.start config spareSeed graph = .ok session) := by
  obtain ⟨started, hstart, hrun⟩ := run_eq_ok.1 h
  obtain ⟨k, q, reason, -, hr, -, he⟩ | ⟨k, q, r, fault, -, -, -, -, -, he⟩ :=
    Session.runFrom_cases Recording.surface 0 config.simulation.maxTicks started .blank
  · rw [Session.run, he] at hrun
    cases hrun
    refine ⟨hr.finalFrame rfl, fun hzero => ?_⟩
    have hk : k = 0 := by
      change 0 + k = 0 at hzero
      omega
    subst hk
    cases hr
    exact hstart
  · rw [Session.run, he] at hrun
    cases hrun

/-- With a seed of its own, a configuration has no use for a spare one. -/
theorem start_of_seed (hseed : config.simulation.seed.isSome = true)
    (spareSeed spareSeed' : UInt64) :
    Session.start config spareSeed graph = Session.start config spareSeed' graph := by
  obtain ⟨seed, hseed⟩ := Option.isSome_iff_exists.1 hseed
  unfold Session.start
  rw [hseed]
  rfl

/-- With a configured seed, the spare one does not matter. -/
theorem run_of_seed (hseed : config.simulation.seed.isSome = true) (spareSeed spareSeed' : UInt64)
    (surface : Surface Float σ) (state : σ) :
    config.run spareSeed surface graph state = config.run spareSeed' surface graph state := by
  unfold run
  rw [start_of_seed hseed spareSeed spareSeed']

end Config

end NeighborGraph
