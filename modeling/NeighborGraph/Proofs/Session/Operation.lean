import NeighborGraph.Proofs.Layout.Changes
import NeighborGraph.Proofs.Session.Observed

/-!
# Histories of a session

Whatever is done to a session is a list of operations (`Session.Operation`), in which every tick and
every run brings along its own surface. All of them come down to five changes: a step of an open
session, closing, and the three things that a pointer does. A property that these keep
(`Session.Invariant`) holds after every history (`Session.Invariant.after`).
-/

namespace NeighborGraph

namespace Session

/-- Something that is done to a session. A tick and a run bring along the surface that they show
their frames on, in the state that it is in by then. -/
inductive Operation (α : Type) : Type 1 where
  | tick {σ : Type} (surface : Surface α σ) (state : σ)
  | run {σ : Type} (surface : Surface α σ) (budget : Nat) (state : σ)
  | press (point : Point α)
  | moveTo (point : Point α)
  | release
  | close

variable {α σ : Type} [Scalar α]

/-- The session after an operation, whatever the operation answers. -/
def Operation.perform (op : Operation α) (s : Session α) : Session α :=
  match op with
  | tick surface state => (s.tick surface state).1.1
  | run surface budget state => (s.run surface budget state).1.1
  | press point => (s.press point).1
  | moveTo point => (s.moveTo point).1
  | release => s.release.1
  | close => s.close

/-- The frames that an operation gives to its surface, in order, with the answers. -/
def Operation.shown (op : Operation α) (s : Session α) : List (Surface.Presentation α) :=
  match op with
  | tick surface state => (s.tick surface.observed (state, [])).1.2.2
  | run surface budget state => (s.run surface.observed budget (state, [])).1.2.2
  | press _ | moveTo _ | release | close => []

/-- The session after a list of operations. -/
def after (s : Session α) (ops : List (Operation α)) : Session α :=
  ops.foldl (fun s op => op.perform s) s

/-- The frames that a list of operations gives to surfaces, in order, with the answers. -/
def shown (s : Session α) : List (Operation α) → List (Surface.Presentation α)
  | [] => []
  | op :: ops => op.shown s ++ (op.perform s).shown ops

@[simp] theorem after_nil (s : Session α) : s.after [] = s := rfl

@[simp] theorem after_cons (s : Session α) (op : Operation α) (ops : List (Operation α)) :
    s.after (op :: ops) = (op.perform s).after ops := rfl

/-- After a history and a later one the session is as after the later one on what the first one
left. -/
theorem after_append (s : Session α) (ops later : List (Operation α)) :
    s.after (ops ++ later) = (s.after ops).after later := List.foldl_append

/-- The answer of a single tick or run does not depend on whether the surface is observed. -/
theorem Operation.perform_tick (surface : Surface α σ) (state : σ) (s : Session α) :
    (tick surface state).perform s = (s.tick surface.observed (state, [])).1.1 :=
  congrArg (·.1.1) ((Surface.view_observed surface).tick s (state, []))

/-- A run leaves the session that it leaves on the surface with a record of its frames. -/
theorem Operation.perform_run (surface : Surface α σ) (budget : Nat) (state : σ) (s : Session α) :
    (run surface budget state).perform s = (s.run surface.observed budget (state, [])).1.1 :=
  congrArg (·.1.1) ((Surface.view_observed surface).run budget s (state, []))

/-! ## Starting -/

/-- All that a start does: the configuration is in order, and the nodes are scattered over the
canvas before the first tick. -/
theorem start_eq_ok {config : Config α} {spareSeed : UInt64} {graph : Graph α} {s : Session α}
    (h : start config spareSeed graph = .ok s) :
    config.check = .ok () ∧ ∃ simulation,
      (Simulation.ofGraph config.layout.forces
        (Generator.ofSeed (config.simulation.seed.getD spareSeed)) graph).scatter
          config.layout.size = .ok simulation ∧
      s = ⟨.ofSimulation simulation config.style.style, config.simulation.timeStep,
        config.simulation.epsilon, 0, false⟩ := by
  obtain ⟨_, hcheck, h⟩ := Except.bind_eq_ok.1 h
  obtain ⟨simulation, hscatter, h⟩ := Except.bind_eq_ok.1 h
  exact ⟨Except.mapError_eq_ok.1 hcheck, simulation, Except.mapError_eq_ok.1 hscatter,
    (Except.ok.inj h).symm⟩

/-- On a graph that passes the check, a start fails exactly if the configuration is not in order,
and then says so. -/
theorem start_of_check {graph : Graph α} (hg : graph.check = .ok ()) (config : Config α)
    (spareSeed : UInt64) :
    (config.check = .ok () ∧ ∃ s, start config spareSeed graph = .ok s) ∨
    ∃ fault, config.check = .error fault ∧
      start config spareSeed graph = .error (.config fault) := by
  cases hc : config.check with
  | error fault =>
    refine .inr ⟨fault, rfl, Except.bind_eq_error.2 (.inl ?_)⟩
    exact Except.mapError_eq_error.2 ⟨fault, hc, rfl⟩
  | ok u =>
    obtain ⟨simulation, hs⟩ := Simulation.exists_scatter_eq_ok
      (show (Simulation.ofGraph config.layout.forces
        (Generator.ofSeed (config.simulation.seed.getD spareSeed)) graph).graph.check = _ from hg)
      config.layout.size
    refine .inl ⟨rfl, ⟨.ofSimulation simulation config.style.style, config.simulation.timeStep,
      config.simulation.epsilon, 0, false⟩, ?_⟩
    refine Except.bind_eq_ok.2 ⟨(), Except.mapError_eq_ok.2 hc, ?_⟩
    exact Except.bind_eq_ok.2 ⟨simulation, Except.mapError_eq_ok.2 hs, rfl⟩

/-! ## Invariants -/

/-- A property of sessions that a step of an open session and closing keep. -/
structure Steady (P : Session α → Prop) : Prop where
  advance : ∀ {s}, s.closed = false → P s → P s.advance
  close : ∀ {s}, P s → P s.close

/-- A property of sessions that every elementary change keeps, those by a pointer included. -/
structure Invariant (P : Session α → Prop) : Prop extends Steady P where
  press : ∀ {s} point, P s → P (s.press point).1
  moveTo : ∀ {s} point, P s → P (s.moveTo point).1
  release : ∀ {s}, P s → P s.release.1

variable {P : Session α → Prop}

/-- What steps and closing keep, a tick keeps. -/
theorem Steady.tick (hP : Steady P) {s : Session α} (h : P s) (surface : Surface α σ) (state : σ) :
    P (s.tick surface state).1.1 := by
  obtain ⟨-, ht⟩ | ⟨hc, _, _, -, ht⟩ | ⟨hc, after, -, ht⟩ := tick_cases surface s state <;> rw [ht]
  · exact h
  · exact hP.advance hc h
  · dsimp only
    split
    · exact hP.close (hP.advance hc h)
    · exact hP.advance hc h

/-- What steps and closing keep, the ticks of a run keep. -/
theorem Steady.runs (hP : Steady P) {surface : Surface α σ} {k : Nat} {p q : Session α × σ}
    (hr : Runs surface k p q) (h : P p.1) : P q.1 := by
  induction hr with
  | none p => exact h
  | @tick s state _ _ _ _ _ ht _ ih =>
    have hq := hP.tick h surface state
    rw [ht] at hq
    exact ih hq

/-- What steps and closing keep, a run keeps. -/
theorem Steady.run (hP : Steady P) {s : Session α} (h : P s) (surface : Surface α σ) (budget : Nat)
    (state : σ) : P (s.run surface budget state).1.1 := by
  obtain ⟨k, q, reason, -, hr, -, he⟩ | ⟨k, q, r, fault, -, hr, -, -, ht, he⟩ :=
    runFrom_cases surface 0 budget s state <;> rw [Session.run, he]
  · exact hP.runs hr h
  · have hq := hP.tick (hP.runs hr h) surface q.2
    rwa [ht] at hq

/-- An operation keeps an invariant. -/
theorem Invariant.perform (hP : Invariant P) {s : Session α} (h : P s) (op : Operation α) :
    P (op.perform s) := by
  cases op with
  | tick surface state => exact hP.tick h surface state
  | run surface budget state => exact hP.run h surface budget state
  | press point => exact hP.press point h
  | moveTo point => exact hP.moveTo point h
  | release => exact hP.release h
  | close => exact hP.close h

/-- An invariant that holds of a session holds after every history. -/
theorem Invariant.after (hP : Invariant P) {s : Session α} (h : P s) (ops : List (Operation α)) :
    P (s.after ops) := by
  induction ops generalizing s with
  | nil => exact h
  | cons op ops ih => exact ih (hP.perform h op)

end Session

end NeighborGraph
