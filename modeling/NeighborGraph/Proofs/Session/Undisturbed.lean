import NeighborGraph.Proofs.Layout.Motion
import NeighborGraph.Proofs.Session.Operation

/-!
# Sessions without a pointer

As long as no pointer touches a session, its simulation only makes steps: after any ticks and runs,
whatever the surfaces answer, it is the simulation of the beginning after as many steps as there
have been ticks (`Session.stepped_after`).
-/

namespace NeighborGraph

variable {α : Type} [Scalar α]

namespace Session

/-- The operation is one of the pointer. -/
def Operation.byPointer : Operation α → Bool
  | tick .. | run .. | close => false
  | press _ | moveTo _ | release => true

/-- Without a pointer, operations keep what steps and closing keep. -/
theorem Steady.after {P : Session α → Prop} (hP : Steady P) {s : Session α} (h : P s)
    {ops : List (Operation α)} (hops : ∀ op ∈ ops, op.byPointer = false) : P (s.after ops) := by
  induction ops generalizing s with
  | nil => exact h
  | cons op ops ih =>
    obtain ⟨hop, hrest⟩ := List.forall_mem_cons.1 hops
    refine ih ?_ hrest
    cases op with
    | tick surface state => exact hP.tick h surface state
    | run surface budget state => exact hP.run h surface budget state
    | close => exact hP.close h
    | press point => cases hop
    | moveTo point => cases hop
    | release => cases hop

/-- A session has come from another one by a number of steps, and may have been closed since. -/
structure SteppedFrom (start s : Session α) (n : Nat) : Prop where
  simulation : s.scene.simulation = start.scene.simulation.stepped start.timeStep n
  ticks : s.ticks = start.ticks + n
  timeStep : s.timeStep = start.timeStep
  epsilon : s.epsilon = start.epsilon

/-- Steps and closing leave a session that has only been stepped from its start. -/
theorem steady_steppedFrom (start : Session α) : Steady fun s => ∃ n, SteppedFrom start s n where
  advance := by
    rintro s - ⟨n, hsimulation, hticks, htime, hepsilon⟩
    refine ⟨n + 1, ?_, congrArg (· + 1) hticks, htime, hepsilon⟩
    change s.scene.simulation.step s.timeStep = _
    rw [hsimulation, htime]
    rfl
  close := fun ⟨n, hsimulation, hticks, htime, hepsilon⟩ =>
    ⟨n, hsimulation, hticks, htime, hepsilon⟩

/-- Without a pointer, the simulation of a session makes steps and nothing else. -/
theorem stepped_after (start : Session α) {ops : List (Operation α)}
    (hops : ∀ op ∈ ops, op.byPointer = false) : ∃ n, SteppedFrom start (start.after ops) n :=
  (steady_steppedFrom start).after ⟨0, rfl, rfl, rfl, rfl⟩ hops

end Session

end NeighborGraph
