import NeighborGraph.Proofs.Session.Run

/-!
# Runs in parts

A run that has come to its end can be taken up again with a new budget. What has ended the first
run is met again by the second one before its first tick, unless it was the budget
(`Session.runFrom_add_of_stop?`), and the ticks made before a run are only counted
(`Session.runFrom_before`). So a run with a budget in two parts does what a run with the whole
budget does (`Session.run_add`).
-/

namespace NeighborGraph

namespace Session

variable {α σ : Type} [Scalar α] {surface : Surface α σ} {s : Session α} {state : σ}

/-- After a number of ticks in a row a run has the rest of its budget left. -/
theorem Runs.runFrom_eq {k : Nat} {p q : Session α × σ} (h : Runs surface k p q)
    (done left : Nat) :
    runFrom surface done (k + left) p.1 p.2 = runFrom surface (done + k) left q.1 q.2 := by
  induction h generalizing done with
  | none p => rw [Nat.zero_add, Nat.add_zero]
  | @tick s state q r k hc hm ht _ ih =>
    rw [show k + 1 + left = k + left + 1 by omega, runFrom_succ hc hm, ht]
    dsimp only
    rw [ih (done + 1), Nat.add_assoc, Nat.add_comm 1]

/-- A reason to stop that is not the budget holds whatever is left. -/
theorem stop?_eq_some_of_ne {left : Nat} {reason : StopReason} (h : s.stop? left = some reason)
    (hne : reason ≠ .budgetSpent) (other : Nat) : s.stop? other = some reason := by
  obtain ⟨hclosed, hconverged, -⟩ := stop?_eq_some h
  cases reason with
  | closed => exact if_pos (hclosed.1 rfl)
  | converged =>
    obtain ⟨hc, hm⟩ := hconverged.1 rfl
    simp [stop?, hc, hm]
  | budgetSpent => exact absurd rfl hne

/-- Where a run stops with something left, a greater budget does not carry it on; where it stops
with nothing left, it goes on with what the budget is raised by. -/
theorem runFrom_add_of_stop? {left : Nat} {reason : StopReason} (h : s.stop? left = some reason)
    (done more : Nat) (state : σ) :
    runFrom surface done (left + more) s state = runFrom surface done more s state := by
  by_cases hr : reason = .budgetSpent
  · obtain ⟨-, -, hspent⟩ := stop?_eq_some h
    rw [(hspent.1 hr).2.2, Nat.zero_add]
  · have hstop (left : Nat) := stop?_eq_some_of_ne h hr left
    rw [runFrom_of_stop? (hstop _), runFrom_of_stop? (hstop _)]

/-- A tick whose frame is refused ends a run that has something left. -/
theorem runFrom_of_tick_eq_error {left : Nat} {q : Session α × σ} {fault : ExportFault}
    (hleft : 0 < left) (hc : s.closed = false) (hm : s.isConverged = false)
    (ht : s.tick surface state = (q, .error fault)) (done : Nat) :
    runFrom surface done left s state = (q, .error fault) := by
  cases left with
  | zero => exact absurd hleft (Nat.lt_irrefl 0)
  | succ left => rw [runFrom_succ hc hm, ht]

/-- The ticks that were made before a run are counted with its own, and change nothing else. -/
theorem runFrom_before (surface : Surface α σ) (before done budget : Nat) (s : Session α)
    (state : σ) :
    runFrom surface (before + done) budget s state =
      ((runFrom surface done budget s state).1,
        (runFrom surface done budget s state).2.map fun summary =>
          { summary with ticks := before + summary.ticks }) := by
  obtain ⟨k, q, reason, hk, hr, hstop, he⟩ | ⟨k, q, r, fault, hk, hr, hc, hm, ht, he⟩ :=
    runFrom_cases surface done budget s state
  · have hwhole := hr.runFrom_eq (before + done) (budget - k)
    rw [Nat.add_sub_cancel' hk, runFrom_of_stop? hstop] at hwhole
    rw [he, hwhole, Nat.add_assoc]
    rfl
  · have hwhole := hr.runFrom_eq (before + done) (budget - k)
    rw [Nat.add_sub_cancel' (Nat.le_of_lt hk),
      runFrom_of_tick_eq_error (Nat.sub_pos_of_lt hk) hc hm ht] at hwhole
    rw [he, hwhole]
    rfl

/-- A run with a budget in two parts: if a frame is refused in the first part, this is all that the
run does; otherwise it goes on from where the first part has ended, and ends as the second part
does, with the ticks of both. -/
theorem run_add (surface : Surface α σ) (first second : Nat) (s : Session α) (state : σ) :
    s.run surface (first + second) state =
      match s.run surface first state with
      | (q, .error fault) => (q, .error fault)
      | (q, .ok before) =>
        match q.1.run surface second q.2 with
        | (r, .error fault) => (r, .error fault)
        | (r, .ok after) => (r, .ok { after with ticks := before.ticks + after.ticks }) := by
  obtain ⟨k, q, reason, hk, hr, hstop, he⟩ | ⟨k, q, r, fault, hk, hr, hc, hm, ht, he⟩ :=
    runFrom_cases surface 0 first s state
  · have hwhole : s.run surface (first + second) state = runFrom surface k second q.1 q.2 := by
      have h := hr.runFrom_eq 0 (first - k + second)
      rw [← Nat.add_assoc, Nat.add_sub_cancel' hk, runFrom_add_of_stop? hstop, Nat.zero_add] at h
      exact h
    have hcount := runFrom_before surface k 0 second q.1 q.2
    rw [Nat.add_zero] at hcount
    rw [hwhole, hcount, Session.run, he, Nat.zero_add]
    dsimp only
    rw [Session.run]
    rcases runFrom surface 0 second q.1 q.2 with ⟨r, fault | after⟩
    · rfl
    · rfl
  · have hwhole := hr.runFrom_eq 0 (first - k + second)
    have hleft : 0 < first - k + second := by omega
    rw [← Nat.add_assoc, Nat.add_sub_cancel' (Nat.le_of_lt hk),
      runFrom_of_tick_eq_error hleft hc hm ht] at hwhole
    rw [Session.run, hwhole, Session.run, he]

end Session

end NeighborGraph
