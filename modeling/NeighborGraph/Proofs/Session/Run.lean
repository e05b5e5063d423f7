import NeighborGraph.Session.Basic

/-!
# Ticks and runs

What a single tick can do is said once (`Session.tick_cases`), and a run is read as a number of
ticks in a row (`Session.Runs`), each of them made from a session that is open and still moving. A
run ends after such ticks because the session has a reason to stop (`Session.stop?`), or because the
surface refuses the frame of one more tick (`Session.runFrom_cases`). Whatever a surface keeps of
its state with each frame, a run keeps (`Session.state_of_run`).
-/

namespace NeighborGraph

variable {α σ τ : Type} [Scalar α]

namespace Session

/-! ## Ticks -/

/-- The three things that a tick can do: nothing, because the session is closed; a step whose frame
the surface refuses; or a step whose frame it takes, after which the session closes with the
surface. -/
theorem tick_cases (surface : Surface α σ) (s : Session α) (state : σ) :
    (s.closed = true ∧ s.tick surface state = ((s, state), .ok false)) ∨
    (s.closed = false ∧ ∃ after fault,
      surface.present (s.ticks + 1) s.advance.frame state = (after, .error fault) ∧
      s.tick surface state = ((s.advance, after), .error fault)) ∨
    (s.closed = false ∧ ∃ after,
      surface.present (s.ticks + 1) s.advance.frame state = (after, .ok ()) ∧
      s.tick surface state =
        ((if surface.isClosed after then s.advance.close else s.advance, after), .ok true)) := by
  have hticks : s.advance.ticks = s.ticks + 1 := rfl
  cases hc : s.closed with
  | true => exact .inl ⟨rfl, by rw [tick, hc]; rfl⟩
  | false =>
    cases hp : surface.present (s.ticks + 1) s.advance.frame state with
    | mk after answer =>
      cases answer with
      | error fault =>
        refine .inr (.inl ⟨rfl, after, fault, rfl, ?_⟩)
        simp only [tick, hc, hticks, hp]
        rfl
      | ok u =>
        refine .inr (.inr ⟨rfl, after, rfl, ?_⟩)
        simp only [tick, hc, hticks, hp]
        rfl

/-- What a tick shows is the scene after a step, unless the session is closed. -/
theorem scene_tick (surface : Surface α σ) (s : Session α) (state : σ) :
    (s.tick surface state).1.1.scene = if s.closed then s.scene else s.scene.step s.timeStep := by
  obtain ⟨hc, ht⟩ | ⟨hc, _, _, -, ht⟩ | ⟨hc, after, -, ht⟩ := tick_cases surface s state <;>
    rw [ht, hc]
  · rfl
  · rfl
  · dsimp only
    split <;> rfl

/-! ## Runs -/

/-- A number of ticks in a row, as a run makes them: before each of them the session is open and
still moving, and the surface takes its frame. -/
inductive Runs (surface : Surface α σ) : Nat → Session α × σ → Session α × σ → Prop
  | none (p : Session α × σ) : Runs surface 0 p p
  | tick {s : Session α} {state : σ} {q r : Session α × σ} {k : Nat} :
    s.closed = false → s.isConverged = false → s.tick surface state = (q, .ok true) →
    Runs surface k q r → Runs surface (k + 1) (s, state) r

/-- Why a run with the given number of ticks left stops here, if it does. -/
def stop? (s : Session α) (left : Nat) : Option StopReason :=
  if s.closed then some .closed
  else if s.isConverged then some .converged
  else if left = 0 then some .budgetSpent
  else none

/-- The reasons to stop exclude each other: an open session has not been closed, and a run that
spends its budget leaves an open session that is still moving. -/
theorem stop?_eq_some {s : Session α} {left : Nat} {reason : StopReason}
    (h : s.stop? left = some reason) :
    (reason = .closed ↔ s.closed = true) ∧
    (reason = .converged ↔ s.closed = false ∧ s.isConverged = true) ∧
    (reason = .budgetSpent ↔ s.closed = false ∧ s.isConverged = false ∧ left = 0) := by
  unfold stop? at h
  cases hc : s.closed <;> cases hm : s.isConverged <;> by_cases hl : left = 0 <;>
    simp_all <;> subst h <;> simp

/-- A run goes on as long as the session is open and in motion and ticks are left. -/
theorem stop?_eq_none_iff {s : Session α} {left : Nat} :
    s.stop? left = none ↔ s.closed = false ∧ s.isConverged = false ∧ left ≠ 0 := by
  unfold stop?
  cases s.closed <;> cases s.isConverged <;> simp

/-- A run stops before its next tick if there is a reason to. -/
theorem runFrom_of_stop? {surface : Surface α σ} {s : Session α} {state : σ} {done budget : Nat}
    {reason : StopReason} (h : s.stop? budget = some reason) :
    runFrom surface done budget s state = ((s, state), .ok (s.summary done reason)) := by
  unfold stop? at h
  unfold runFrom
  cases hc : s.closed with
  | true => simp_all
  | false =>
    cases hm : s.isConverged with
    | true => simp_all
    | false =>
      cases budget with
      | zero => simp_all
      | succ budget => simp [hc, hm] at h

/-- Without a reason to stop, a run makes a tick and goes on if the surface takes the frame. -/
theorem runFrom_succ {surface : Surface α σ} {s : Session α} {state : σ} {done budget : Nat}
    (hc : s.closed = false) (hm : s.isConverged = false) :
    runFrom surface done (budget + 1) s state =
      match s.tick surface state with
      | (q, .error fault) => (q, .error fault)
      | (q, .ok _) => runFrom surface (done + 1) budget q.1 q.2 := by
  rw [runFrom]
  simp only [hc, hm, Bool.false_eq_true, if_false]
  rcases s.tick surface state with ⟨q, _ | _⟩ <;> rfl

/-- A tick of an open session that the surface takes the frame of answers that a step was made. -/
theorem eq_true_of_tick_eq_ok {surface : Surface α σ} {s : Session α} {state : σ}
    {q : Session α × σ} {b : Bool} (hc : s.closed = false)
    (h : s.tick surface state = (q, .ok b)) : b = true := by
  obtain ⟨hc', -⟩ | ⟨-, _, _, -, ht⟩ | ⟨-, _, -, ht⟩ := tick_cases surface s state
  · rw [hc] at hc'; cases hc'
  · rw [h] at ht; cases ht
  · rw [h] at ht; cases ht; rfl

/-- All that a run can do: it makes a number of ticks in a row and stops for a reason, with a
summary, or it makes a number of ticks in a row and one more, whose frame is refused. -/
theorem runFrom_cases (surface : Surface α σ) (done budget : Nat) (s : Session α) (state : σ) :
    (∃ k q reason, k ≤ budget ∧ Runs surface k (s, state) q ∧
      q.1.stop? (budget - k) = some reason ∧
      runFrom surface done budget s state = (q, .ok (q.1.summary (done + k) reason))) ∨
    (∃ k q r fault, k < budget ∧ Runs surface k (s, state) q ∧
      q.1.closed = false ∧ q.1.isConverged = false ∧
      q.1.tick surface q.2 = (r, .error fault) ∧
      runFrom surface done budget s state = (r, .error fault)) := by
  induction budget generalizing done s state with
  | zero =>
    cases hs : s.stop? 0 with
    | some reason =>
      exact .inl ⟨0, (s, state), reason, Nat.le_refl 0, .none _, hs, runFrom_of_stop? hs⟩
    | none => exact absurd rfl (stop?_eq_none_iff.1 hs).2.2
  | succ budget ih =>
    cases hs : s.stop? (budget + 1) with
    | some reason =>
      exact .inl ⟨0, (s, state), reason, Nat.zero_le _, .none _, hs, runFrom_of_stop? hs⟩
    | none =>
      obtain ⟨hc, hm, -⟩ := stop?_eq_none_iff.1 hs
      rw [runFrom_succ hc hm]
      cases ht : s.tick surface state with
      | mk q answer =>
        cases answer with
        | error fault =>
          exact .inr ⟨0, (s, state), q, fault, Nat.succ_pos _, .none _, hc, hm, ht, rfl⟩
        | ok b =>
          cases eq_true_of_tick_eq_ok hc ht
          obtain ⟨k, r, reason, hk, hruns, hstop, he⟩ | ⟨k, r, t, fault, hk, hruns, hopen, he⟩ :=
            ih (done + 1) q.1 q.2
          · refine .inl ⟨k + 1, r, reason, Nat.succ_le_succ hk, .tick hc hm ht hruns, ?_, ?_⟩
            · rwa [Nat.add_sub_add_right]
            · rw [show done + 1 + k = done + (k + 1) by omega] at he
              exact he
          · refine .inr ⟨k + 1, r, t, fault, Nat.succ_lt_succ hk, .tick hc hm ht hruns, ?_⟩
            exact ⟨hopen, he⟩

/-! ## What surfaces keep -/

section State

variable {P : σ → Prop} {surface : Surface α σ}
  (hP : ∀ tick frame state, P state → P (surface.present tick frame state).1)

include hP

/-- What every frame keeps of a surface, a tick keeps. -/
theorem state_of_tick (s : Session α) {state : σ} (h : P state) :
    P (s.tick surface state).1.2 := by
  have hafter := hP (s.ticks + 1) s.advance.frame state h
  obtain ⟨-, ht⟩ | ⟨-, after, fault, hp, ht⟩ | ⟨-, after, hp, ht⟩ := tick_cases surface s state <;>
    rw [ht]
  · exact h
  · rwa [hp] at hafter
  · rwa [hp] at hafter

/-- What every frame keeps of a surface, the ticks of a run keep. -/
theorem Runs.state {k : Nat} {p q : Session α × σ} (hr : Runs surface k p q) (h : P p.2) :
    P q.2 := by
  induction hr with
  | none p => exact h
  | @tick s state q r k _ _ ht _ ih =>
    have hq := state_of_tick hP s h
    rw [ht] at hq
    exact ih hq

/-- What a surface keeps of its state whether it takes a frame or refuses it, it keeps in a run. -/
theorem state_of_run (s : Session α) (budget : Nat) {state : σ} (h : P state) :
    P (s.run surface budget state).1.2 := by
  obtain ⟨k, q, reason, -, hr, -, he⟩ | ⟨k, q, r, fault, -, hr, -, -, ht, he⟩ :=
    runFrom_cases surface 0 budget s state <;> rw [Session.run, he]
  · exact hr.state hP h
  · have hq := state_of_tick hP q.1 (hr.state hP h)
    rwa [ht] at hq

end State

end Session

end NeighborGraph
