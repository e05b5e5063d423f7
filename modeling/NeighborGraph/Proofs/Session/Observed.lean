import NeighborGraph.Proofs.Session.Run

/-!
# Surfaces under observation

Two surfaces that answer alike in states that are related, and stay in such states
(`Surface.Bisimulation`), make a session tick and run alike (`Surface.Bisimulation.run`). So does a
surface that shows its states as those of another one (`Surface.View.run`). The surface that keeps a
record of the frames it is given (`Surface.observed`) shows its states as those of the surface that
it records, so that its record tells which frames the other one is given. In a run these are the
frames of consecutive ticks (`Session.Runs.record`).
-/

namespace NeighborGraph

variable {α σ τ : Type}

namespace Surface

/-- In states that are related, two surfaces take frames and answer alike, and come to states that
are related again. -/
structure Bisimulation (first : Surface α τ) (second : Surface α σ) (R : τ → σ → Prop) : Prop where
  present : ∀ tick frame {state state'}, R state state' →
    R (first.present tick frame state).1 (second.present tick frame state').1 ∧
      (first.present tick frame state).2 = (second.present tick frame state').2
  isClosed : ∀ {state state'}, R state state' → first.isClosed state = second.isClosed state'

/-- `view` shows the states of a surface as states of another one, which takes frames and answers as
the first one does. -/
structure View (fine : Surface α τ) (coarse : Surface α σ) (view : τ → σ) : Prop where
  present : ∀ tick frame state, coarse.present tick frame (view state) =
    (view (fine.present tick frame state).1, (fine.present tick frame state).2)
  isClosed : ∀ state, coarse.isClosed (view state) = fine.isClosed state

/-- A surface and a view of it are alike. -/
theorem View.bisimulation {fine : Surface α τ} {coarse : Surface α σ} {view : τ → σ}
    (hv : View fine coarse view) :
    Bisimulation fine coarse fun state state' => state' = view state where
  present tick frame state state' h := by
    cases h
    rw [hv.present]
    exact ⟨rfl, rfl⟩
  isClosed h := by
    cases h
    exact (hv.isClosed _).symm

/-- A frame that a surface has been given, with the number of its tick and what the surface
answered. -/
structure Presentation (α : Type) where
  tick : Nat
  frame : Frame α
  answer : Except ExportFault Unit

/-- The surface together with a record of all frames that it has been given, in order. -/
def observed (surface : Surface α σ) : Surface α (σ × List (Presentation α)) where
  present tick frame state :=
    let (after, answer) := surface.present tick frame state.1
    ((after, state.2 ++ [⟨tick, frame, answer⟩]), answer)
  isClosed state := surface.isClosed state.1

/-- Without its record, an observed surface is the surface. -/
theorem view_observed (surface : Surface α σ) : View surface.observed surface Prod.fst where
  present _ _ _ := rfl
  isClosed _ := rfl

/-- The record grows by the frame that is given. -/
theorem record_of_present {surface : Surface α σ} {tick : Nat} {frame : Frame α}
    {state after : σ × List (Presentation α)} {answer : Except ExportFault Unit}
    (h : surface.observed.present tick frame state = (after, answer)) :
    after.2 = state.2 ++ [⟨tick, frame, answer⟩] := by
  cases h
  rfl

end Surface

variable [Scalar α] {fine : Surface α τ} {coarse : Surface α σ} {view : τ → σ}

/-! ## Alike surfaces -/

section

variable {first : Surface α τ} {second : Surface α σ} {R : τ → σ → Prop}
  (hb : Surface.Bisimulation first second R)

include hb

/-- On surfaces that behave alike, a tick does the same, and leaves them behaving alike. -/
theorem Surface.Bisimulation.tick (s : Session α) {state : τ} {state' : σ} (h : R state state') :
    (s.tick first state).1.1 = (s.tick second state').1.1 ∧
      R (s.tick first state).1.2 (s.tick second state').1.2 ∧
      (s.tick first state).2 = (s.tick second state').2 := by
  cases hc : s.closed with
  | true =>
    rw [Session.tick, Session.tick, hc]
    exact ⟨rfl, h, rfl⟩
  | false =>
    rw [Session.tick, Session.tick, hc, if_neg Bool.false_ne_true, if_neg Bool.false_ne_true]
    obtain ⟨hstates, hanswers⟩ := hb.present s.advance.ticks s.advance.frame h
    dsimp only
    generalize first.present s.advance.ticks s.advance.frame state = left,
      second.present s.advance.ticks s.advance.frame state' = right at hstates hanswers ⊢
    obtain ⟨after, answer⟩ := left
    obtain ⟨after', answer'⟩ := right
    cases hanswers
    cases answer with
    | error fault => exact ⟨rfl, hstates, rfl⟩
    | ok _ =>
      dsimp only at hstates ⊢
      rw [hb.isClosed hstates]
      exact ⟨rfl, hstates, rfl⟩

/-- So does a run from any tick on. -/
theorem Surface.Bisimulation.runFrom (done budget : Nat) (s : Session α) {state : τ} {state' : σ}
    (h : R state state') :
    (Session.runFrom first done budget s state).1.1 =
        (Session.runFrom second done budget s state').1.1 ∧
      R (Session.runFrom first done budget s state).1.2
        (Session.runFrom second done budget s state').1.2 ∧
      (Session.runFrom first done budget s state).2 =
        (Session.runFrom second done budget s state').2 := by
  induction budget generalizing done s state state' with
  | zero =>
    cases hs : s.stop? 0 with
    | some reason =>
      rw [Session.runFrom_of_stop? hs, Session.runFrom_of_stop? hs]
      exact ⟨rfl, h, rfl⟩
    | none => exact absurd rfl (Session.stop?_eq_none_iff.1 hs).2.2
  | succ budget ih =>
    cases hs : s.stop? (budget + 1) with
    | some reason =>
      rw [Session.runFrom_of_stop? hs, Session.runFrom_of_stop? hs]
      exact ⟨rfl, h, rfl⟩
    | none =>
      obtain ⟨hc, hm, -⟩ := Session.stop?_eq_none_iff.1 hs
      rw [Session.runFrom_succ hc hm, Session.runFrom_succ hc hm]
      obtain ⟨hsession, hstates, hanswers⟩ := hb.tick s h
      generalize s.tick first state = left, s.tick second state' = right
        at hsession hstates hanswers ⊢
      obtain ⟨⟨after, middle⟩, answer⟩ := left
      obtain ⟨⟨after', middle'⟩, answer'⟩ := right
      cases hsession
      cases hanswers
      cases answer with
      | error fault => exact ⟨rfl, hstates, rfl⟩
      | ok _ => exact ih (done + 1) after hstates

/-- A run goes alike on surfaces that are alike. -/
theorem Surface.Bisimulation.run (budget : Nat) (s : Session α) {state : τ} {state' : σ}
    (h : R state state') :
    (s.run first budget state).1.1 = (s.run second budget state').1.1 ∧
      R (s.run first budget state).1.2 (s.run second budget state').1.2 ∧
      (s.run first budget state).2 = (s.run second budget state').2 :=
  hb.runFrom 0 budget s h

end

/-! ## Views -/

/-- A tick on a surface is a tick on any view of it. -/
theorem Surface.View.tick (hv : Surface.View fine coarse view) (s : Session α) (state : τ) :
    s.tick coarse (view state) =
      (((s.tick fine state).1.1, view (s.tick fine state).1.2), (s.tick fine state).2) := by
  obtain ⟨hsession, hstate, hanswer⟩ := hv.bisimulation.tick s (rfl : view state = view state)
  exact Prod.ext (Prod.ext hsession.symm hstate) hanswer.symm

/-- A run on a surface is a run on any view of it. -/
theorem Surface.View.run (hv : Surface.View fine coarse view) (budget : Nat) (s : Session α)
    (state : τ) :
    s.run coarse budget (view state) =
      (((s.run fine budget state).1.1, view (s.run fine budget state).1.2),
        (s.run fine budget state).2) := by
  obtain ⟨hsession, hstate, hanswer⟩ :=
    hv.bisimulation.run budget s (rfl : view state = view state)
  exact Prod.ext (Prod.ext hsession.symm hstate) hanswer.symm

/-- Ticks in a row on a surface are ticks in a row on any view of it. -/
theorem Surface.View.runs (hv : Surface.View fine coarse view) {k : Nat} {p q : Session α × τ}
    (h : Session.Runs fine k p q) :
    Session.Runs coarse k (p.1, view p.2) (q.1, view q.2) := by
  induction h with
  | none p => exact .none _
  | @tick s state q r k hc hm ht _ ih =>
    refine .tick hc hm ?_ ih
    rw [hv.tick, ht]

/-! ## Records -/

/-- The number of ticks after a tick that a surface took the frame of. -/
theorem Session.ticks_of_tick_eq_ok {surface : Surface α σ} {s : Session α} {state : σ}
    {q : Session α × σ} (h : s.tick surface state = (q, .ok true)) : q.1.ticks = s.ticks + 1 := by
  obtain ⟨-, ht⟩ | ⟨-, _, _, -, ht⟩ | ⟨-, after, -, ht⟩ := tick_cases surface s state <;>
    rw [ht] at h <;> cases h
  split <;> rfl

/-- Ticks in a row give the surface the frames of the ticks that follow one another, and the surface
takes them all. -/
theorem Session.Runs.record {surface : Surface α σ} {k : Nat}
    {p q : Session α × σ × List (Surface.Presentation α)} (h : Runs surface.observed k p q) :
    q.1.ticks = p.1.ticks + k ∧ ∃ given, q.2.2 = p.2.2 ++ given ∧
      given.map (·.tick) = List.range' (p.1.ticks + 1) k ∧ ∀ g ∈ given, g.answer = .ok () := by
  induction h with
  | none p => exact ⟨rfl, [], by simp, rfl, by simp⟩
  | @tick s state q r k hc _ ht _ ih =>
    have hticks := Session.ticks_of_tick_eq_ok ht
    obtain ⟨-, ht'⟩ | ⟨-, _, _, -, ht'⟩ | ⟨-, after, hp, ht'⟩ :=
      Session.tick_cases surface.observed s state <;> rw [ht'] at ht <;> cases ht
    obtain ⟨hk, given, hlog, hnumbers, hok⟩ := ih
    rw [hticks] at hk hnumbers
    have hall : r.1.ticks = s.ticks + (k + 1) := by omega
    refine ⟨hall, ⟨s.ticks + 1, s.advance.frame, .ok ()⟩ :: given, ?_, ?_, ?_⟩
    · rw [hlog, Surface.record_of_present hp]
      simp
    · rw [List.map_cons, hnumbers, List.range'_succ]
    · exact List.forall_mem_cons.2 ⟨rfl, hok⟩

end NeighborGraph
