import NeighborGraph.Proofs.Session.Counting
import NeighborGraph.Proofs.Session.Holding

/-!
# What is known about the motion

A simulation knows how its nodes moved in the last step, unless a hand has been on a node since. An
operation that touches this is an event (`Session.Operation.event?`): a tick that is made lets the
motion be known, also if the frame is refused, and to take hold of a node, to move it or to let it
go makes the motion unknown (`Session.Operation.changes_perform`). So what is known after a history
is a matter of its last event (`Session.isSome_motion?_after`). While the motion is unknown nothing
passes for being at rest, and an open session goes on ticking (`Session.lt_ticks_of_run`).
-/

namespace NeighborGraph

variable {α σ : Type}

/-! ## Hands on nodes -/

/-- An override makes the motion unknown. -/
theorem Simulation.motion?_of_override {sim sim' : Simulation α} {id : NodeId}
    {change : Node α → Except PositionFault (Node α)} (h : sim.override id change = .ok sim') :
    sim'.motion? = none := by
  obtain ⟨_, _, _, -, -, rfl⟩ := override_eq_ok h
  rfl

variable [Scalar α]

namespace Scene.Consistent

variable {scene : Scene α}

/-- Letting go makes the motion unknown if there is anything to let go. -/
theorem motion?_release (h : scene.Consistent) :
    scene.release.1.simulation.motion? =
      if scene.held?.isSome then none else scene.simulation.motion? := by
  obtain ⟨hg, he⟩ | ⟨grab, simulation, hg, hu, he⟩ := h.release_cases <;> rw [he, held?, hg]
  · rfl
  · exact Simulation.motion?_of_override hu

/-- Pressing makes the motion unknown if it lets go of a node or takes hold of one. -/
theorem motion?_press (h : scene.Consistent) (point : Point α) :
    (scene.press point).1.simulation.motion? =
      if scene.held?.isSome ∨ (scene.press point).1.held?.isSome then none
      else scene.simulation.motion? := by
  have hfreed := h.motion?_release
  obtain ⟨simulation, hrelease, -⟩ := h.release
  obtain ⟨free, hfree, hpress⟩ := h.press_cases point
  obtain ⟨rfl, -⟩ := Prod.mk.inj (hfree.symm.trans hrelease)
  rw [hrelease] at hfreed
  obtain ⟨-, he⟩ | ⟨id, taken, -, ht, he⟩ := hpress <;> rw [he]
  · simpa [held?] using hfreed
  · obtain ⟨_, _, -, hpin, rfl⟩ := take_eq_ok.1 ht
    simpa [held?] using Simulation.motion?_of_override hpin

/-- Moving the pointer makes the motion unknown if a node goes along. -/
theorem motion?_moveTo (h : scene.Consistent) (point : Point α) :
    (scene.moveTo point).1.simulation.motion? =
      if scene.held?.isSome then none else scene.simulation.motion? := by
  obtain ⟨hg, he⟩ | ⟨grab, simulation, hg, hm, he⟩ := h.moveTo_cases point <;> rw [he, held?, hg]
  · rfl
  · exact Simulation.motion?_of_override hm

end Scene.Consistent

namespace Session

/-! ## Events -/

/-- What bears on the knowledge of the motion. -/
inductive Event where
  /-- A tick was made, whether or not its frame was taken. -/
  | ticked
  /-- A hand was on a node: it was taken hold of, moved or let go. -/
  | handled
  deriving DecidableEq

/-- The event that an operation on a session is, if it is one. -/
def Operation.event? (op : Operation α) (s : Session α) : Option Event :=
  match op with
  | tick .. | run .. => if s.ticks < (op.perform s).ticks then some .ticked else none
  | press _ =>
    if s.scene.held?.isSome ∨ (op.perform s).scene.held?.isSome then some .handled else none
  | moveTo _ | release => if s.scene.held?.isSome then some .handled else none
  | close => none

/-- The events in a list of operations, in order. -/
def events (s : Session α) : List (Operation α) → List Event
  | [] => []
  | op :: ops => (op.event? s).toList ++ (op.perform s).events ops

/-- What happens in a history comes before what happens in a later one. -/
theorem events_append (s : Session α) (ops later : List (Operation α)) :
    s.events (ops ++ later) = s.events ops ++ (s.after ops).events later := by
  induction ops generalizing s with
  | nil => rfl
  | cons op ops ih => rw [List.cons_append, events, events, ih, List.append_assoc, after_cons]

/-- How what is known of the motion changes with an event, or without one. -/
def Event.Changes (before after : Option (Motion α)) : Option Event → Prop
  | some .ticked => after.isSome = true
  | some .handled => after = none
  | none => after = before

omit [Scalar α] in
/-- Handling a node makes the motion unknown, and doing nothing leaves what is known of it. -/
theorem Event.changes_handled (before : Option (Motion α)) (p : Prop) [Decidable p] :
    Changes before (if p then none else before) (if p then some .handled else none) := by
  split <;> rfl

/-! ## Ticks -/

/-- Ticks are made one by one, and the motion is known from the first one on. -/
theorem steady_known (s : Session α) : Steady fun t : Session α => s.ticks ≤ t.ticks ∧
    Event.Changes s.scene.simulation.motion? t.scene.simulation.motion?
      (if s.ticks < t.ticks then some .ticked else none) where
  advance := by
    rintro t - ⟨hle, -⟩
    have hlt : s.ticks < t.advance.ticks := Nat.lt_succ_of_le hle
    refine ⟨Nat.le_of_lt hlt, ?_⟩
    rw [if_pos hlt]
    rfl
  close h := h

/-- A run of an open session that is not at rest makes a tick if it may. -/
theorem lt_ticks_of_run {s : Session α} (hopen : s.closed = false) (hmoving : s.isConverged = false)
    (surface : Surface α σ) {budget : Nat} (hbudget : 1 ≤ budget) (state : σ) :
    s.ticks < (s.run surface budget state).1.1.ticks := by
  rcases h : s.run surface budget state with ⟨q, fault | summary⟩
  · obtain ⟨_, _, hrefused⟩ := refused_of_run h
    have hticks := hrefused.ticks_eq
    dsimp only
    omega
  · have hdone := completed_of_run h
    have hticks := hdone.ticks_eq.trans hdone.totalTicks
    have hpositive : summary.ticks ≠ 0 := by
      intro hzero
      -- A run without a tick leaves the session as it was, which gives no reason to stop.
      have hruns := hdone.runs
      rw [hzero] at hruns
      cases hruns
      cases hreason : summary.reason with
      | closed => exact absurd (hdone.closed_iff.1 hreason) (by simp [hopen])
      | converged => exact absurd (hdone.converged_iff.1 hreason).2 (by simp [hmoving])
      | budgetSpent =>
        have hspent := (hdone.budgetSpent_iff.1 hreason).2.2
        omega
    dsimp only
    omega

/-! ## Histories -/

/-- A tick that is made lets the motion be known, a hand on a node makes it unknown, and what is no
event leaves it as it is. -/
theorem Operation.changes_perform {s : Session α} (h : s.scene.Consistent) (op : Operation α) :
    Event.Changes s.scene.simulation.motion? (op.perform s).scene.simulation.motion?
      (op.event? s) := by
  have hnone : s.ticks ≤ s.ticks ∧
      Event.Changes s.scene.simulation.motion? s.scene.simulation.motion?
        (if s.ticks < s.ticks then some .ticked else none) := by
    rw [if_neg (Nat.lt_irrefl _)]
    exact ⟨Nat.le_refl _, rfl⟩
  cases op with
  | tick surface state => exact ((steady_known s).tick hnone surface state).2
  | run surface budget state => exact ((steady_known s).run hnone surface budget state).2
  | press point =>
    have hmotion := Event.changes_handled s.scene.simulation.motion?
      (s.scene.held?.isSome ∨ (s.scene.press point).1.held?.isSome)
    rwa [← h.motion?_press point] at hmotion
  | moveTo point =>
    have hmotion := Event.changes_handled s.scene.simulation.motion? s.scene.held?.isSome
    rwa [← h.motion?_moveTo point] at hmotion
  | release =>
    have hmotion := Event.changes_handled s.scene.simulation.motion? s.scene.held?.isSome
    rwa [← h.motion?_release] at hmotion
  | close => rfl

/-- If the motion is unknown in the beginning, it is known exactly if the last event was a tick. -/
theorem isSome_motion?_after {s : Session α} (h : s.scene.Consistent)
    (hs : s.scene.simulation.motion? = none) (ops : List (Operation α)) :
    (s.after ops).scene.simulation.motion?.isSome = true ↔
      (s.events ops).getLast? = some .ticked := by
  induction ops using List.reverseRecOn with
  | nil => simp [hs, events]
  | append_singleton ops op ih =>
    have hop := op.changes_perform (invariant_consistent.after h ops)
    rw [after_append, after_cons, after_nil, events_append, events, events, List.append_nil]
    cases hevent : op.event? (s.after ops) with
    | none =>
      rw [hevent] at hop
      rw [show (op.perform (s.after ops)).scene.simulation.motion? = _ from hop]
      simpa using ih
    | some event =>
      rw [hevent] at hop
      cases event with
      | ticked =>
        rw [Option.toList_some, List.getLast?_concat]
        exact ⟨fun _ => rfl, fun _ => hop⟩
      | handled =>
        rw [show (op.perform (s.after ops)).scene.simulation.motion? = none from hop]
        simp

/-- Nothing is known of the motion of a session that has just been started. -/
theorem motion?_of_start {config : Config α} {spareSeed : UInt64} {graph : Graph α} {s : Session α}
    (h : start config spareSeed graph = .ok s) : s.scene.simulation.motion? = none := by
  obtain ⟨-, simulation, hscatter, rfl⟩ := start_eq_ok h
  exact (Simulation.nodes_of_scatter_eq_ok hscatter).2.1

/-- No operation changes what distance counts as rest. -/
theorem invariant_epsilon (epsilon : α) : Invariant fun s : Session α => s.epsilon = epsilon where
  advance _ h := h
  close h := h
  press _ h := h
  moveTo _ h := h
  release h := h

/-- The displacement of the last step is known exactly if the last event in the history of a session
was a tick, refused ones included: not since the session has been started, and not since a node was
taken hold of, moved or let go. While it is unknown the session does not count as being at rest, by
any measure, and a run of it makes a tick if the session is open and the budget allows for one. An
operation that is no event leaves what is known, and whether the session is at rest, as it was: a
press that misses and a move or a release while nothing is held, closing, and ticks and runs that
make no tick. -/
theorem motion_known_iff {config : Config α} {spareSeed : UInt64} {graph : Graph α} {s₀ : Session α}
    (hg : graph.Built) (h : start config spareSeed graph = .ok s₀) (ops : List (Operation α)) :
    let s := s₀.after ops
    (s.scene.simulation.displacement?.isSome = true ↔
      (s₀.events ops).getLast? = some .ticked) ∧
    ((s₀.events ops).getLast? ≠ some .ticked →
      (∀ epsilon, s.scene.simulation.isConverged epsilon = false) ∧ s.isConverged = false ∧
      (s.closed = false → ∀ {σ : Type} (surface : Surface α σ) (budget : Nat) (state : σ),
        1 ≤ budget → s.ticks < (s.run surface budget state).1.1.ticks)) ∧
    ∀ op : Operation α, op.event? s = none →
      (op.perform s).scene.simulation.displacement? = s.scene.simulation.displacement? ∧
      (∀ epsilon, (op.perform s).scene.simulation.isConverged epsilon =
        s.scene.simulation.isConverged epsilon) ∧
      (op.perform s).isConverged = s.isConverged := by
  intro s
  have hs₀ := (consistent_of_start hg h).1
  have hknown : s.scene.simulation.motion?.isSome = true ↔ _ :=
    isSome_motion?_after hs₀ (motion?_of_start h) ops
  refine ⟨?_, fun hlast => ?_, fun op hop => ?_⟩
  · rw [← hknown, Simulation.displacement?, Option.isSome_map]
  · have hmotion : s.scene.simulation.motion? = none := by
      rwa [Ne, ← hknown, Option.not_isSome_iff_eq_none] at hlast
    have hmoving : ∀ epsilon, s.scene.simulation.isConverged epsilon = false := by
      intro epsilon
      rw [Simulation.isConverged, hmotion]
    exact ⟨hmoving, hmoving _, fun hopen _ surface budget state hbudget =>
      lt_ticks_of_run hopen (hmoving _) surface hbudget state⟩
  · have hmotion := op.changes_perform (invariant_consistent.after hs₀ ops)
    rw [show op.event? (s₀.after ops) = none from hop] at hmotion
    have hsame : (op.perform s).scene.simulation.motion? = s.scene.simulation.motion? := hmotion
    have hepsilon : (op.perform s).epsilon = s.epsilon :=
      (invariant_epsilon s.epsilon).perform rfl op
    have hconverged : ∀ epsilon, (op.perform s).scene.simulation.isConverged epsilon =
        s.scene.simulation.isConverged epsilon := by
      intro epsilon
      rw [Simulation.isConverged, hsame, Simulation.isConverged]
    refine ⟨?_, hconverged, ?_⟩
    · rw [Simulation.displacement?, hsame, Simulation.displacement?]
    · rw [isConverged, hepsilon]
      exact hconverged _

/-- One node: a refused tick lets the motion be known, and a press that misses and a move leave it
so; a press that hits makes it unknown, and the next run makes a tick. -/
theorem motion_known_iff_singleNode :
    let graph : Graph Float := Graph.build [.node ⟨"a"⟩ "A"]
    let refusing : Surface Float Unit :=
      ⟨fun _ _ state => (state, .error (.render "gone")), fun _ => false⟩
    let ops : List (Operation Float) :=
      [.tick refusing (), .press ⟨0, 0⟩, .moveTo ⟨700, 380⟩]
    let hit : Operation Float := .press ⟨700, 380⟩
    ∃ s₀, start .default 0 graph = .ok s₀ ∧ s₀.events (ops ++ [hit]) = [.ticked, .handled] ∧
      (s₀.after ops).scene.simulation.displacement?.isSome = true ∧
      (s₀.after (ops ++ [hit])).isConverged = false ∧
      (s₀.after (ops ++ [hit])).ticks <
        ((s₀.after (ops ++ [hit])).run refusing 1 ()).1.1.ticks := by
  intro graph refusing ops hit
  have hg : graph.Built := ⟨_, rfl⟩
  have hseen : ((start .default 0 graph).map fun s₀ =>
      (s₀.events ops, s₀.events (ops ++ [hit]), (s₀.after (ops ++ [hit])).closed)).toOption =
      some ([.ticked], [.ticked, .handled], false) := by
    decide +kernel
  cases h : start .default 0 graph with
  | error fault =>
    rw [h] at hseen
    cases hseen
  | ok s₀ =>
    rw [h] at hseen
    obtain ⟨hbefore, hseen⟩ := Prod.mk.inj (Option.some.inj hseen)
    obtain ⟨hall, hopen⟩ := Prod.mk.inj hseen
    obtain ⟨hknown, -, -⟩ := motion_known_iff hg h ops
    obtain ⟨-, hunknown, -⟩ := motion_known_iff hg h (ops ++ [hit])
    obtain ⟨-, hmoving, hruns⟩ := hunknown (by rw [hall]; nofun)
    exact ⟨s₀, rfl, hall, hknown.2 (by rw [hbefore]; rfl), hmoving,
      hruns hopen refusing 1 () (Nat.le_refl 1)⟩

end Session

end NeighborGraph
