import NeighborGraph.Proofs.Scene.Pointer
import NeighborGraph.Proofs.Session.Operation

/-!
# Counting ticks

The session counts its ticks, the simulation counts its steps and surfaces are told the number of
each frame. The three agree whatever is done to a session and whatever the surfaces answer
(`Session.counters_agree`): a refused frame has been counted on all sides, and a closed session
counts no more. What a run says about itself is said by `Session.Completed` and `Session.Refused`.
-/

namespace NeighborGraph

namespace Session

variable {α σ : Type} [Scalar α]

/-! ## Closed sessions -/

/-- A closed session does not tick. -/
theorem tick_of_closed {s : Session α} (hc : s.closed = true) (surface : Surface α σ) (state : σ) :
    s.tick surface state = ((s, state), .ok false) := by
  obtain ⟨-, ht⟩ | ⟨hc', -⟩ | ⟨hc', -⟩ := tick_cases surface s state
  · exact ht
  · rw [hc] at hc'; cases hc'
  · rw [hc] at hc'; cases hc'

/-- A run of a closed session ends before its first tick. -/
theorem run_of_closed {s : Session α} (hc : s.closed = true) (surface : Surface α σ) (budget : Nat)
    (state : σ) : s.run surface budget state = ((s, state), .ok (s.summary 0 .closed)) :=
  runFrom_of_stop? (if_pos hc)

/-- A closed session stays closed and makes no more ticks. -/
theorem invariant_closed (n : Nat) :
    Invariant fun s : Session α => s.closed = true ∧ s.ticks = n where
  advance hc h := by rw [hc] at h; exact absurd h.1 Bool.false_ne_true
  close h := ⟨rfl, h.2⟩
  press _ h := h
  moveTo _ h := h
  release h := h

/-- A closed session gives no frame to any surface. -/
theorem shown_of_closed {s : Session α} (hc : s.closed = true) (later : List (Operation α)) :
    s.shown later = [] := by
  induction later generalizing s with
  | nil => rfl
  | cons op later ih =>
    have hop : op.shown s = [] := by
      cases op with
      | tick surface state => rw [Operation.shown, tick_of_closed hc]
      | run surface budget state => rw [Operation.shown, run_of_closed hc]
      | press _ | moveTo _ | release | close => rfl
    rw [shown, hop, List.nil_append]
    exact ih ((invariant_closed s.ticks).perform ⟨hc, rfl⟩ op).1

/-! ## Steps and frames -/

/-- The ticks of a session are the steps of its simulation. -/
theorem invariant_steps : Invariant fun s : Session α => s.scene.simulation.steps = s.ticks where
  advance _ h := congrArg (· + 1) h
  close h := h
  press point h := (Simulation.stable_steps _).press point h
  moveTo point h := (Simulation.stable_steps _).moveTo point h
  release h := (Simulation.stable_steps _).release h

/-- A frame that is refused has been counted. -/
theorem record_of_refused {surface : Surface α σ} {s : Session α} {fault : ExportFault}
    {state : σ × List (Surface.Presentation α)} {q : Session α × σ × List (Surface.Presentation α)}
    (h : s.tick surface.observed state = (q, .error fault)) :
    q.1 = s.advance ∧ s.closed = false ∧
      q.2.2 = state.2 ++ [⟨q.1.ticks, q.1.frame, .error fault⟩] := by
  obtain ⟨-, ht⟩ | ⟨hc, after, _, hp, ht⟩ | ⟨-, _, -, ht⟩ :=
    tick_cases surface.observed s state <;> rw [ht] at h <;> cases h
  exact ⟨rfl, hc, Surface.record_of_present hp⟩

/-- The frames that an operation gives to its surface are those of the ticks that it makes. -/
theorem Operation.numbers_shown (op : Operation α) (s : Session α) :
    ∃ n, (op.perform s).ticks = s.ticks + n ∧
      (op.shown s).map (·.tick) = List.range' (s.ticks + 1) n := by
  cases op with
  | tick surface state =>
    rw [perform_tick, shown]
    obtain ⟨-, ht⟩ | ⟨-, after, fault, hp, ht⟩ | ⟨-, after, hp, ht⟩ :=
      tick_cases surface.observed s (state, []) <;> rw [ht]
    · exact ⟨0, rfl, rfl⟩
    · exact ⟨1, rfl, by rw [Surface.record_of_present hp]; rfl⟩
    · exact ⟨1, by dsimp only; split <;> rfl, by rw [Surface.record_of_present hp]; rfl⟩
  | run surface budget state =>
    rw [perform_run, shown, Session.run]
    obtain ⟨k, q, _, -, hr, -, he⟩ | ⟨k, q, r, fault, -, hr, -, -, ht, he⟩ :=
      runFrom_cases surface.observed 0 budget s (state, []) <;> rw [he]
    · obtain ⟨hk, given, hlog, hnumbers, -⟩ := hr.record
      exact ⟨k, hk, by rw [hlog]; exact hnumbers⟩
    · -- The refused frame comes on top of those that were taken.
      obtain ⟨hk, given, hlog, hnumbers, -⟩ := hr.record
      obtain ⟨hadvance, -, hrefused⟩ := record_of_refused ht
      have hticks : r.1.ticks = s.ticks + (k + 1) := by
        rw [hadvance, show q.1.advance.ticks = q.1.ticks + 1 from rfl, hk]
        rfl
      refine ⟨k + 1, hticks, ?_⟩
      rw [hrefused, hlog, hticks, List.nil_append, List.map_append, hnumbers, List.range'_concat]
      simp [Nat.add_comm, Nat.add_left_comm]
  | press _ | moveTo _ | release | close => exact ⟨0, rfl, rfl⟩

/-- The frames that surfaces are given are those of consecutive ticks. -/
theorem numbers_shown (s : Session α) (ops : List (Operation α)) :
    ∃ n, (s.after ops).ticks = s.ticks + n ∧
      (s.shown ops).map (·.tick) = List.range' (s.ticks + 1) n := by
  induction ops generalizing s with
  | nil => exact ⟨0, rfl, rfl⟩
  | cons op ops ih =>
    obtain ⟨n, hn, hop⟩ := op.numbers_shown s
    obtain ⟨m, hm, hops⟩ := ih (op.perform s)
    refine ⟨n + m, by rw [after_cons, hm, hn, Nat.add_assoc], ?_⟩
    rw [shown, List.map_append, hop, hops, hn, Nat.add_right_comm, List.range'_append_1]

/-! ## Runs -/

/-- What a run has done that began in `s` and ended in `q` with a summary: it made as many ticks in
a row as the summary says, within its budget, the surface took all of their frames, and the reason
tells how the session was left. -/
structure Completed (surface : Surface α σ) (budget : Nat) (s : Session α) (state : σ)
    (q : Session α × σ) (summary : RunSummary α) (shown : List (Surface.Presentation α)) :
    Prop where
  runs : Runs surface summary.ticks (s, state) q
  length_shown : shown.length = summary.ticks
  answers : ∀ g ∈ shown, g.answer = .ok ()
  ticks_le : summary.ticks ≤ budget
  totalTicks : summary.totalTicks = s.ticks + summary.ticks
  ticks_eq : q.1.ticks = summary.totalTicks
  closed_iff : summary.reason = .closed ↔ q.1.closed = true
  converged_iff : summary.reason = .converged ↔ q.1.closed = false ∧ q.1.isConverged = true
  budgetSpent_iff : summary.reason = .budgetSpent ↔
    q.1.closed = false ∧ q.1.isConverged = false ∧ summary.ticks = budget

/-- What a run has done that began in `s` and ended in `q` with a fault: it made ticks in a row up
to `r`, whose frames the surface took, and the step of one more tick, whose frame the surface
refused with this fault. -/
structure Refused (surface : Surface α σ) (budget : Nat) (s : Session α) (state : σ)
    (r q : Session α × σ) (fault : ExportFault) (taken shown : List (Surface.Presentation α)) :
    Prop where
  runs : Runs surface taken.length (s, state) r
  length_lt : taken.length < budget
  answers : ∀ g ∈ taken, g.answer = .ok ()
  shown_eq : shown = taken ++ [⟨q.1.ticks, q.1.frame, .error fault⟩]
  closed_eq : r.1.closed = false
  isConverged_eq : r.1.isConverged = false
  advance_eq : q.1 = r.1.advance
  left_open : q.1.closed = false
  ticks_eq : q.1.ticks = s.ticks + taken.length + 1

/-- A run that succeeds completes, with what it has shown. -/
theorem completed_of_run {surface : Surface α σ} {budget : Nat} {s : Session α} {state : σ}
    {q : Session α × σ} {summary : RunSummary α}
    (h : s.run surface budget state = (q, .ok summary)) :
    Completed surface budget s state q summary ((Operation.run surface budget state).shown s) := by
  have hv := Surface.view_observed surface
  rw [show s.run surface budget state = _ from hv.run budget s (state, [])] at h
  obtain ⟨k, q', reason, hk, hr, hstop, he⟩ | ⟨k, _, _, _, -, -, -, -, -, he⟩ :=
    runFrom_cases surface.observed 0 budget s (state, [])
  · rw [Session.run, he] at h
    cases h
    obtain ⟨hticks, given, hlog, hnumbers, hok⟩ := hr.record
    have hshown : (Operation.run surface budget state).shown s = given := by
      rw [Operation.shown, Session.run, he]
      exact hlog
    obtain ⟨hclosed, hconverged, hspent⟩ := stop?_eq_some hstop
    have hsum : (q'.1.summary (0 + k) reason).ticks = k := Nat.zero_add k
    refine ⟨?_, ?_, hshown ▸ hok, ?_, ?_, rfl, hclosed, hconverged, ?_⟩
    · rw [hsum]
      exact hv.runs hr
    · rw [hsum, hshown, ← List.length_map (fun g => g.tick), hnumbers, List.length_range']
    · rwa [hsum]
    · rw [hsum]
      exact hticks
    · rw [hsum, show k = budget ↔ budget - k = 0 by omega]
      exact hspent
  · rw [Session.run, he] at h
    cases h

/-- A run that fails has been refused a frame, with what it has shown. -/
theorem refused_of_run {surface : Surface α σ} {budget : Nat} {s : Session α} {state : σ}
    {q : Session α × σ} {fault : ExportFault} (h : s.run surface budget state = (q, .error fault)) :
    ∃ r taken, Refused surface budget s state r q fault taken
      ((Operation.run surface budget state).shown s) := by
  have hv := Surface.view_observed surface
  rw [show s.run surface budget state = _ from hv.run budget s (state, [])] at h
  obtain ⟨k, _, _, -, -, -, he⟩ | ⟨k, r, q', _, hk, hr, hopen, hmoving, ht, he⟩ :=
    runFrom_cases surface.observed 0 budget s (state, [])
  · rw [Session.run, he] at h
    cases h
  · rw [Session.run, he] at h
    cases h
    obtain ⟨hticks, taken, hlog, hnumbers, hok⟩ := hr.record
    obtain ⟨hadvance, -, hrefused⟩ := record_of_refused ht
    have hlength : taken.length = k := by
      rw [← List.length_map (fun g => g.tick), hnumbers, List.length_range']
    refine ⟨(r.1, r.2.1), taken, ?_, hlength ▸ hk, hok, ?_, hopen, hmoving, hadvance, ?_, ?_⟩
    · rw [hlength]
      exact hv.runs hr
    · rw [Operation.shown, Session.run, he]
      exact hrefused.trans (by rw [hlog]; rfl)
    · rw [hadvance]
      exact hopen
    · rw [hadvance, hlength]
      exact congrArg (· + 1) hticks

/-! ## All histories -/

/-- Over every history of a session, on any surfaces: the ticks are the steps of the simulation, and
the frames that surfaces are given carry the numbers of the ticks one by one, refused frames
included. A closed session stays closed, and neither steps nor shows anything. A run accounts for
its ticks, and ends either with the reason that holds then or with the fault of the first frame that
is refused, whose step has been made. -/
theorem counters_agree {config : Config α} {spareSeed : UInt64} {graph : Graph α} {s₀ : Session α}
    (h : start config spareSeed graph = .ok s₀) (ops : List (Operation α)) :
    let s := s₀.after ops
    s.scene.simulation.steps = s.ticks ∧
    (s₀.shown ops).map (·.tick) = List.range' 1 s.ticks ∧
    (s.closed = true →
      (∀ later, (s.after later).closed = true ∧ (s.after later).ticks = s.ticks ∧
        (s.after later).scene.simulation.steps = s.scene.simulation.steps ∧
        s.shown later = []) ∧
      ∀ {σ : Type} (surface : Surface α σ) (state : σ),
        s.tick surface state = ((s, state), .ok false) ∧
        ∀ budget, s.run surface budget state = ((s, state), .ok (s.summary 0 .closed))) ∧
    ∀ {σ : Type} (surface : Surface α σ) (budget : Nat) (state : σ) (q : Session α × σ),
      (∀ summary, s.run surface budget state = (q, .ok summary) →
        Completed surface budget s state q summary
          ((Operation.run surface budget state).shown s)) ∧
      ∀ fault, s.run surface budget state = (q, .error fault) →
        ∃ r taken, Refused surface budget s state r q fault taken
          ((Operation.run surface budget state).shown s) := by
  intro s
  obtain ⟨-, simulation, hscatter, hs₀⟩ := start_eq_ok h
  have hzero : s₀.ticks = 0 := by rw [hs₀]
  have hstart : s₀.scene.simulation.steps = s₀.ticks := by
    rw [hs₀]
    exact (Simulation.scatter_eq_ok hscatter).2.1
  have hsteps : s.scene.simulation.steps = s.ticks := invariant_steps.after hstart ops
  refine ⟨hsteps, ?_, fun hc => ⟨fun later => ?_, fun surface state => ?_⟩,
    fun surface budget state q => ⟨fun _ => completed_of_run, fun _ => refused_of_run⟩⟩
  · obtain ⟨n, hn, hnumbers⟩ := s₀.numbers_shown ops
    rw [hnumbers, show s.ticks = s₀.ticks + n from hn, hzero, Nat.zero_add, Nat.zero_add]
  · obtain ⟨hc', hticks⟩ := (invariant_closed s.ticks).after ⟨hc, rfl⟩ later
    have hsteps' := invariant_steps.after hsteps later
    exact ⟨hc', hticks, by rw [hsteps', hticks, hsteps], shown_of_closed hc later⟩
  · exact ⟨tick_of_closed hc surface state, fun budget => run_of_closed hc surface budget state⟩

/-- One node, a run whose first frame is refused, a tick that is shown, and one that is not made any
more: the frames are those of the first tick and of the second. -/
theorem counters_agree_singleNode :
    let graph : Graph Float := ⟨#[⟨⟨"a"⟩, "A", .origin, .origin, false⟩], #[]⟩
    let refusing : Surface Float Unit :=
      ⟨fun _ _ state => (state, .error (.render "gone")), fun _ => false⟩
    let ops : List (Operation Float) :=
      [.run refusing 2 (), .tick Recording.surface .blank, .close, .tick refusing ()]
    ∃ s₀, start .default 0 graph = .ok s₀ ∧ (s₀.after ops).scene.simulation.steps = 2 ∧
      (s₀.shown ops).map (·.tick) = [1, 2] := by
  intro graph refusing ops
  have hticks : ((start .default 0 graph).map fun s₀ => (s₀.after ops).ticks).toOption =
      some 2 := by
    decide +kernel
  obtain ⟨s₀, h⟩ : ∃ s₀, start .default 0 graph = .ok s₀ := ⟨_, rfl⟩
  rw [h] at hticks
  have hcount : (s₀.after ops).ticks = 2 := Option.some.inj hticks
  obtain ⟨hsteps, hnumbers, -⟩ := counters_agree h ops
  exact ⟨s₀, h, hsteps.trans hcount, by rw [hnumbers, hcount]; rfl⟩

end Session

end NeighborGraph
