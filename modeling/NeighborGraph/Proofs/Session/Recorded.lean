import NeighborGraph.Proofs.Session.Counting

/-!
# Recorders beside a surface

A recorder that is paired with a surface changes nothing for the surface: the session runs as it
does on the surface alone (`Session.run_beside_recorder`). What the recorder remembers can be told
from the frames that the surface is given alone (`Recording.after`): a recorder that comes first has
been given all of them (`Surface.view_recorderFirst`), and one that comes second all but those that
the surface has refused (`Surface.view_recorderSecond`). The last frame of a run is that of the
session as the run leaves it (`Session.shown_of_run`).
-/

namespace NeighborGraph

variable {α σ : Type}

/-! ## What a recorder remembers -/

namespace Recording

/-- The recording after some more frames. -/
def after (r : Recording α) (given : List (Surface.Presentation α)) : Recording α :=
  given.foldl (fun r g => (surface.present g.tick g.frame r).1) r

@[simp] theorem after_nil (r : Recording α) : r.after [] = r := rfl

@[simp] theorem after_cons (r : Recording α) (g : Surface.Presentation α)
    (given : List (Surface.Presentation α)) :
    r.after (g :: given) =
      (⟨some (g.tick, g.frame), r.presented + 1⟩ : Recording α).after given := rfl

/-- The last frame is remembered. -/
@[simp] theorem after_concat (r : Recording α) (given : List (Surface.Presentation α))
    (g : Surface.Presentation α) :
    r.after (given ++ [g]) = ⟨some (g.tick, g.frame), (r.after given).presented + 1⟩ := by
  simp [after, surface]

/-- Every frame is counted. -/
theorem presented_after (r : Recording α) (given : List (Surface.Presentation α)) :
    (r.after given).presented = r.presented + given.length := by
  induction given generalizing r with
  | nil => rfl
  | cons g given ih =>
    rw [after_cons, ih, List.length_cons]
    dsimp only
    omega

end Recording

/-! ## Pairs -/

namespace Surface

/-- The surface has taken the frame. -/
def Presentation.isTaken (g : Presentation α) : Bool := g.answer.isOk

@[simp] theorem isTaken_ok (tick : Nat) (frame : Frame α) :
    (⟨tick, frame, .ok ()⟩ : Presentation α).isTaken = true := rfl

@[simp] theorem isTaken_error (tick : Nat) (frame : Frame α) (fault : ExportFault) :
    (⟨tick, frame, .error fault⟩ : Presentation α).isTaken = false := rfl

/-- Of frames that have all been taken, none is left out. -/
theorem filter_isTaken {given : List (Presentation α)} (h : ∀ g ∈ given, g.answer = .ok ()) :
    given.filter (·.isTaken) = given := by
  refine List.filter_eq_self.2 fun g hg => ?_
  rw [Presentation.isTaken, h g hg]
  rfl

/-- In front of a surface, a recorder is given the frames that the surface is given. -/
theorem view_recorderFirst (surface : Surface α σ) (r : Recording α) :
    View surface.observed (pair Recording.surface surface)
      fun state => (r.after state.2, state.1) where
  present tick frame state := by
    simp [pair, observed, Recording.surface]
  isClosed state := Bool.false_or _

/-- Behind a surface, a recorder is given the frames that the surface takes. -/
theorem view_recorderSecond (surface : Surface α σ) (r : Recording α) :
    View surface.observed (pair surface Recording.surface)
      fun state => (state.1, r.after (state.2.filter (·.isTaken))) where
  present tick frame state := by
    rcases hp : surface.present tick frame state.1 with ⟨after, fault | u⟩
    · simp [pair, observed, hp]
    · cases u
      simp [pair, observed, hp, Recording.surface, List.filter_cons]
  isClosed state := Bool.or_false _

end Surface

namespace Session

variable [Scalar α] {surface : Surface α σ} {s : Session α}

/-! ## The last frame -/

/-- The frame of a tick is that of the session as the tick leaves it. -/
theorem last_record_of_tick {state : σ × List (Surface.Presentation α)}
    {q : Session α × σ × List (Surface.Presentation α)}
    (h : s.tick surface.observed state = (q, .ok true)) :
    q.2.2 = state.2 ++ [⟨q.1.ticks, q.1.frame, .ok ()⟩] := by
  obtain ⟨-, ht⟩ | ⟨-, _, _, -, ht⟩ | ⟨-, after, hp, ht⟩ := tick_cases surface.observed s state <;>
    rw [ht] at h <;> cases h
  rw [Surface.record_of_present hp]
  -- Closing a session does not change what it shows.
  split <;> rfl

/-- After ticks in a row the last frame is that of the session as they leave it. -/
theorem Runs.last_record {k : Nat} {p q : Session α × σ × List (Surface.Presentation α)}
    (h : Runs surface.observed k p q) (hk : k ≠ 0) :
    ∃ given, q.2.2 = given ++ [⟨q.1.ticks, q.1.frame, .ok ()⟩] := by
  induction h with
  | none p => exact absurd rfl hk
  | @tick s state q r k _ _ ht hr ih =>
    cases k with
    | zero =>
      cases hr
      exact ⟨state.2, last_record_of_tick ht⟩
    | succ k => exact ih k.succ_ne_zero

/-- If a run that is not refused gives its surface any frames, the last one is that of the session
as the run leaves it. -/
theorem last_shown_of_run {budget : Nat} {state : σ} {q : Session α × σ} {summary : RunSummary α}
    (h : s.run surface budget state = (q, .ok summary))
    (hne : (Operation.run surface budget state).shown s ≠ []) :
    ∃ before, (Operation.run surface budget state).shown s =
      before ++ [⟨q.1.ticks, q.1.frame, .ok ()⟩] := by
  rw [show s.run surface budget state = _ from
    (Surface.view_observed surface).run budget s (state, [])] at h
  rw [Operation.shown] at hne ⊢
  obtain ⟨k, q', reason, -, hr, -, he⟩ | ⟨_, _, _, _, -, -, -, -, -, he⟩ :=
    runFrom_cases surface.observed 0 budget s (state, []) <;> rw [Session.run, he] at h hne ⊢ <;>
    cases h
  refine hr.last_record ?_
  rintro rfl
  cases hr
  exact hne rfl

/-- The frame that has ended a run that leaves the session so, if a fault has. -/
def refused (s : Session α) : Except ExportFault (RunSummary α) → List (Surface.Presentation α)
  | .ok _ => []
  | .error fault => [⟨s.ticks, s.frame, .error fault⟩]

/-- The frames that a run gives to its surface: as many as it makes ticks, the last one that of the
session as the run leaves it. The surface takes all of them but the one that has ended the run. -/
theorem shown_of_run {budget : Nat} {state : σ} {q : Session α × σ}
    {result : Except ExportFault (RunSummary α)} (h : s.run surface budget state = (q, result)) :
    let shown := (Operation.run surface budget state).shown s
    q.1.ticks = s.ticks + shown.length ∧ shown = shown.filter (·.isTaken) ++ q.1.refused result ∧
      (shown ≠ [] → ∃ before answer, shown = before ++ [⟨q.1.ticks, q.1.frame, answer⟩]) := by
  intro shown
  cases result with
  | ok summary =>
    have hdone := completed_of_run h
    refine ⟨?_, ?_, fun hne => ?_⟩
    · rw [hdone.ticks_eq, hdone.totalTicks, hdone.length_shown]
    · rw [Surface.filter_isTaken hdone.answers, refused, List.append_nil]
    · obtain ⟨before, hbefore⟩ := last_shown_of_run h hne
      exact ⟨before, _, hbefore⟩
  | error fault =>
    obtain ⟨r, taken, hrefused⟩ := refused_of_run h
    have hshown : shown = taken ++ q.1.refused (.error fault) := hrefused.shown_eq
    refine ⟨?_, ?_, fun _ => ⟨taken, _, hshown⟩⟩
    · rw [hrefused.ticks_eq, hshown, List.length_append]
      rfl
    · rw [hshown, List.filter_append, Surface.filter_isTaken hrefused.answers]
      simp [refused]

/-! ## Runs beside a recorder -/

/-- A recorder that is given the frames of a run has counted the ticks of the run, and remembers the
tick and the frame that the session is left with if the run has made any. -/
theorem recorded_of_run {budget : Nat} {state : σ} {q : Session α × σ}
    {result : Except ExportFault (RunSummary α)} (h : s.run surface budget state = (q, result))
    (r : Recording α) :
    s.ticks + (r.after ((Operation.run surface budget state).shown s)).presented =
        r.presented + q.1.ticks ∧
      (r.after ((Operation.run surface budget state).shown s)).last? =
        if s.ticks < q.1.ticks then some (q.1.ticks, q.1.frame) else r.last? := by
  obtain ⟨hticks, -, hlast⟩ := shown_of_run h
  constructor
  · rw [Recording.presented_after]
    omega
  · by_cases hnil : (Operation.run surface budget state).shown s = []
    · have hsame : q.1.ticks = s.ticks := by simpa [hnil] using hticks
      rw [hnil, hsame, if_neg (Nat.lt_irrefl _), Recording.after_nil]
    · obtain ⟨before, answer, hbefore⟩ := hlast hnil
      have hmore : s.ticks < q.1.ticks := by
        rw [hticks]
        exact Nat.lt_add_of_pos_right (List.length_pos_iff.2 hnil)
      rw [if_pos hmore, hbefore, Recording.after_concat]

/-- A surface that is paired with a recorder has the session run, fail and end as it does alone, and
ends in the same state. A recorder in front of the surface has counted as many frames as the session
has made ticks in the run, a refused one included, and if there were any, it remembers the tick and
the frame that the session is left with. A recorder behind the surface has been given the same
frames but for the one that the surface has refused, if there is one. -/
theorem run_beside_recorder (surface : Surface α σ) (budget : Nat) (s : Session α) (state : σ)
    (r : Recording α) :
    let q := (s.run surface budget state).1
    let result := (s.run surface budget state).2
    let shown := (Operation.run surface budget state).shown s
    let taken := shown.filter (·.isTaken)
    s.run (.pair Recording.surface surface) budget (r, state) =
      ((q.1, r.after shown, q.2), result) ∧
    s.ticks + (r.after shown).presented = r.presented + q.1.ticks ∧
    (r.after shown).last? =
      (if s.ticks < q.1.ticks then some (q.1.ticks, q.1.frame) else r.last?) ∧
    s.run (.pair surface Recording.surface) budget (state, r) =
      ((q.1, q.2, r.after taken), result) ∧
    shown = taken ++ q.1.refused result := by
  intro q result shown taken
  have hfirst := (Surface.view_recorderFirst surface r).run budget s (state, [])
  have hsecond := (Surface.view_recorderSecond surface r).run budget s (state, [])
  have halone := (Surface.view_observed surface).run budget s (state, [])
  have hq : q = _ := congrArg Prod.fst halone
  have hresult : result = _ := congrArg Prod.snd halone
  have hrun : s.run surface budget state = (q, result) := rfl
  obtain ⟨hcount, hlast⟩ := recorded_of_run hrun r
  refine ⟨hfirst.trans ?_, hcount, hlast, hsecond.trans ?_, (shown_of_run hrun).2.1⟩
  · rw [hq, hresult]
    rfl
  · rw [hq, hresult]
    rfl

end Session

end NeighborGraph
