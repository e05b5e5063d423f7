import Mathlib.Data.List.Induction
import NeighborGraph.Proofs.Document.Requests
import NeighborGraph.Proofs.Scene.Pointer
import NeighborGraph.Proofs.Session.Operation

/-!
# Holding nodes

Whatever is done to a session that was started on a built graph, the pointer and the graph agree on
what is held (`Session.invariant_consistent`). A node is held since the last press that answered it,
and is where that press found it until the pointer moves; from then on it is at the last point of
the pointer, off by the way that lay between the two at the press (`Session.holds_after`). All of
this is put together in `Session.pointer_agrees`.
-/

namespace NeighborGraph

namespace Session

variable {α σ : Type} [Scalar α]

/-- The operation lets go of a held node, and may take hold of another one. -/
def Operation.isGrip : Operation α → Bool
  | press _ | release => true
  | tick .. | run .. | moveTo _ | close => false

/-- The point that the operation moves the pointer to. -/
def Operation.target? : Operation α → Option (Point α)
  | moveTo point => some point
  | tick .. | run .. | press _ | release | close => none

/-! ## Agreement -/

/-- The pointer and the graph go on agreeing on what is held. -/
theorem invariant_consistent : Invariant fun s : Session α => s.scene.Consistent where
  advance _ h := h.step _
  close h := h
  press point h := h.after_press point
  moveTo point h := h.after_moveTo point
  release h := h.after_release

/-- A session begins with nothing held and nothing pinned. -/
theorem consistent_of_start {config : Config α} {spareSeed : UInt64} {graph : Graph α}
    {s : Session α} (hg : graph.Built) (h : start config spareSeed graph = .ok s) :
    s.scene.Consistent ∧ s.scene.grab? = none := by
  obtain ⟨-, simulation, hscatter, rfl⟩ := start_eq_ok h
  obtain ⟨-, -, hw⟩ := Simulation.scatter_eq_ok hscatter
  have hids := Graph.ids_eq_of_shape_eq (hw.shape_eq Simulation.keepsName_placedAt)
  have hfree : ∀ node ∈ simulation.graph.nodes, node.pinned = false := by
    intro node' hn'
    obtain ⟨node, hn, position, rfl⟩ := hw.mem hn'
    exact hg.pinned_eq node hn
  refine ⟨⟨?_, nofun, fun node hn => ?_, fun node hn hp => ?_⟩, rfl⟩
  · exact hids ▸ hg.wellFormed.nodup_ids
  · rw [hfree node hn]
    exact ⟨nofun, nofun⟩
  · rw [hfree node hn] at hp
    cases hp

/-! ## Holding a node -/

/-- Time does not move a held node. -/
theorem steady_holds (grab : Grab α) (x : Point α) :
    Steady fun s : Session α => s.scene.Holds grab x where
  advance _ h := h.step _
  close h := h

/-- A held node is where it was taken until the pointer moves, and afterwards it is at the last
point of the pointer and the offset. -/
theorem holds_after {s : Session α} {grab : Grab α} {x : Point α} (h : s.scene.Holds grab x)
    {during : List (Operation α)} (hd : ∀ op ∈ during, op.isGrip = false) :
    (s.after during).scene.Holds grab
      (((during.filterMap Operation.target?).getLast?).elim x (· + grab.offset)) := by
  induction during using List.reverseRecOn with
  | nil => exact h
  | append_singleton during op ih =>
    have hlast := ih fun op' hop' => hd op' (List.mem_append_left _ hop')
    have hop := hd op (List.mem_append_right _ (List.mem_singleton_self op))
    rw [after_append, List.filterMap_append]
    cases op with
    | tick surface state =>
      have hnext := (steady_holds grab _).tick hlast surface state
      simpa [Operation.target?, Operation.perform] using hnext
    | run surface budget state =>
      have hnext := (steady_holds grab _).run hlast surface budget state
      simpa [Operation.target?, Operation.perform] using hnext
    | moveTo point =>
      have hnext := hlast.moveTo point
      simpa [Operation.target?, Operation.perform, Session.moveTo] using hnext
    | close => simpa [Operation.target?, Operation.perform, Session.close] using hlast
    | press point => cases hop
    | release => cases hop

/-- What the pointer holds is not changed by operations that neither press nor release it. -/
theorem Operation.held?_perform {op : Operation α} (hop : op.isGrip = false) {s : Session α}
    (h : s.scene.Consistent) : (op.perform s).scene.held? = s.scene.held? := by
  have hsteady : Steady fun t : Session α => t.scene.held? = s.scene.held? :=
    ⟨fun _ ht => ht, fun ht => ht⟩
  cases op with
  | tick surface state => exact hsteady.tick rfl surface state
  | run surface budget state => exact hsteady.run rfl surface budget state
  | moveTo point =>
    obtain ⟨simulation, he, -⟩ := h.moveTo point
    change (s.scene.moveTo point).1.held? = _
    rw [he]
    rfl
  | close => rfl
  | press point => cases hop
  | release => cases hop

/-- A press holds the node that it answers, and no other. -/
theorem held?_press {s : Session α} (h : s.scene.Consistent) (point : Point α) :
    (s.press point).2 = .ok (s.press point).1.scene.held? := by
  obtain ⟨simulation, grab?, he, -⟩ := h.press point
  change (s.scene.press point).2 = .ok (s.scene.press point).1.held?
  rw [he]
  rfl

/-- A node is held exactly if a press answered it and the pointer was neither pressed nor released
since. -/
theorem held?_after_eq_some_iff {s : Session α} (h : s.scene.Consistent)
    (hfree : s.scene.grab? = none) (ops : List (Operation α)) (id : NodeId) :
    (s.after ops).scene.held? = some id ↔ ∃ before point during,
      ops = before ++ .press point :: during ∧ (∀ op ∈ during, op.isGrip = false) ∧
      ((s.after before).press point).2 = .ok (some id) := by
  constructor
  · intro hheld
    -- From the end of the history: its last operation is the press that began the hold, or the hold
    -- goes back to a press before it.
    induction ops using List.reverseRecOn with
    | nil =>
      rw [after_nil, Scene.held?, hfree] at hheld
      cases hheld
    | append_singleton ops op ih =>
      have hc := invariant_consistent.after h ops
      rw [after_append, after_cons, after_nil] at hheld
      by_cases hop : op.isGrip = false
      · rw [Operation.held?_perform hop hc] at hheld
        obtain ⟨before, point, during, rfl, hd, hp⟩ := ih hheld
        refine ⟨before, point, during ++ [op], by simp, fun op' hop' => ?_, hp⟩
        rcases List.mem_append.1 hop' with hop' | hop'
        · exact hd op' hop'
        · exact List.mem_singleton.1 hop' ▸ hop
      · cases op with
        | press point =>
          refine ⟨ops, point, [], rfl, List.forall_mem_nil _, ?_⟩
          rw [held?_press hc point]
          exact congrArg _ hheld
        | release =>
          obtain ⟨simulation, he, -⟩ := hc.release
          change (s.after ops).scene.release.1.held? = _ at hheld
          rw [he] at hheld
          cases hheld
        | tick | run | moveTo | close => exact absurd rfl hop
  · rintro ⟨before, point, during, rfl, hd, hp⟩
    have hc := invariant_consistent.after h before
    rw [after_append, after_cons]
    induction during using List.reverseRecOn with
    | nil =>
      rw [held?_press hc point] at hp
      exact Except.ok.inj hp
    | append_singleton during op ih =>
      have hkeep := ih fun op' hop' => hd op' (List.mem_append_left _ hop')
      have hc' := invariant_consistent.after (invariant_consistent.perform hc (.press point)) during
      have hop := hd op (List.mem_append_right _ (List.mem_singleton_self op))
      rw [after_append, after_cons, after_nil, Operation.held?_perform hop hc']
      exact hkeep

/-! ## All histories -/

/-- Over every history of a session that was started on a built graph, with any points: no pointer
operation fails; the pinned nodes are the held one, which is at rest; it has been held since the
last press, and is where that press found it, or where the pointer is plus the way that lay between
the two then. A press moves nothing and stops the node that it answers, moving the pointer moves the
held node, and releasing it only gives the node back. -/
theorem pointer_agrees {config : Config α} {spareSeed : UInt64} {graph : Graph α} {s₀ : Session α}
    (hg : graph.Built) (h : start config spareSeed graph = .ok s₀) (ops : List (Operation α)) :
    let s := s₀.after ops
    let g := s.scene.simulation.graph
    ((∀ point, ∃ id?, (s.press point).2 = .ok id?) ∧
      (∀ point, ∃ moved, (s.moveTo point).2 = .ok moved) ∧ ∃ id?, s.release.2 = .ok id?) ∧
    (∀ id, (∃ node ∈ g.nodes, node.id = id ∧ node.pinned = true) ↔ s.scene.held? = some id) ∧
    (∀ node ∈ g.nodes, s.scene.held? = some node.id → node.velocity = .origin) ∧
    (∀ id, s.scene.held? = some id ↔ ∃ before point during,
      ops = before ++ .press point :: during ∧ (∀ op ∈ during, op.isGrip = false) ∧
      ((s₀.after before).press point).2 = .ok (some id)) ∧
    (∀ before point during, ops = before ++ .press point :: during →
      (∀ op ∈ during, op.isGrip = false) →
      ∀ node₀ ∈ (s₀.after before).scene.simulation.graph.nodes,
        ((s₀.after before).press point).2 = .ok (some node₀.id) →
      ∀ node ∈ g.nodes, node.id = node₀.id →
        node.position = ((during.filterMap Operation.target?).getLast?).elim node₀.position
          fun last => last + (node₀.position - point)) ∧
    (∀ point, g.Nodewise
      (fun node node' => node'.id = node.id ∧ node'.position = node.position ∧
        ((s.press point).2 = .ok (some node.id) ∨ node'.velocity = node.velocity))
      (s.press point).1.scene.simulation.graph) ∧
    (∀ point, g.Nodewise
      (fun node node' => node'.id = node.id ∧ node'.velocity = node.velocity ∧
        (s.scene.held? = some node.id ∨ node'.position = node.position))
      (s.moveTo point).1.scene.simulation.graph) ∧
    g.Nodewise
      (fun node node' => node'.id = node.id ∧ node'.position = node.position ∧
        node'.velocity = node.velocity)
      s.release.1.scene.simulation.graph := by
  intro s g
  obtain ⟨hs₀, hfree⟩ := consistent_of_start hg h
  have hs : s.scene.Consistent := invariant_consistent.after hs₀ ops
  refine ⟨⟨fun point => ?_, fun point => ?_, ?_⟩, fun id => ⟨?_, fun hheld => ?_⟩,
    fun node hn hheld => ?_, fun id => held?_after_eq_some_iff hs₀ hfree ops id, ?_,
    hs.nodewise_press, hs.nodewise_moveTo, hs.nodewise_release⟩
  · exact ⟨_, held?_press hs point⟩
  · obtain ⟨simulation, he, -⟩ := hs.moveTo point
    exact ⟨_, congrArg (·.2) he⟩
  · obtain ⟨simulation, he, -⟩ := hs.release
    exact ⟨_, congrArg (·.2) he⟩
  · rintro ⟨node, hn, rfl, hp⟩
    exact (hs.pinned_iff node hn).1 hp
  · obtain ⟨node, hf⟩ := Graph.exists_find?_of_mem_ids (hs.mem_of_held id hheld)
    obtain ⟨hn, rfl⟩ := Graph.mem_of_find? hf
    exact ⟨node, hn, rfl, (hs.pinned_iff node hn).2 hheld⟩
  · exact hs.atRest node hn ((hs.pinned_iff node hn).2 hheld)
  · rintro before point during rfl hd node₀ hn₀ hp node hn hid
    have hbefore := invariant_consistent.after hs₀ before
    have htaken : ((s₀.after before).press point).1.scene.Holds _ _ :=
      hbefore.holds_press hp hn₀ rfl
    have hlast := holds_after htaken hd
    refine hlast.position_eq node ?_ hid
    change node ∈ (s₀.after (before ++ .press point :: during)).scene.simulation.graph.nodes at hn
    rwa [after_append, after_cons] at hn

/-- A node of a loaded graph that is pressed and dragged beyond all bounds, with a step in between,
keeps its way to the pointer and is the pinned one. -/
theorem pointer_agrees_singleNode :
    let text := "\x7b\"nodes\": [\x7b\"name\": \"A\", \"id\": \"a\"\x7d]\x7d"
    let graph : Graph Float := ⟨#[⟨⟨"a"⟩, "A", .origin, .origin, false⟩], #[]⟩
    let point : Point Float := ⟨700, 380⟩
    let last : Point Float := ⟨1 / 0, 0⟩
    let during : List (Operation Float) := [.tick Recording.surface .blank, .moveTo last]
    Graph.read text = .ok graph ∧ ∃ s₀, start .default 0 graph = .ok s₀ ∧
      (s₀.after (.press point :: during)).scene.held? = some ⟨"a"⟩ ∧
      ∀ node₀ ∈ s₀.scene.simulation.graph.nodes,
        ∀ node ∈ (s₀.after (.press point :: during)).scene.simulation.graph.nodes,
          node.id = node₀.id →
            node.pinned = true ∧ node.position = last + (node₀.position - point) := by
  intro text graph point last during
  have hload : Graph.read text = .ok graph := Except.toOption_eq_some.1 (by decide +kernel)
  have hg : graph.Built := Graph.built_of_read hload
  have hids : ((start .default 0 graph).map fun s₀ => s₀.scene.simulation.graph.ids).toOption =
      some [⟨"a"⟩] := by decide +kernel
  have hpress : ((start .default 0 graph).map fun s₀ => (s₀.press point).2).toOption =
      some (.ok (some ⟨"a"⟩)) := by decide +kernel
  obtain ⟨s₀, h⟩ : ∃ s₀, start .default 0 graph = .ok s₀ := ⟨_, rfl⟩
  rw [h] at hids hpress
  have hp : (s₀.press point).2 = .ok (some ⟨"a"⟩) := Option.some.inj hpress
  obtain ⟨-, hpinned, -, hheld, hposition, -⟩ := pointer_agrees hg h (.press point :: during)
  have hd : ∀ op ∈ during, op.isGrip = false := by simp [during, Operation.isGrip]
  have ha := (hheld ⟨"a"⟩).2 ⟨[], point, during, rfl, hd, hp⟩
  refine ⟨hload, s₀, h, ha, fun node₀ hn₀ node hn hid => ?_⟩
  have hmem : node₀.id ∈ s₀.scene.simulation.graph.ids :=
    List.mem_map.2 ⟨node₀, Array.mem_toList_iff.2 hn₀, rfl⟩
  have hid₀ : node₀.id = ⟨"a"⟩ := by
    rw [show s₀.scene.simulation.graph.ids = [⟨"a"⟩] from Option.some.inj hids] at hmem
    exact List.mem_singleton.1 hmem
  refine ⟨?_, hposition [] point during rfl hd node₀ hn₀ (by rw [hid₀]; exact hp) node hn hid⟩
  obtain ⟨node', hn', hid', hp'⟩ := (hpinned ⟨"a"⟩).2 ha
  have hs₀ := (consistent_of_start hg h).1
  have hs := invariant_consistent.after hs₀ (.press point :: during)
  rwa [Graph.eq_of_id_eq hs.nodup_ids hn hn' (by rw [hid, hid₀, hid'])]

end Session

end NeighborGraph
