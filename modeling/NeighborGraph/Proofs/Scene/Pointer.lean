import NeighborGraph.Scene
import NeighborGraph.Proofs.Layout.Changes

/-!
# What a pointer does to a scene

The hold of the pointer is known in two places: the scene remembers the node with its offset, and
the graph has the node pinned. `Scene.Consistent` says that the two agree. A step and all that a
pointer does keep the agreement, and under it nothing that the pointer does can fail:
`Scene.Consistent.release`, `Scene.Consistent.press` and `Scene.Consistent.moveTo` give the answer
and the change of every node.
-/

namespace NeighborGraph

variable {α : Type}

/-- The node as it goes along with a pointer at a point, if it is the one that the pointer holds. -/
def Scene.drag [Scalar α] (scene : Scene α) (point : Point α) (node : Node α) : Node α :=
  match scene.grab? with
  | some grab => if node.id = grab.node then { node with position := point + grab.offset } else node
  | none => node

/-! ## Overrides -/

/-- A property of simulations that the overrides keep: pinning, moving and unpinning a node. -/
structure Simulation.Stable [Scalar α] (Q : Simulation α → Prop) : Prop where
  pin : ∀ {sim sim' : Simulation α} {id}, sim.pin id = .ok sim' → Q sim → Q sim'
  move : ∀ {sim sim' : Simulation α} {id position}, sim.move id position = .ok sim' → Q sim → Q sim'
  unpin : ∀ {sim sim' : Simulation α} {id}, sim.unpin id = .ok sim' → Q sim → Q sim'

variable [Scalar α] {scene scene' : Scene α} {Q : Simulation α → Prop}

/-- Overrides make no steps. -/
theorem Simulation.stable_steps (n : Nat) : Stable fun sim : Simulation α => sim.steps = n where
  pin h hn := by obtain ⟨_, _, _, -, -, rfl⟩ := override_eq_ok h; exact hn
  move h hn := by obtain ⟨_, _, _, -, -, rfl⟩ := override_eq_ok h; exact hn
  unpin h hn := by obtain ⟨_, _, _, -, -, rfl⟩ := override_eq_ok h; exact hn

/-- Overrides keep the constants of the forces. -/
theorem Simulation.stable_forces (p : ForceParameters α) :
    Stable fun sim : Simulation α => sim.forces = p where
  pin h hp := by obtain ⟨_, _, _, -, -, rfl⟩ := override_eq_ok h; exact hp
  move h hp := by obtain ⟨_, _, _, -, -, rfl⟩ := override_eq_ok h; exact hp
  unpin h hp := by obtain ⟨_, _, _, -, -, rfl⟩ := override_eq_ok h; exact hp

/-- Overrides keep the shape of the graph. -/
theorem Simulation.stable_shape (S : List (NodeId × String) × Array (Link α)) :
    Stable fun sim : Simulation α => sim.graph.shape = S where
  pin h hS := by
    refine (shape_of_override_eq_ok (fun node changed hc => ?_) h).trans hS
    cases hc
    exact ⟨rfl, rfl⟩
  move h hS := by
    refine (shape_of_override_eq_ok (fun node changed hc => ?_) h).trans hS
    split at hc <;> cases hc
    exact ⟨rfl, rfl⟩
  unpin h hS := by
    refine (shape_of_override_eq_ok (fun node changed hc => ?_) h).trans hS
    cases hc
    exact ⟨rfl, rfl⟩

namespace Scene

/-- All that taking hold of a node does: the node is pinned, and the way to it is remembered. -/
theorem take_eq_ok {id : NodeId} {point : Point α} :
    scene.take id point = .ok scene' ↔ ∃ node simulation,
      scene.simulation.graph.find? id = some node ∧ scene.simulation.pin id = .ok simulation ∧
      scene' = { scene with simulation, grab? := some ⟨id, node.position - point⟩ } := by
  unfold take
  cases scene.simulation.graph.find? id with
  | none => exact ⟨nofun, fun ⟨_, _, h, _⟩ => nomatch h⟩
  | some node =>
    constructor
    · intro h
      obtain ⟨simulation, hpin, h⟩ := Except.bind_eq_ok.1 h
      exact ⟨node, simulation, rfl, hpin, (Except.ok.inj h).symm⟩
    · rintro ⟨_, simulation, ⟨rfl⟩, hpin, rfl⟩
      exact Except.bind_eq_ok.2 ⟨simulation, hpin, rfl⟩

end Scene

/-- Releasing the pointer keeps what every override keeps. -/
theorem Simulation.Stable.release (hQ : Stable Q) (h : Q scene.simulation) :
    Q scene.release.1.simulation := by
  unfold Scene.release
  cases scene.grab? with
  | none => exact h
  | some grab =>
    dsimp only
    cases hu : scene.simulation.unpin grab.node with
    | ok simulation => exact hQ.unpin hu h
    | error fault => exact h

/-- Pressing the pointer keeps what every override keeps. -/
theorem Simulation.Stable.press (hQ : Stable Q) (point : Point α) (h : Q scene.simulation) :
    Q (scene.press point).1.simulation := by
  have hr := hQ.release h
  unfold Scene.press
  generalize scene.release = released at hr ⊢
  obtain ⟨free, fault | answer⟩ := released
  · exact hr
  dsimp only
  cases free.hit? point with
  | none => exact hr
  | some id =>
    dsimp only
    cases ht : free.take id point with
    | ok held =>
      obtain ⟨_, _, -, hpin, rfl⟩ := Scene.take_eq_ok.1 ht
      exact hQ.pin hpin hr
    | error fault => exact hr

/-- Moving the pointer keeps what every override keeps. -/
theorem Simulation.Stable.moveTo (hQ : Stable Q) (point : Point α) (h : Q scene.simulation) :
    Q (scene.moveTo point).1.simulation := by
  unfold Scene.moveTo
  cases scene.grab? with
  | none => exact h
  | some grab =>
    dsimp only
    cases hm : scene.simulation.move grab.node (point + grab.offset) with
    | ok simulation => exact hQ.move hm h
    | error fault => exact h

namespace Scene

/-! ## Agreement -/

/-- The pointer holds a node of the graph if any, this node and no other is pinned, and it is at
rest. -/
structure Consistent (scene : Scene α) : Prop where
  nodup_ids : scene.simulation.graph.ids.Nodup
  mem_of_held : ∀ id, scene.held? = some id → id ∈ scene.simulation.graph.ids
  pinned_iff : ∀ node ∈ scene.simulation.graph.nodes,
    node.pinned = true ↔ scene.held? = some node.id
  atRest : ∀ node ∈ scene.simulation.graph.nodes, node.pinned = true → node.velocity = .origin

/-- A change of the nodes one by one keeps the agreement if it pins, and puts to rest, the node that
is held then and no other. -/
theorem Consistent.of_nodewise {R : Node α → Node α → Prop} (h : scene.Consistent)
    (hw : scene.simulation.graph.Nodewise R scene'.simulation.graph) (hname : Graph.KeepsName R)
    (hheld : ∀ id, scene'.held? = some id → id ∈ scene.simulation.graph.ids)
    (hnode : ∀ node ∈ scene.simulation.graph.nodes, ∀ node', R node node' →
      (node'.pinned = true ↔ scene'.held? = some node.id) ∧
      (node'.pinned = true → node'.velocity = .origin)) :
    scene'.Consistent := by
  have hids := Graph.ids_eq_of_shape_eq (hw.shape_eq hname)
  refine ⟨hids ▸ h.nodup_ids, fun id hid => hids ▸ hheld id hid, ?_, ?_⟩ <;> intro node' hn'
  · obtain ⟨node, hn, hR⟩ := hw.mem hn'
    rw [(hname node node' hR).1]
    exact (hnode node hn node' hR).1
  · obtain ⟨node, hn, hR⟩ := hw.mem hn'
    exact (hnode node hn node' hR).2

/-- A step keeps the agreement: it leaves pinned nodes where they are. -/
theorem Consistent.step (h : scene.Consistent) (timeStep : α) :
    (scene.step timeStep).Consistent := by
  refine h.of_nodewise (scene.simulation.nodewise_step timeStep) (Simulation.keepsName_advance _ _)
    h.mem_of_held ?_
  rintro node hn _ ⟨force, rfl⟩
  unfold Node.advance
  split
  · exact ⟨h.pinned_iff node hn, fun _ => rfl⟩
  · next hp => exact ⟨h.pinned_iff node hn, fun hp' => absurd hp' hp⟩

/-- Releasing cannot fail: it answers the held node, and afterwards no node is pinned. Nothing else
about a node changes. -/
theorem Consistent.release (h : scene.Consistent) :
    ∃ simulation, scene.release = ({ scene with simulation, grab? := none }, .ok scene.held?) ∧
      scene.simulation.graph.Nodewise (fun node node' => node' = { node with pinned := false })
        simulation.graph := by
  cases hg : scene.grab? with
  | none =>
    have hheld : scene.held? = none := by rw [held?, hg]; rfl
    refine ⟨scene.simulation, ?_, Graph.nodewise_refl fun node hn => ?_⟩
    · obtain ⟨simulation, style, grab?⟩ := scene
      cases hg
      rfl
    · have hp : node.pinned = false := by
        rw [← Bool.not_eq_true, h.pinned_iff node hn, hheld]
        nofun
      rw [← hp]
  | some grab =>
    have hheld : scene.held? = some grab.node := by rw [held?, hg]; rfl
    obtain ⟨node, hf⟩ := Graph.exists_find?_of_mem_ids (h.mem_of_held _ hheld)
    obtain ⟨simulation, hu, -, hw⟩ := Simulation.exists_unpin_eq_ok h.nodup_ids hf
    refine ⟨simulation, ?_, hw.imp fun node hn node' hn' => ?_⟩
    · simp only [Scene.release, hg, hu, hheld]
    · rw [hn']
      split
      · rfl
      · next hid =>
        have hp : node.pinned = false := by
          rw [← Bool.not_eq_true, h.pinned_iff node hn, hheld, Option.some.injEq]
          exact fun he => hid he.symm
        rw [← hp]

/-- The node under a pointer is in the graph. -/
theorem mem_of_hit? {id : NodeId} {point : Point α} (h : scene.hit? point = some id) :
    id ∈ scene.simulation.graph.ids := by
  obtain ⟨node, hf, rfl⟩ := Option.map_eq_some_iff.1 h
  exact List.mem_map.2 ⟨node, List.mem_reverse.1 (List.mem_of_find?_eq_some hf), rfl⟩

/-- Pressing cannot fail: it answers the node that it takes hold of, if any, which is put to rest
and is the only one that is pinned then. Nothing else about a node changes, and the offset is the
way from the pointer to the node. -/
theorem Consistent.press (h : scene.Consistent) (point : Point α) :
    ∃ simulation grab?, scene.press point =
        ({ scene with simulation, grab? }, .ok (grab?.map (·.node))) ∧
      scene.simulation.graph.Nodewise (fun node node' =>
        node' = if grab?.map (·.node) = some node.id
          then { node with pinned := true, velocity := .origin }
          else { node with pinned := false }) simulation.graph ∧
      ∀ grab, grab? = some grab → ∃ node ∈ scene.simulation.graph.nodes,
        node.id = grab.node ∧ grab.offset = node.position - point := by
  obtain ⟨free, hrel, hw⟩ := h.release
  cases hhit : hit? { scene with simulation := free, grab? := none } point with
  | none =>
    refine ⟨free, none, ?_, by simpa using hw, nofun⟩
    simp only [Scene.press, hrel, hhit, Option.map_none]
  | some id =>
    -- The node is looked up and pinned after the release, whose graph has the same names.
    have hname := hw.shape_eq (.of_eq fun _ => ⟨rfl, rfl⟩)
    have hnd : free.graph.ids.Nodup := Graph.ids_eq_of_shape_eq hname ▸ h.nodup_ids
    obtain ⟨node', hf⟩ := Graph.exists_find?_of_mem_ids (mem_of_hit? hhit)
    change free.graph.find? id = some node' at hf
    obtain ⟨simulation, hpin, -, hw'⟩ := Simulation.exists_pin_eq_ok hnd hf
    have htake : take { scene with simulation := free, grab? := none } id point = _ :=
      take_eq_ok.2 ⟨node', simulation, hf, hpin, rfl⟩
    refine ⟨simulation, some ⟨id, node'.position - point⟩, ?_, ?_, ?_⟩
    · simp only [Scene.press, hrel, hhit, htake, Option.map_some]
    · refine (hw.comp hw').imp fun node _ node'' => ?_
      rintro ⟨_, rfl, rfl⟩
      simp only [Option.map_some, Option.some.injEq, eq_comm (a := id)]
    · rintro _ ⟨rfl⟩
      obtain ⟨hn', rfl⟩ := Graph.mem_of_find? hf
      obtain ⟨node, hn, rfl⟩ := hw.mem hn'
      exact ⟨node, hn, rfl, rfl⟩

/-- Moving cannot fail: it answers whether a node is held, and the held node goes along. Nothing
else about a node changes. -/
theorem Consistent.moveTo (h : scene.Consistent) (point : Point α) :
    ∃ simulation, scene.moveTo point = ({ scene with simulation }, .ok scene.held?.isSome) ∧
      scene.simulation.graph.Nodewise (fun node node' => node' = scene.drag point node)
        simulation.graph := by
  cases hg : scene.grab? with
  | none =>
    refine ⟨scene.simulation, ?_, Graph.nodewise_refl fun node _ => by rw [drag, hg]⟩
    obtain ⟨simulation, style, grab?⟩ := scene
    cases hg
    rfl
  | some grab =>
    have hheld : scene.held? = some grab.node := by rw [held?, hg]; rfl
    obtain ⟨node, hf⟩ := Graph.exists_find?_of_mem_ids (h.mem_of_held _ hheld)
    obtain ⟨hn, hid⟩ := Graph.mem_of_find? hf
    have hp : node.pinned = true := (h.pinned_iff node hn).2 (hid ▸ hheld)
    obtain ⟨simulation, hm, -, hw⟩ :=
      Simulation.exists_move_eq_ok h.nodup_ids hf hp (point + grab.offset)
    refine ⟨simulation, ?_, hw.imp fun node _ node' hn' => by rw [drag, hg, hn']⟩
    simp only [Scene.moveTo, hg, hm, hheld, Option.isSome_some]

/-! ## The ways that pointer operations go -/

/-- The two ways that a release goes: nothing is held, or the held node is given back. -/
theorem Consistent.release_cases (h : scene.Consistent) :
    (scene.grab? = none ∧ scene.release = (scene, .ok none)) ∨
    ∃ grab simulation, scene.grab? = some grab ∧
      scene.simulation.unpin grab.node = .ok simulation ∧
      scene.release = ({ scene with simulation, grab? := none }, .ok (some grab.node)) := by
  obtain ⟨_, he, -⟩ := h.release
  have hanswer := congrArg (·.2) he
  unfold Scene.release at hanswer ⊢
  cases hg : scene.grab? with
  | none => exact .inl ⟨rfl, rfl⟩
  | some grab =>
    rw [hg] at hanswer
    dsimp only at hanswer ⊢
    cases hu : scene.simulation.unpin grab.node with
    | ok simulation => exact .inr ⟨grab, simulation, rfl, hu, rfl⟩
    | error fault =>
      rw [hu] at hanswer
      cases hanswer

/-- The two ways that a press goes, once a held node has been let go: it misses, or it takes hold of
the node that it hits. -/
theorem Consistent.press_cases (h : scene.Consistent) (point : Point α) :
    ∃ free, scene.release = (free, .ok scene.held?) ∧
      ((free.hit? point = none ∧ scene.press point = (free, .ok none)) ∨
      ∃ id taken, free.hit? point = some id ∧ free.take id point = .ok taken ∧
        scene.press point = (taken, .ok (some id))) := by
  obtain ⟨simulation, hrelease, -⟩ := h.release
  obtain ⟨_, _, he, -⟩ := h.press point
  have hanswer := congrArg (·.2) he
  refine ⟨_, hrelease, ?_⟩
  generalize { scene with simulation, grab? := none } = free at hrelease ⊢
  unfold Scene.press at hanswer ⊢
  rw [hrelease] at hanswer ⊢
  dsimp only at hanswer ⊢
  cases hhit : free.hit? point with
  | none => exact .inl ⟨rfl, rfl⟩
  | some id =>
    rw [hhit] at hanswer
    dsimp only at hanswer ⊢
    cases ht : free.take id point with
    | ok taken => exact .inr ⟨id, taken, rfl, ht, rfl⟩
    | error fault =>
      rw [ht] at hanswer
      cases hanswer

/-- The two ways that moving the pointer goes: nothing is held, or the held node goes along. -/
theorem Consistent.moveTo_cases (h : scene.Consistent) (point : Point α) :
    (scene.grab? = none ∧ scene.moveTo point = (scene, .ok false)) ∨
    ∃ grab simulation, scene.grab? = some grab ∧
      scene.simulation.move grab.node (point + grab.offset) = .ok simulation ∧
      scene.moveTo point = ({ scene with simulation }, .ok true) := by
  obtain ⟨_, he, -⟩ := h.moveTo point
  have hanswer := congrArg (·.2) he
  unfold Scene.moveTo at hanswer ⊢
  cases hg : scene.grab? with
  | none => exact .inl ⟨rfl, rfl⟩
  | some grab =>
    rw [hg] at hanswer
    dsimp only at hanswer ⊢
    cases hm : scene.simulation.move grab.node (point + grab.offset) with
    | ok simulation => exact .inr ⟨grab, simulation, rfl, hm, rfl⟩
    | error fault =>
      rw [hm] at hanswer
      cases hanswer

/-! ## Agreement after a change -/

/-- After a release, pointer and graph agree on what is held. -/
theorem Consistent.after_release (h : scene.Consistent) : scene.release.1.Consistent := by
  obtain ⟨simulation, he, hw⟩ := h.release
  rw [he]
  refine h.of_nodewise hw (.of_eq fun _ => ⟨rfl, rfl⟩) nofun ?_
  rintro node hn _ rfl
  exact ⟨⟨nofun, nofun⟩, nofun⟩

/-- After a press, hit or miss, pointer and graph agree on what is held. -/
theorem Consistent.after_press (h : scene.Consistent) (point : Point α) :
    (scene.press point).1.Consistent := by
  obtain ⟨simulation, grab?, he, hw, hgrab⟩ := h.press point
  rw [he]
  refine h.of_nodewise hw (.of_eq fun node => ?_) (fun id hid => ?_) ?_
  · split <;> exact ⟨rfl, rfl⟩
  · obtain ⟨grab, hg, rfl⟩ := Option.map_eq_some_iff.1 hid
    obtain ⟨node, hn, hid, -⟩ := hgrab grab hg
    exact List.mem_map.2 ⟨node, Array.mem_toList_iff.2 hn, hid⟩
  · rintro node hn _ rfl
    split
    · next hid => exact ⟨⟨fun _ => hid, fun _ => rfl⟩, fun _ => rfl⟩
    · next hid => exact ⟨⟨nofun, fun hid' => absurd hid' hid⟩, nofun⟩

/-- A node that is dragged changes its position and nothing else. -/
theorem keeps_drag (scene : Scene α) (point : Point α) (node : Node α) :
    (scene.drag point node).id = node.id ∧ (scene.drag point node).label = node.label ∧
      (scene.drag point node).velocity = node.velocity ∧
      (scene.drag point node).pinned = node.pinned := by
  unfold drag
  split
  · split <;> exact ⟨rfl, rfl, rfl, rfl⟩
  · exact ⟨rfl, rfl, rfl, rfl⟩

/-- After a move, pointer and graph agree on what is held. -/
theorem Consistent.after_moveTo (h : scene.Consistent) (point : Point α) :
    (scene.moveTo point).1.Consistent := by
  obtain ⟨simulation, he, hw⟩ := h.moveTo point
  rw [he]
  refine h.of_nodewise hw (.of_eq fun node => ?_) h.mem_of_held ?_
  · obtain ⟨hid, hlabel, -⟩ := scene.keeps_drag point node
    exact ⟨hid, hlabel⟩
  · rintro node hn _ rfl
    obtain ⟨-, -, hvelocity, hpinned⟩ := scene.keeps_drag point node
    rw [hvelocity, hpinned]
    exact ⟨h.pinned_iff _ hn, h.atRest _ hn⟩

/-! ## What the pointer leaves alone -/

/-- A press moves no node, and changes no velocity but that of the node that it answers. -/
theorem Consistent.nodewise_press (h : scene.Consistent) (point : Point α) :
    scene.simulation.graph.Nodewise
      (fun node node' => node'.id = node.id ∧ node'.position = node.position ∧
        ((scene.press point).2 = .ok (some node.id) ∨ node'.velocity = node.velocity))
      (scene.press point).1.simulation.graph := by
  obtain ⟨simulation, grab?, he, hw, -⟩ := h.press point
  rw [he]
  refine hw.imp ?_
  rintro node - _ rfl
  split
  · next hid => exact ⟨rfl, rfl, .inl (congrArg _ hid)⟩
  · exact ⟨rfl, rfl, .inr rfl⟩

/-- Moving the pointer changes no velocity, and moves no node but the held one. -/
theorem Consistent.nodewise_moveTo (h : scene.Consistent) (point : Point α) :
    scene.simulation.graph.Nodewise
      (fun node node' => node'.id = node.id ∧ node'.velocity = node.velocity ∧
        (scene.held? = some node.id ∨ node'.position = node.position))
      (scene.moveTo point).1.simulation.graph := by
  obtain ⟨simulation, he, hw⟩ := h.moveTo point
  rw [he]
  refine hw.imp ?_
  rintro node - _ rfl
  obtain ⟨hid, -, hvelocity, -⟩ := scene.keeps_drag point node
  refine ⟨hid, hvelocity, ?_⟩
  unfold drag
  split
  · next grab hg =>
    split
    · next hid => exact .inl (by rw [held?, hg, hid]; rfl)
    · exact .inr rfl
  · exact .inr rfl

/-- Releasing the pointer moves no node and changes no velocity. -/
theorem Consistent.nodewise_release (h : scene.Consistent) :
    scene.simulation.graph.Nodewise
      (fun node node' => node'.id = node.id ∧ node'.position = node.position ∧
        node'.velocity = node.velocity)
      scene.release.1.simulation.graph := by
  obtain ⟨simulation, he, hw⟩ := h.release
  rw [he]
  refine hw.imp ?_
  rintro node - _ rfl
  exact ⟨rfl, rfl, rfl⟩

/-! ## Holding a node -/

/-- The pointer holds a node, which is at `x`, and the graph agrees that it does. -/
structure Holds (scene : Scene α) (grab : Grab α) (x : Point α) : Prop where
  consistent : scene.Consistent
  grab?_eq : scene.grab? = some grab
  position_eq : ∀ node ∈ scene.simulation.graph.nodes, node.id = grab.node → node.position = x

variable {grab : Grab α} {x : Point α}

/-- A press that answers a node leaves it held where it is. -/
theorem Consistent.holds_press (h : scene.Consistent) {id : NodeId} {point : Point α}
    (hp : (scene.press point).2 = .ok (some id)) {node : Node α}
    (hn : node ∈ scene.simulation.graph.nodes) (hid : node.id = id) :
    (scene.press point).1.Holds ⟨id, node.position - point⟩ node.position := by
  obtain ⟨simulation, grab?, he, hw, hgrab⟩ := h.press point
  rw [he] at hp
  obtain ⟨⟨_, offset⟩, rfl, rfl⟩ := Option.map_eq_some_iff.1 (Except.ok.inj hp)
  obtain ⟨node₁, hn₁, hid₁, rfl⟩ := hgrab _ rfl
  cases Graph.eq_of_id_eq h.nodup_ids hn hn₁ (hid.trans hid₁.symm)
  refine ⟨h.after_press point, by rw [he], fun node' hn' hid' => ?_⟩
  rw [he] at hn'
  obtain ⟨node₂, hn₂, rfl⟩ := hw.mem hn'
  have hsame : node₂ = node := by
    refine Graph.eq_of_id_eq h.nodup_ids hn₂ hn (Eq.trans ?_ (hid'.trans hid.symm))
    split <;> rfl
  rw [hsame]
  split <;> rfl

/-- A step does not move a held node. -/
theorem Holds.step (h : scene.Holds grab x) (timeStep : α) :
    (scene.step timeStep).Holds grab x := by
  refine ⟨h.consistent.step timeStep, h.grab?_eq, fun node' hn' hid => ?_⟩
  obtain ⟨node, hn, force, rfl⟩ := (scene.simulation.nodewise_step timeStep).mem hn'
  have hid' : node.id = grab.node :=
    (Simulation.keepsName_advance _ _ _ _ ⟨force, rfl⟩).1.symm.trans hid
  have hp : node.pinned = true := by
    rw [h.consistent.pinned_iff node hn, held?, h.grab?_eq, hid']
    rfl
  rw [Node.advance, if_pos hp]
  exact h.position_eq node hn hid'

/-- A held node follows the pointer: where it is depends on the last point and the offset only. -/
theorem Holds.moveTo (h : scene.Holds grab x) (point : Point α) :
    (scene.moveTo point).1.Holds grab (point + grab.offset) := by
  obtain ⟨simulation, he, hw⟩ := h.consistent.moveTo point
  refine ⟨h.consistent.after_moveTo point, ?_, fun node' hn' hid => ?_⟩
  · rw [he]
    exact h.grab?_eq
  · rw [he] at hn'
    obtain ⟨node, hn, rfl⟩ := hw.mem hn'
    have hid' : node.id = grab.node := (scene.keeps_drag point node).1.symm.trans hid
    simp only [drag, h.grab?_eq, if_pos hid']

end Scene

end NeighborGraph
