import NeighborGraph.Proofs.Except
import NeighborGraph.Storage.FileTree

/-!
# Ways along links

A route is taken step by step. Taking more steps than some is taking these first
(`FileTree.advance_append`), so that the way to a name in a directory is the way to the directory
and one step more (`FileTree.exists_of_travel_append`). Of a tree, a route sees what stands on its
way (`FileTree.OnWay`): the places that its steps would lead to if all directories were there,
turned aside by links only. Trees in which the same stands there take it to the same place
(`FileTree.travel_congr`).
-/

namespace NeighborGraph

/-- Going on twice is going on with all the steps. -/
theorem Route.extend_extend (route : Route) (steps more : List String) :
    (route.extend steps).extend more = route.extend (steps ++ more) := by
  rw [extend, extend, extend, List.append_assoc]

/-- What is left of a way on which some steps have been taken and more are to be. -/
def Progress.left : Progress → List String → Route
  | .arrived place, more => ⟨place, more⟩
  | .turned route, more => route.extend more

namespace FileTree

variable {t t' : FileTree} {place next other : Place} {step : String} {steps more : List String}
  {route : Route} {advances : Nat}

/-! ## Single steps -/

/-- A step leads on from a directory, and only from there. -/
theorem follow_eq_ok : t.follow place step = .ok next ↔
    t.entryAt? place = some .directory ∧ step.utf8ByteSize ≤ FilePath.stepLimit ∧
      next = place.enter step := by
  unfold follow
  rcases t.entryAt? place with _ | _ | content | target
  · exact ⟨nofun, nofun⟩
  · dsimp only
    split
    · next hlong => exact ⟨nofun, fun h => absurd h.2.1 (Nat.not_le.2 hlong)⟩
    · next hshort =>
      exact ⟨fun h => ⟨rfl, Nat.not_lt.1 hshort, (Except.ok.inj h).symm⟩, fun h => by rw [h.2.2]⟩
  · exact ⟨nofun, nofun⟩
  · exact ⟨nofun, nofun⟩

/-- A link stands at the place that its name leads to. -/
theorem link?_eq_some {target : FilePath} : t.link? place step = some target ↔
    step ≠ "." ∧ step ≠ ".." ∧ t.entryAt? (place ++ [step]) = some (.link target) := by
  unfold link?
  split
  · next hdots =>
    exact ⟨nofun, fun h => absurd hdots (not_or.2 ⟨h.1, h.2.1⟩)⟩
  · next hdots =>
    rcases t.entryAt? (place ++ [step]) with _ | _ | content | target'
    · exact ⟨nofun, nofun⟩
    · exact ⟨nofun, nofun⟩
    · exact ⟨nofun, nofun⟩
    · rw [not_or] at hdots
      simp [hdots]

/-- Dots are never links. -/
theorem link?_dot (t : FileTree) (place : Place) : t.link? place "." = none := by
  rw [link?, if_pos (.inl rfl)]

/-- A dot leads to where one is. -/
theorem enter_dot (place : Place) : place.enter "." = place := if_pos rfl

/-- A name leads to what stands under it. -/
theorem enter_of_ne (hdot : step ≠ ".") (hdots : step ≠ "..") :
    place.enter step = place ++ [step] := by
  rw [Place.enter, if_neg hdot, if_neg hdots]

/-- The last step of a path leads to what stands under its name. -/
theorem enter_of_name? {path : FilePath} {name : String} (h : path.name? = some name)
    (place : Place) : place.enter name = place ++ [name] := by
  have hdots := (Option.filter_eq_some_iff.1 h).2
  rw [Bool.and_eq_true, decide_eq_true_iff, decide_eq_true_iff] at hdots
  exact enter_of_ne hdots.1 hdots.2

/-- Whether a step leads to a link is told by what stands where it leads to. -/
theorem link?_congr (h : t.entryAt? (place.enter step) = t'.entryAt? (place.enter step)) :
    t.link? place step = t'.link? place step := by
  unfold link?
  split
  · rfl
  · next hdots =>
    rw [not_or] at hdots
    rw [← enter_of_ne hdots.1 hdots.2, h]

/-- How a step is taken is told by what stands where it is taken from. -/
theorem follow_congr (h : t.entryAt? place = t'.entryAt? place) (step : String) :
    t.follow place step = t'.follow place step := by
  rw [follow, h, follow]

/-! ## Several steps -/

/-- Taking steps and then more is taking them all, from where the first ones have led to. -/
theorem advance_append : t.advance place (steps ++ more) =
    (t.advance place steps >>= fun
      | .arrived next => t.advance next more
      | .turned route => .ok (.turned (route.extend more))) := by
  induction steps generalizing place with
  | nil => rfl
  | cons step steps ih =>
    rw [List.cons_append, advance, advance, bind_assoc]
    refine bind_congr fun next => ?_
    cases t.link? place step with
    | none => exact ih
    | some target =>
      dsimp only
      rw [← Route.extend_extend]
      rfl

/-- What leads on from a first part of a route is a route of its own. -/
theorem exists_of_travel_append (h : t.travel advances ⟨place, steps ++ more⟩ = .ok other) :
    ∃ next left, t.travel advances ⟨place, steps⟩ = .ok next ∧
      t.travel left ⟨next, more⟩ = .ok other := by
  induction advances generalizing place steps with
  | zero => cases h
  | succ advances ih =>
    rw [travel] at h ⊢
    obtain ⟨progress, hadvance, h⟩ := Except.bind_eq_ok.1 h
    dsimp only at hadvance ⊢
    rw [advance_append] at hadvance
    obtain ⟨first, hfirst, hadvance⟩ := Except.bind_eq_ok.1 hadvance
    rw [hfirst]
    cases first with
    | arrived here =>
      refine ⟨here, advances + 1, rfl, ?_⟩
      rw [travel]
      exact Except.bind_eq_ok.2 ⟨progress, hadvance, h⟩
    | turned route =>
      cases hadvance
      exact ih h

/-- A route of a single step that leads to no link leads to where it follows to. -/
theorem travel_singleton (h : t.travel advances ⟨place, [step]⟩ = .ok next)
    (hlink : t.link? place step = none) : t.follow place step = .ok next := by
  cases advances with
  | zero => cases h
  | succ advances =>
    rw [travel] at h
    obtain ⟨progress, hadvance, h⟩ := Except.bind_eq_ok.1 h
    rw [advance] at hadvance
    obtain ⟨here, hfollow, hadvance⟩ := Except.bind_eq_ok.1 hadvance
    rw [hlink] at hadvance
    cases hadvance
    cases h
    exact hfollow

/-! ## What is on the way -/

/-- The place is on the way: steps would lead there if all directories stood where they ought to.
Only links turn a route aside. -/
inductive OnWay (t : FileTree) : Route → Place → Prop
  | start (route : Route) : OnWay t route route.start
  | enter (place : Place) (step : String) (steps : List String) :
    OnWay t ⟨place, step :: steps⟩ (place.enter step)
  | along {place other : Place} {step : String} {steps : List String}
    (hlink : t.link? place step = none) (h : OnWay t ⟨place.enter step, steps⟩ other) :
    OnWay t ⟨place, step :: steps⟩ other
  | turn {place other : Place} {step : String} {steps : List String} {target : FilePath}
    (hlink : t.link? place step = some target)
    (h : OnWay t ((target.route place).extend steps) other) :
    OnWay t ⟨place, step :: steps⟩ other

/-- What is on the way is so if the way goes on. -/
theorem OnWay.extend (h : t.OnWay route other) (more : List String) :
    t.OnWay (route.extend more) other := by
  induction h with
  | start route => exact .start (route.extend more)
  | enter place step steps => exact .enter place step (steps ++ more)
  | along hlink _ ih => exact .along hlink ih
  | turn hlink _ ih =>
    rw [Route.extend_extend] at ih
    exact .turn hlink ih

/-- Dots lead nowhere. -/
theorem OnWay.of_dots {dots : List String} (hdots : ∀ dot ∈ dots, dot = ".")
    (h : t.OnWay ⟨place, steps⟩ other) : t.OnWay ⟨place, dots ++ steps⟩ other := by
  induction dots with
  | nil => exact h
  | cons dot dots ih =>
    cases hdots dot (List.mem_cons_self ..)
    refine .along (t.link?_dot place) ?_
    rw [enter_dot]
    exact ih fun dot hdot => hdots dot (List.mem_cons_of_mem _ hdot)

/-- Steps that are, up to dots, some others with a step in front have this step behind dots. -/
theorem exists_of_filter_cons (hstep : step ≠ ".")
    (h : (step :: more).filter (· ≠ ".") = steps.filter (· ≠ ".")) :
    ∃ dots after, steps = dots ++ step :: after ∧ (∀ dot ∈ dots, dot = ".") ∧
      more.filter (· ≠ ".") = after.filter (· ≠ ".") := by
  rw [List.filter_cons_of_pos (by simpa using hstep)] at h
  obtain ⟨dots, after, rfl, hdots, -, hafter⟩ := List.filter_eq_cons_iff.1 h.symm
  exact ⟨dots, after, rfl, by simpa using hdots, hafter.symm⟩

/-- As dots lead nowhere, it does not matter how many there are. -/
theorem OnWay.of_filter (h : t.OnWay route other) {steps : List String}
    (hsteps : route.steps.filter (· ≠ ".") = steps.filter (· ≠ ".")) :
    t.OnWay ⟨route.start, steps⟩ other := by
  induction h generalizing steps with
  | start route => exact .start ⟨route.start, steps⟩
  | enter place step rest =>
    by_cases hstep : step = "."
    · subst hstep
      rw [enter_dot]
      exact .start ⟨place, steps⟩
    · obtain ⟨dots, after, rfl, hdots, -⟩ := exists_of_filter_cons hstep hsteps
      exact .of_dots hdots (.enter place step after)
  | @along place _ step rest hlink h ih =>
    by_cases hstep : step = "."
    · subst hstep
      rw [List.filter_cons_of_neg (by simp)] at hsteps
      rw [enter_dot] at ih
      exact ih hsteps
    · obtain ⟨dots, after, rfl, hdots, hafter⟩ := exists_of_filter_cons hstep hsteps
      exact .of_dots hdots (.along hlink (ih hafter))
  | @turn place _ step rest target hlink h ih =>
    obtain ⟨dots, after, rfl, hdots, hafter⟩ :=
      exists_of_filter_cons (link?_eq_some.1 hlink).1 hsteps
    refine .of_dots hdots (.turn hlink (ih ?_))
    rw [Route.extend, List.filter_append, List.filter_append, hafter]

/-- What is on a way that is, up to dots, a first part of another way is on this one. -/
theorem OnWay.of_prefix {first : Route} (h : t.OnWay first other)
    (hstart : first.start = route.start)
    (hsteps : first.steps.filter (· ≠ ".") <+: route.steps.filter (· ≠ ".")) :
    t.OnWay route other := by
  obtain ⟨rest, hrest⟩ := hsteps
  have hrest_filter : rest.filter (· ≠ ".") = rest := by
    refine List.filter_eq_self.2 fun step hstep => ?_
    have hmem := List.mem_append_right (first.steps.filter (· ≠ ".")) hstep
    rw [hrest] at hmem
    exact (List.mem_filter.1 hmem).2
  have hroute : t.OnWay ⟨first.start, route.steps⟩ other := (h.extend rest).of_filter <| by
    rw [Route.extend, List.filter_append, hrest_filter, hrest]
  rw [hstart] at hroute
  exact hroute

/-- What is on the rest of a way is on the whole of it. -/
theorem onWay_of_advance {progress : Progress} (h : t.advance place steps = .ok progress)
    (hother : t.OnWay (progress.left more) other) :
    t.OnWay ⟨place, steps ++ more⟩ other := by
  induction steps generalizing place with
  | nil =>
    cases h
    exact hother
  | cons step steps ih =>
    obtain ⟨next, hfollow, h⟩ := Except.bind_eq_ok.1 h
    cases (follow_eq_ok.1 hfollow).2.2
    cases hlink : t.link? place step with
    | none =>
      rw [hlink] at h
      exact .along hlink (ih h)
    | some target =>
      rw [hlink] at h
      cases h
      rw [Progress.left, Route.extend_extend] at hother
      exact .turn hlink hother

/-- What is on the way from the place of a route is on the whole way. -/
theorem onWay_of_travel (h : t.travel advances route = .ok next)
    (hother : t.OnWay ⟨next, more⟩ other) : t.OnWay (route.extend more) other := by
  induction advances generalizing route with
  | zero => cases h
  | succ advances ih =>
    rw [travel] at h
    obtain ⟨progress, hadvance, h⟩ := Except.bind_eq_ok.1 h
    refine onWay_of_advance hadvance ?_
    cases progress with
    | arrived here =>
      cases h
      exact hother
    | turned route => exact ih h

/-- A route leads to a place that is on its way. -/
theorem onWay_travel (h : t.travel advances route = .ok next) : t.OnWay route next := by
  have h : t.OnWay (route.extend []) next := onWay_of_travel h (.start ⟨next, []⟩)
  rwa [Route.extend, List.append_nil] at h

/-- Where no link is, the places on the way are those that the steps lead to in turn. -/
theorem OnWay.mem_scanl (hlinks : ∀ place step, t.link? place step = none)
    (h : t.OnWay route other) : other ∈ route.steps.scanl Place.enter route.start := by
  induction h with
  | start route => cases hsteps : route.steps <;> simp
  | enter place step steps => cases steps <;> simp
  | along _ _ ih =>
    rw [List.scanl_cons]
    exact List.mem_cons_of_mem _ ih
  | turn hlink _ _ =>
    rw [hlinks] at hlink
    cases hlink

/-- No step leads to a link if there is no record of one. -/
theorem link?_eq_none (h : ∀ record ∈ t.records, ∀ target, record.2 ≠ .link target) :
    t.link? place step = none := by
  refine Option.eq_none_iff_forall_ne_some.2 fun target hlink => ?_
  have hentry := (link?_eq_some.1 hlink).2.2
  unfold entryAt? record? at hentry
  split at hentry
  · cases hentry
  · obtain ⟨record, hrecord, hentry⟩ := Option.map_eq_some_iff.1 hentry
    obtain ⟨before, after, hrecords, -⟩ := List.lookup_eq_some_iff.1 hrecord
    cases record with
    | directory | file _ => cases hentry
    | link target =>
      refine h (place ++ [step], .link target) ?_ target rfl
      rw [hrecords]
      exact List.mem_append_right _ (List.mem_cons_self ..)

/-! ## Ways that stay -/

/-- Ways are told by links alone. -/
theorem OnWay.of_links (hlinks : ∀ place step, t'.link? place step = t.link? place step)
    (h : t.OnWay route other) : t'.OnWay route other := by
  induction h with
  | start route => exact .start route
  | enter place step steps => exact .enter place step steps
  | along hlink _ ih => exact .along ((hlinks ..).trans hlink) ih
  | turn hlink _ ih => exact .turn ((hlinks ..).trans hlink) ih

/-- The directories of one tree are directories of another one, and the links are the same. -/
structure KeepsWays (t t' : FileTree) : Prop where
  directories : ∀ place, t.entryAt? place = some .directory → t'.entryAt? place = some .directory
  links : ∀ place step, t'.link? place step = t.link? place step

/-- Where directories and links stay, steps lead as far as they did. -/
theorem KeepsWays.advance (hkeep : t.KeepsWays t') {progress : Progress}
    (h : t.advance place steps = .ok progress) : t'.advance place steps = .ok progress := by
  induction steps generalizing place with
  | nil => exact h
  | cons step steps ih =>
    obtain ⟨next, hfollow, h⟩ := Except.bind_eq_ok.1 h
    obtain ⟨hentry, hshort, hnext⟩ := follow_eq_ok.1 hfollow
    have hfollow' : t'.follow place step = .ok next :=
      follow_eq_ok.2 ⟨hkeep.directories place hentry, hshort, hnext⟩
    refine Except.bind_eq_ok.2 ⟨next, hfollow', ?_⟩
    rw [hkeep.links]
    cases hlink : t.link? place step with
    | none =>
      rw [hlink] at h
      exact ih h
    | some target =>
      rw [hlink] at h
      exact h

/-- Where directories and links stay, a route leads to the place that it did lead to. -/
theorem KeepsWays.travel (hkeep : t.KeepsWays t') (h : t.travel advances route = .ok next) :
    t'.travel advances route = .ok next := by
  induction advances generalizing route with
  | zero => cases h
  | succ advances ih =>
    obtain ⟨progress, hadvance, h⟩ := Except.bind_eq_ok.1 h
    refine Except.bind_eq_ok.2 ⟨progress, hkeep.advance hadvance, ?_⟩
    cases progress with
    | arrived place => exact h
    | turned route => exact ih h

/-! ## Trees that agree on a way -/

/-- In trees where the same stands on the way, steps lead equally far. -/
theorem advance_congr
    (h : ∀ other, t.OnWay ⟨place, steps⟩ other → t.entryAt? other = t'.entryAt? other) :
    t.advance place steps = t'.advance place steps := by
  induction steps generalizing place with
  | nil => rfl
  | cons step steps ih =>
    have hlinks := link?_congr (h (place.enter step) (.enter place step steps))
    rw [advance, advance, ← follow_congr (h place (.start ⟨place, step :: steps⟩)), ← hlinks]
    refine Except.bind_congr fun next hnext => ?_
    cases (follow_eq_ok.1 hnext).2.2
    cases hlink : t.link? place step with
    | none => exact ih fun other hother => h other (.along hlink hother)
    | some target => rfl

/-- In trees where the same stands on the way, a route leads to the same place. -/
theorem travel_congr (h : ∀ other, t.OnWay route other → t.entryAt? other = t'.entryAt? other) :
    t.travel advances route = t'.travel advances route := by
  induction advances generalizing route with
  | zero => rfl
  | succ advances ih =>
    rw [travel, travel, ← advance_congr h]
    refine Except.bind_congr fun progress hprogress => ?_
    cases progress with
    | arrived place => rfl
    | turned next =>
      refine ih fun other hother => h other ?_
      have hway : t.OnWay ⟨route.start, route.steps ++ []⟩ other :=
        onWay_of_advance hprogress (hother.extend [])
      rwa [List.append_nil] at hway

end FileTree

end NeighborGraph
