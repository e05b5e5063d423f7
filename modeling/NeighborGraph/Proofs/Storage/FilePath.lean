import NeighborGraph.Storage.FilePath

/-!
# The steps of paths

A path that is joined from names has these names as its steps, if no name is empty or has a slash
in it (`FilePath.steps_withSteps`, `FilePath.steps_child`). So the way to a name in a directory is
the way to the directory and one step more (`FilePath.route_child`), and the way to what is above a
path is, up to dots, a first part of its own (`FilePath.route_of_mem_ancestors`).
-/

namespace NeighborGraph

namespace FilePath

/-- A text that can be a single step. -/
def IsStep (name : String) : Prop := name ≠ "" ∧ '/' ∉ name.toList

/-! ## Steps -/

/-- The pieces between slashes are those that splitting at slashes gives. -/
theorem splitSlashes_eq_splitOn (text : List Char) : splitSlashes text = text.splitOn '/' := by
  induction text with
  | nil => rfl
  | cons c text ih =>
    by_cases hc : c = '/'
    · subst hc
      rw [splitSlashes, ih, List.splitOn_cons_eq_if_modifyHead]
      rfl
    · rw [splitSlashes, ih, List.splitOn_cons_eq_if_modifyHead, if_neg (by simpa using hc)]
      · cases htext : text.splitOn '/' with
        | nil => exact absurd htext (List.splitOn_ne_nil '/' text)
        | cons piece pieces => rfl
      · exact hc

/-- No piece has a slash in it. -/
theorem not_mem_of_mem_splitSlashes {text piece : List Char} (h : piece ∈ splitSlashes text) :
    '/' ∉ piece := by
  induction text generalizing piece with
  | nil =>
    rw [splitSlashes, List.mem_singleton] at h
    rw [h]
    exact List.not_mem_nil
  | cons c text ih =>
    by_cases hc : c = '/'
    · subst hc
      rw [splitSlashes, List.mem_cons] at h
      rcases h with rfl | h
      · exact List.not_mem_nil
      · exact ih h
    · rw [splitSlashes] at h
      · cases htext : splitSlashes text with
        | nil =>
          rw [htext, List.mem_singleton] at h
          rw [h, List.mem_singleton]
          exact fun h => hc h.symm
        | cons first pieces =>
          rw [htext] at h ih
          rcases List.mem_cons.1 h with rfl | h
          · intro hmem
            rcases List.mem_cons.1 hmem with h | h
            · exact hc h.symm
            · exact ih (List.mem_cons_self ..) h
          · exact ih (List.mem_cons_of_mem _ h)
      · exact hc

/-- The steps of a path are single steps. -/
theorem isStep_of_mem_steps {path : FilePath} {step : String} (h : step ∈ path.steps) :
    IsStep step := by
  obtain ⟨piece, hpiece, rfl⟩ := List.mem_map.1 h
  obtain ⟨hpiece, hne⟩ := List.mem_filter.1 hpiece
  refine ⟨fun hempty => ?_, ?_⟩
  · have : piece = [] := by simpa using congrArg String.toList hempty
    rw [this] at hne
    exact absurd hne (by decide)
  · rw [String.toList_ofList]
    exact not_mem_of_mem_splitSlashes hpiece

/-- The steps of a text are those before a slash and those after it. -/
theorem steps_append_slash {path before after : FilePath}
    (h : path.text.toList = before.text.toList ++ '/' :: after.text.toList) :
    path.steps = before.steps ++ after.steps := by
  unfold steps
  rw [h, splitSlashes_eq_splitOn, List.splitOn_append_cons_self, ← splitSlashes_eq_splitOn,
    ← splitSlashes_eq_splitOn, List.filter_append, List.map_append]

/-- A single step is the only one of its path. -/
theorem steps_of_isStep {name : String} (h : IsStep name) : steps ⟨name⟩ = [name] := by
  obtain ⟨hne, hslash⟩ := h
  unfold steps
  rw [splitSlashes_eq_splitOn, List.splitOn_eq_singleton hslash, List.filter_cons_of_pos]
  · simp
  · simpa using hne

/-- The path of a name in a directory has one step more, the name. -/
theorem steps_child (path : FilePath) {name : String} (hname : IsStep name) :
    (path.child name).steps = path.steps ++ [name] := by
  have hempty : steps ⟨""⟩ = [] := rfl
  obtain ⟨text⟩ := path
  rw [← steps_of_isStep hname]
  by_cases htext : text = ""
  · subst htext
    rw [hempty, List.nil_append, child, if_pos (.inl rfl), String.empty_append]
  · cases hslash : endsWithSlash ⟨text⟩ with
    | true =>
      obtain ⟨before, hbefore⟩ := List.getLast?_eq_some_iff.1 (beq_iff_eq.1 hslash)
      have hsteps : steps ⟨text⟩ = steps ⟨String.ofList before⟩ ++ steps ⟨""⟩ :=
        steps_append_slash (by simpa using hbefore)
      rw [hsteps, hempty, List.append_nil, child, if_pos (.inr hslash)]
      refine steps_append_slash ?_
      rw [String.toList_append, hbefore, String.toList_ofList, List.append_assoc,
        List.singleton_append]
    | false =>
      rw [child, if_neg (by simp [htext, hslash])]
      refine steps_append_slash ?_
      rw [String.toList_append, String.toList_append, List.append_assoc]
      rfl

/-- A path that is joined from steps has these steps. -/
theorem steps_withSteps (path : FilePath) {names : List String} (hne : names ≠ [])
    (hnames : ∀ name ∈ names, IsStep name) : (path.withSteps names).steps = names := by
  have hjoined : steps ⟨"/".intercalate names⟩ = names := by
    unfold steps
    rw [String.toList_intercalate, splitSlashes_eq_splitOn]
    change ((List.splitOn '/' (['/'].intercalate _)).filter _).map _ = _
    rw [List.splitOn_intercalate '/' (by simpa using fun name h => (hnames name h).2) (by simpa),
      List.filter_eq_self.2 (by simpa using fun name h => (hnames name h).1), List.map_map]
    exact (List.map_congr_left fun name _ => String.ofList_toList).trans (List.map_id _)
  rw [withSteps]
  cases path.startsWithSlash with
  | true =>
    have hroot : steps ⟨"/" ++ "/".intercalate names⟩ =
        steps ⟨""⟩ ++ steps ⟨"/".intercalate names⟩ :=
      steps_append_slash (by rw [String.toList_append]; rfl)
    rw [if_pos rfl, hroot, hjoined]
    rfl
  | false => rw [if_neg Bool.false_ne_true, String.empty_append, hjoined]

/-! ## Where paths begin -/

/-- A path that begins with a step does not begin with a slash. -/
theorem not_startsWithSlash {path : FilePath} {name : String} (hname : IsStep name)
    (rest : List Char) (h : path.text.toList = name.toList ++ rest) :
    path.startsWithSlash = false := by
  obtain ⟨hne, hslash⟩ := hname
  obtain ⟨c, text, htext⟩ := List.exists_cons_of_ne_nil (l := name.toList) (by simpa using hne)
  rw [htext] at hslash
  rw [startsWithSlash, h, htext, List.cons_append, List.head?_cons]
  refine beq_eq_false_iff_ne.2 fun heq => hslash ?_
  rw [Option.some.inj heq]
  exact List.mem_cons_self ..

/-- The path of a name begins where that of its directory does. -/
theorem startsWithSlash_child (path : FilePath) {name : String} (hname : IsStep name) :
    (path.child name).startsWithSlash = path.startsWithSlash := by
  obtain ⟨text⟩ := path
  by_cases htext : text = ""
  · subst htext
    rw [child, if_pos (.inl rfl), String.empty_append]
    exact not_startsWithSlash hname [] (List.append_nil _).symm
  · obtain ⟨c, rest, hrest⟩ := List.exists_cons_of_ne_nil (l := text.toList) (by simpa using htext)
    unfold child startsWithSlash
    split
    · rw [String.toList_append, hrest, List.cons_append, List.head?_cons, List.head?_cons]
    · rw [String.toList_append, String.toList_append, hrest, List.cons_append, List.cons_append,
        List.head?_cons, List.head?_cons]

/-- A path with other steps begins where the path does. -/
theorem startsWithSlash_withSteps (path : FilePath) {names : List String} (hne : names ≠ [])
    (hnames : ∀ name ∈ names, IsStep name) :
    (path.withSteps names).startsWithSlash = path.startsWithSlash := by
  unfold withSteps
  cases path.startsWithSlash with
  | true =>
    unfold startsWithSlash
    rw [if_pos rfl, String.toList_append]
    rfl
  | false =>
    obtain ⟨name, rest, rfl⟩ := List.exists_cons_of_ne_nil hne
    rw [if_neg Bool.false_ne_true, String.empty_append]
    have hname := hnames name (List.mem_cons_self ..)
    cases rest with
    | nil => exact not_startsWithSlash hname [] (by simp)
    | cons next rest =>
      refine not_startsWithSlash hname ('/' :: ("/".intercalate (next :: rest)).toList) ?_
      simp [String.toList_intercalate]

/-! ## Names in a directory -/

/-- A path that ends with a name does not end with a slash. -/
theorem not_endsWithSlash {path : FilePath} {name : String} (hname : IsStep name)
    (before : List Char) (h : path.text.toList = before ++ name.toList) :
    path.endsWithSlash = false := by
  obtain ⟨hne, hslash⟩ := hname
  have hlast : path.text.toList.getLast? = name.toList.getLast? := by
    rw [h, List.getLast?_append, Option.or_of_isSome]
    simpa using hne
  rw [endsWithSlash, hlast]
  exact beq_eq_false_iff_ne.2 fun heq => hslash (List.mem_of_getLast? heq)

/-- The path of a name in a directory does not end with a slash. -/
theorem endsWithSlash_child (path : FilePath) {name : String} (hname : IsStep name) :
    (path.child name).endsWithSlash = false := by
  unfold child
  split
  · exact not_endsWithSlash hname path.text.toList String.toList_append
  · exact not_endsWithSlash hname (path.text ++ "/").toList String.toList_append

/-- The way to a name in a directory is the way to the directory, and the name. -/
theorem route_child (path : FilePath) {name : String} (hname : IsStep name) (place : Place) :
    (path.child name).route place = ⟨path.origin place, path.steps ++ [name]⟩ := by
  rw [route, endsWithSlash_child path hname, if_neg Bool.false_ne_true, steps_child path hname,
    origin, startsWithSlash_child path hname, ← origin]

/-! ## Directories above -/

/-- The way to what is above a path is, up to dots, a first part of the way to the path. -/
theorem route_of_mem_ancestors {path above : FilePath} (h : above ∈ path.ancestors)
    (place : Place) : (above.route place).start = (path.route place).start ∧
      (above.route place).steps.filter (· ≠ ".") <+: (path.route place).steps.filter (· ≠ ".") := by
  have hfilter (path : FilePath) :
      (path.route place).steps.filter (· ≠ ".") = path.steps.filter (· ≠ ".") := by
    unfold route
    split
    · rw [List.filter_append, List.filter_cons_of_neg (by decide), List.filter_nil,
        List.append_nil]
    · rfl
  rw [hfilter, hfilter]
  rw [ancestors] at h
  split at h
  · cases h
  · rcases List.mem_cons.1 h with rfl | h
    · exact ⟨rfl, List.prefix_refl _⟩
    · obtain ⟨count, hcount, rfl⟩ := List.mem_map.1 (List.mem_reverse.1 h)
      obtain ⟨hpos, hlt⟩ := List.mem_range'_1.1 hcount
      have htaken := List.take_prefix count (path.steps.filter (· ≠ "."))
      have hnames : ∀ name ∈ (path.steps.filter (· ≠ ".")).take count, IsStep name :=
        fun name hname => isStep_of_mem_steps (List.mem_filter.1 (htaken.subset hname)).1
      have hne : (path.steps.filter (· ≠ ".")).take count ≠ [] := by
        rw [← List.length_pos_iff, List.length_take]
        omega
      refine ⟨?_, ?_⟩
      · rw [route, origin, startsWithSlash_withSteps path hne hnames, ← origin, route]
      · rw [steps_withSteps path hne hnames, List.filter_eq_self.2]
        · exact htaken
        · exact fun name hname => (List.mem_filter.1 (htaken.subset hname)).2

end FilePath

end NeighborGraph
