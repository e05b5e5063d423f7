import NeighborGraph.Proofs.Storage.Alteration

/-!
# What file operations look at

A file operation looks at the places on the way of its path, and at nothing else. On trees that
agree there (`FileTree.AgreeOn`), in what stands at the places and in which of them are names of the
same file, reading and looking give the same answer (`FileTree.AgreeOn.find`), and operations that
change files are refused with the same fault or leave trees that agree wherever the trees before
them did (`FileTree.AgreeOn.write`, `FileTree.AgreeOn.makeDirectories`).
-/

namespace NeighborGraph

namespace FileTree

variable {t t' : FileTree} {path : FilePath} {place other : Place} {seen : Place → Prop}
  {number : Nat}

/-- The place is on the way of one of the paths. -/
def OnWayOf (t : FileTree) (paths : FilePath → Prop) (place : Place) : Prop :=
  ∃ path, paths path ∧ t.OnWay (path.route t.directory) place

/-- Both trees have the same working directory, and at the places that are seen the same stands in
them and names are shared alike. -/
structure AgreeOn (seen : Place → Prop) (t t' : FileTree) : Prop where
  directory_eq : t.directory = t'.directory
  entries : ∀ place, seen place → t.entryAt? place = t'.entryAt? place
  files : ∀ place other, seen place → seen other →
    (t.SameFile place other ↔ t'.SameFile place other)

/-- Trees that agree somewhere agree at fewer places as well. -/
theorem AgreeOn.mono {seen' : Place → Prop} (h : AgreeOn seen t t')
    (hseen : ∀ place, seen' place → seen place) : AgreeOn seen' t t' where
  directory_eq := h.directory_eq
  entries place hplace := h.entries place (hseen place hplace)
  files place other hplace hother := h.files place other (hseen place hplace) (hseen other hother)

/-- Every tree agrees with itself. -/
theorem agreeOn_refl (t : FileTree) : AgreeOn seen t t :=
  ⟨rfl, fun _ _ => rfl, fun _ _ _ _ => Iff.rfl⟩

/-! ## Changes that agree -/

namespace AgreeOn

/-- The same that is put where nothing is. -/
theorem put (h : AgreeOn seen t t') (hentry : t.entryAt? place = none)
    (hentry' : t'.entryAt? place = none) {entry : FileEntry}
    (hfiles : ∀ first second, seen first → seen second →
      ((t.put place entry).SameFile first second ↔ (t'.put place entry).SameFile first second)) :
    AgreeOn seen (t.put place entry) (t'.put place entry) where
  directory_eq := by rw [directory_put, directory_put, h.directory_eq]
  entries other hother := by
    by_cases hne : other = place
    · subst hne
      rw [entryAt?_put_self hentry, entryAt?_put_self hentry']
    · rw [entryAt?_put_of_ne t entry hne, entryAt?_put_of_ne t' entry hne, h.entries other hother]
  files := hfiles

/-- A directory that is put where nothing is. -/
theorem put_directory (h : AgreeOn seen t t') (hentry : t.entryAt? place = none)
    (hentry' : t'.entryAt? place = none) :
    AgreeOn seen (t.put place .directory) (t'.put place .directory) :=
  h.put hentry hentry' fun first second hfirst hsecond => by
    rw [sameFile_put_directory hentry, sameFile_put_directory hentry']
    exact h.files first second hfirst hsecond

/-- A file that is put where nothing is. -/
theorem put_file (h : AgreeOn seen t t') (hentry : t.entryAt? place = none)
    (hentry' : t'.entryAt? place = none) (content : List UInt8) :
    AgreeOn seen (t.put place (.file content)) (t'.put place (.file content)) :=
  h.put hentry hentry' fun first second hfirst hsecond => by
    rw [sameFile_put_file hentry, sameFile_put_file hentry', h.files first second hfirst hsecond]

/-- Another content of the file that has a name at a place that is seen. -/
theorem withContent (h : AgreeOn seen t t') (hplace : seen place) {number' : Nat}
    (hrecord : t.record? place = some (.file number))
    (hrecord' : t'.record? place = some (.file number')) (content : List UInt8) :
    AgreeOn seen (t.withContent number content) (t'.withContent number' content) where
  directory_eq := h.directory_eq
  entries other hother := by
    have hshares : t.record? other = some (.file number) ↔
        t'.record? other = some (.file number') := by
      have hfiles := h.files place other hplace hother
      simpa [SameFile, hrecord, hrecord'] using hfiles
    rw [entryAt?_withContent, entryAt?_withContent, h.entries other hother]
    simp only [hshares]
  files := h.files

/-! ## Following a path -/

variable (h : AgreeOn seen t t')
  (hpath : ∀ place, t.OnWay (path.route t.directory) place → seen place)

include h hpath

/-- A path leads to the same place. -/
theorem locate : t.locate path = t'.locate path := by
  rw [FileTree.locate, FileTree.locate, reach, reach, ← h.directory_eq,
    travel_congr fun place hplace => h.entries place (hpath place hplace)]

/-- The same stands there. -/
theorem entryAt?_locate (hlocate : t.locate path = .ok place) :
    seen place ∧ t.entryAt? place = t'.entryAt? place := by
  have hseen := hpath place (onWay_travel (locate_eq_ok.1 hlocate).2)
  exact ⟨hseen, h.entries place hseen⟩

/-- The last step is taken from the same directory. -/
theorem locateParent : t.locateParent path = t'.locateParent path := by
  have hparent {place : Place} (hplace : t.OnWay (path.parentRoute t.directory) place) :
      seen place := by
    refine hpath place (hplace.of_prefix rfl ?_)
    have hdropped := (List.dropLast_prefix path.steps).filter (· ≠ ".")
    rw [FilePath.parentRoute, FilePath.route]
    dsimp only
    split
    · rw [List.filter_append]
      exact hdropped.trans (List.prefix_append ..)
    · exact hdropped
  rw [FileTree.locateParent, FileTree.locateParent, reach, reach, ← h.directory_eq,
    ← travel_congr fun place hplace => h.entries place (hparent hplace)]
  refine Except.bind_congr fun _ _ => Except.bind_congr fun place hplace => ?_
  exact follow_congr (h.entries place (hparent (onWay_travel hplace))) "."

/-- The path leads to the same. -/
theorem find : t.find path = t'.find path := by
  rw [FileTree.find, FileTree.find, ← h.locate hpath]
  refine Except.bind_congr fun place hplace => ?_
  rw [(h.entryAt?_locate hpath hplace).2]

/-- The path leads to something in both trees or in none. -/
theorem contains : t.contains path = t'.contains path := by
  rw [FileTree.contains, h.find hpath, FileTree.contains]

/-- The path leads to a directory in both trees or in none. -/
theorem hasDirectory : t.hasDirectory path = t'.hasDirectory path := by
  rw [FileTree.hasDirectory, h.find hpath, FileTree.hasDirectory]

/-- The same text is read. -/
theorem readText : t.readText path = t'.readText path := by
  rw [FileTree.readText, FileTree.read, h.find hpath, FileTree.readText, FileTree.read]

/-! ## Changing files -/

/-- The same that is written leaves trees that agree. -/
theorem write (content : List UInt8) :
    Except.Matches (AgreeOn seen) (t.write path content) (t'.write path content) := by
  rw [FileTree.write, FileTree.write, ← h.locateParent hpath]
  refine Except.matches_bind fun parent _ => ?_
  split
  · exact .error _
  · rw [← h.locate hpath]
    refine Except.matches_bind fun place hplace => ?_
    obtain ⟨hseen, hentry⟩ := h.entryAt?_locate hpath hplace
    unfold entryAt? at hentry
    rcases hrecord : t.record? place with _ | _ | number | target <;>
      rcases hrecord' : t'.record? place with _ | _ | number' | target' <;>
      simp only [hrecord, hrecord', Option.map_some, Option.map_none, entry,
        reduceCtorEq, Option.some.injEq] at hentry
    · have hnone := entryAt?_eq_none_iff.2 hrecord
      exact .ok (h.put_file hnone (entryAt?_eq_none_iff.2 hrecord') content)
    · exact .error _
    · exact .ok (h.withContent hseen hrecord hrecord' content)
    · exact .error _

/-- A directory that is made in both trees leaves them agreeing. -/
theorem makeDirectory :
    Except.Matches (AgreeOn seen) (t.makeDirectory path) (t'.makeDirectory path) := by
  rw [FileTree.makeDirectory, FileTree.makeDirectory, ← h.locateParent hpath]
  refine Except.matches_bind fun parent hparent => ?_
  cases hname : path.name? with
  | none => exact .error _
  | some name =>
    have hdirectory : t.entryAt? parent = some .directory := (locateParent_eq_ok.1 hparent).2.2
    have hdirectory' : t'.entryAt? parent = some .directory :=
      (locateParent_eq_ok.1 (h.locateParent hpath ▸ hparent)).2.2
    dsimp only
    rw [← follow_congr (hdirectory.trans hdirectory'.symm) name]
    refine Except.matches_bind fun place hplace => ?_
    have hseen : seen place := by
      rw [(follow_eq_ok.1 hplace).2.2, enter_of_name? hname]
      exact hpath _ (onWay_of_makeDirectory hparent hname)
    have hentries := h.entries place hseen
    rw [← hentries]
    split
    · exact .error _
    · next hentry => exact .ok (h.put_directory hentry (hentries.symm.trans hentry))

/-- A directory that is there in both trees, or can be made in both, leaves them agreeing. -/
theorem ensureDirectory :
    Except.Matches (AgreeOn seen) (t.ensureDirectory path) (t'.ensureDirectory path) := by
  have hmade := h.makeDirectory hpath
  rw [FileTree.ensureDirectory, FileTree.ensureDirectory, ← h.hasDirectory hpath]
  generalize t.makeDirectory path = made, t'.makeDirectory path = made' at hmade ⊢
  cases hmade with
  | error fault =>
    dsimp only
    split
    · exact .ok h
    · exact .error fault
  | ok hmade => exact .ok hmade

end AgreeOn

/-- Directories that are made are made in both trees, or the same fault stops at the same point. -/
theorem AgreeOn.ensureFirst (h : AgreeOn seen t t') {paths : List FilePath}
    (hpaths : ∀ path ∈ paths, ∀ place, t.OnWay (path.route t.directory) place → seen place) :
    AgreeOn seen (t.ensureFirst paths).1 (t'.ensureFirst paths).1 ∧
      (t.ensureFirst paths).2 = (t'.ensureFirst paths).2 := by
  induction paths with
  | nil => exact ⟨h, rfl⟩
  | cons path above ih =>
    have hpath := hpaths path (List.mem_cons_self ..)
    have hensured := h.ensureDirectory hpath
    have haltered : Altered (fun _ => True) (fun _ => True) t (t.ensureFirst above).1 :=
      altered_ensureFirst fun _ _ _ _ => trivial
    rw [FileTree.ensureFirst, FileTree.ensureFirst]
    generalize t.ensureDirectory path = made, t'.ensureDirectory path = made' at hensured ⊢
    cases hensured with
    | ok hmade => exact ⟨hmade, rfl⟩
    | error fault =>
      cases fault with
      | notFound =>
        obtain ⟨htrees, hresult⟩ := ih fun path h => hpaths path (List.mem_cons_of_mem _ h)
        generalize t.ensureFirst above = first, t'.ensureFirst above = first'
          at htrees hresult haltered ⊢
        obtain ⟨made, result⟩ := first
        obtain ⟨made', result'⟩ := first'
        cases hresult
        cases result with
        | error fault => exact ⟨htrees, rfl⟩
        | ok _ =>
          have hensured := AgreeOn.ensureDirectory htrees fun place hplace =>
            hpath place (haltered.onWay_route_iff.1 hplace)
          dsimp only at hensured ⊢
          generalize made.ensureDirectory path = last, made'.ensureDirectory path = last'
            at hensured ⊢
          cases hensured with
          | ok hmade => exact ⟨hmade, rfl⟩
          | error fault => exact ⟨htrees, rfl⟩
      | _ => exact ⟨h, rfl⟩

/-- A directory that is made with those above it is so in both trees, up to the same fault. -/
theorem AgreeOn.makeDirectories (h : AgreeOn seen t t')
    (hpath : ∀ place, t.OnWay (path.route t.directory) place → seen place) :
    AgreeOn seen (t.makeDirectories path).1 (t'.makeDirectories path).1 ∧
      (t.makeDirectories path).2 = (t'.makeDirectories path).2 :=
  h.ensureFirst fun _ habove place hplace =>
    have hroute := FilePath.route_of_mem_ancestors habove t.directory
    hpath place (hplace.of_prefix hroute.1 hroute.2)

end FileTree

end NeighborGraph
