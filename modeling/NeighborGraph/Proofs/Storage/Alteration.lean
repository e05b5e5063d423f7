import NeighborGraph.Proofs.Storage.FileTree

/-!
# What file operations change

All that operations do to a tree is told by the places they may do it at (`FileTree.Altered`):
nothing goes away, no link is made or replaced, directories and files come to be where nothing was,
and the content of a file changes under all its names (`FileTree.Altered.entryAt?_cases`). So ways
do not change (`FileTree.Altered.onWay_iff`), and a path leads to the same place for as long as
directories stay (`FileTree.Altered.locate`). What has been written is read again
(`FileTree.read_of_write`).
-/

namespace NeighborGraph

namespace FileTree

variable {t middle after : FileTree} {path : FilePath} {place next other : Place}
  {directories files : Place → Prop} {route : Route} {progress : Progress} {advances number : Nat}

/-- From one tree to another every name stays. Where nothing is, directories may come to be at
places of `directories` and new files at places of `files`. Of the files that are there, those with
a name at a place of `files` may get another content. -/
structure Altered (directories files : Place → Prop) (t after : FileTree) : Prop where
  directory_eq : after.directory = t.directory
  records : ∀ place, after.record? place = t.record? place ∨ t.record? place = none ∧
    (directories place ∧ after.record? place = some .directory ∨
      files place ∧ ∃ number, t.Unused number ∧ after.record? place = some (.file number))
  contents : ∀ number, after.content number = t.content number ∨ t.Unused number ∨
    ∃ place, files place ∧ t.record? place = some (.file number)

/-- What is left as it is, is not altered anywhere. -/
theorem altered_refl (t : FileTree) : Altered directories files t t :=
  ⟨rfl, fun _ => .inl rfl, fun _ => .inl rfl⟩

namespace Altered

/-- What stands for something stays. -/
theorem record?_eq_some (h : Altered directories files t after) {record : FileRecord}
    (hrecord : t.record? place = some record) : after.record? place = some record := by
  obtain hsame | ⟨hnone, -⟩ := h.records place
  · rw [hsame, hrecord]
  · rw [hrecord] at hnone
    cases hnone

/-- What stands for something did so before, or has come to. -/
theorem record?_cases (h : Altered directories files t after) {record : FileRecord}
    (hrecord : after.record? place = some record) :
    t.record? place = some record ∨ t.record? place = none ∧
      (directories place ∧ record = .directory ∨
        files place ∧ ∃ number, t.Unused number ∧ record = .file number) := by
  refine (h.records place).imp (fun hsame => hsame.symm.trans hrecord) (And.imp_right ?_)
  rw [hrecord]
  exact Or.imp (And.imp_right Option.some.inj) <| And.imp_right fun ⟨number, hunused, hnew⟩ =>
    ⟨number, hunused, Option.some.inj hnew⟩

/-- A number of no file is that of none before. -/
theorem unused (h : Altered directories files t after) (hnumber : after.Unused number) :
    t.Unused number := fun place hrecord => hnumber place (h.record?_eq_some hrecord)

/-- What is altered at fewer places is altered at no more. -/
theorem mono (h : Altered directories files t after) {directories' files' : Place → Prop}
    (hdirectories : ∀ place, directories place → directories' place)
    (hfiles : ∀ place, files place → files' place) :
    Altered directories' files' t after where
  directory_eq := h.directory_eq
  records place := (h.records place).imp_right fun ⟨hnone, hnew⟩ =>
    ⟨hnone, hnew.imp (And.imp_left (hdirectories place)) (And.imp_left (hfiles place))⟩
  contents number := (h.contents number).imp_right fun hused =>
    hused.imp_right fun ⟨place, hplace, hrecord⟩ => ⟨place, hfiles place hplace, hrecord⟩

/-- Alterations one after another are one. -/
theorem trans (h : Altered directories files t middle)
    (h' : Altered directories files middle after) :
    Altered directories files t after where
  directory_eq := h'.directory_eq.trans h.directory_eq
  records place := by
    obtain hsame | ⟨hnone, hnew⟩ := h.records place
    · rw [← hsame]
      refine (h'.records place).imp_right fun ⟨hnone, hnew⟩ => ⟨hnone, hnew.imp_right ?_⟩
      exact fun ⟨hfile, number, hunused, hrecord⟩ => ⟨hfile, number, h.unused hunused, hrecord⟩
    · refine .inr ⟨hnone, hnew.imp ?_ ?_⟩
      · exact fun ⟨hdirectory, hrecord⟩ => ⟨hdirectory, h'.record?_eq_some hrecord⟩
      · exact fun ⟨hfile, number, hunused, hrecord⟩ =>
          ⟨hfile, number, hunused, h'.record?_eq_some hrecord⟩
  contents number := by
    obtain hsame | hunused | ⟨place, hfile, hrecord⟩ := h'.contents number
    · rw [hsame]
      exact h.contents number
    · exact .inr (.inl (h.unused hunused))
    · -- a file with a name in the middle has it before as well, or is a new one
      obtain hbefore | ⟨-, ⟨-, hnew⟩ | ⟨-, number', hunused, hnew⟩⟩ := h.record?_cases hrecord
      · exact .inr (.inr ⟨place, hfile, hbefore⟩)
      · cases hnew
      · cases hnew
        exact .inr (.inl hunused)

/-- All that becomes of a place: nothing, or a directory comes to be there, or a file does or has
another content, as this file was written to under its name or under another one. -/
theorem entryAt?_cases (h : Altered directories files t after) (place : Place) :
    after.entryAt? place = t.entryAt? place ∨
    (directories place ∧ t.entryAt? place = none ∧ after.entryAt? place = some .directory) ∨
    ∃ written, files written ∧
      (written = place ∧ t.entryAt? place = none ∨ t.SameFile written place) ∧
      ∃ content, after.entryAt? place = some (.file content) := by
  obtain hsame | ⟨hnone, ⟨hdirectory, hnew⟩ | ⟨hfile, number, -, hnew⟩⟩ := h.records place
  · unfold entryAt?
    rw [hsame]
    rcases hrecord : t.record? place with _ | _ | number | target
    · exact .inl rfl
    · exact .inl rfl
    · obtain hcontent | hunused | ⟨written, hfile, hwritten⟩ := h.contents number
      · exact .inl (congrArg (fun content => some (FileEntry.file content)) hcontent)
      · exact absurd hrecord (hunused place)
      · exact .inr (.inr ⟨written, hfile, .inr ⟨number, hwritten, hrecord⟩, _, rfl⟩)
    · exact .inl rfl
  · exact .inr (.inl ⟨hdirectory, entryAt?_eq_none_iff.2 hnone, entryAt?_eq_directory_iff.2 hnew⟩)
  · exact .inr (.inr ⟨place, hfile, .inl ⟨rfl, entryAt?_eq_none_iff.2 hnone⟩, _,
      entryAt?_eq_file_iff.2 ⟨number, hnew, rfl⟩⟩)

/-! ## Ways -/

/-- Links stay, and no other ones come to be. -/
theorem link?_eq (h : Altered directories files t after) (place : Place) (step : String) :
    after.link? place step = t.link? place step := by
  refine Option.ext fun target => ?_
  rw [link?_eq_some, link?_eq_some, entryAt?_eq_link_iff, entryAt?_eq_link_iff]
  refine and_congr_right fun _ => and_congr_right fun _ => ⟨fun hrecord => ?_, h.record?_eq_some⟩
  obtain hbefore | ⟨-, ⟨-, hnew⟩ | ⟨-, number, -, hnew⟩⟩ := h.record?_cases hrecord
  · exact hbefore
  · cases hnew
  · cases hnew

/-- Directories stay as well, and with them all ways that could be gone. -/
theorem keepsWays (h : Altered directories files t after) : t.KeepsWays after where
  directories place hentry := by
    rw [entryAt?_eq_directory_iff] at hentry ⊢
    exact h.record?_eq_some hentry
  links := h.link?_eq

/-- If no directories are made, no ways open. -/
theorem keepsWays_back (h : Altered (fun _ => False) files t after) : after.KeepsWays t where
  directories place hentry := by
    rw [entryAt?_eq_directory_iff] at hentry ⊢
    obtain hbefore | ⟨-, ⟨hno, -⟩ | ⟨-, number, -, hnew⟩⟩ := h.record?_cases hentry
    · exact hbefore
    · cases hno
    · cases hnew
  links place step := (h.link?_eq place step).symm

/-- Ways stay as they are. -/
theorem onWay_iff (h : Altered directories files t after) :
    after.OnWay route other ↔ t.OnWay route other :=
  ⟨.of_links fun place step => (h.link?_eq place step).symm, .of_links h.link?_eq⟩

/-- So do the ways of paths. -/
theorem onWay_route_iff (h : Altered directories files t after) :
    after.OnWay (path.route after.directory) other ↔ t.OnWay (path.route t.directory) other := by
  rw [h.directory_eq]
  exact h.onWay_iff

/-- A path leads to the place that it did lead to. -/
theorem locate (h : Altered directories files t after) (hlocate : t.locate path = .ok place) :
    after.locate path = .ok place := by
  rw [locate_eq_ok] at hlocate ⊢
  rw [h.directory_eq]
  exact ⟨hlocate.1, h.keepsWays.travel hlocate.2⟩

/-- If no directories are made, a path leads nowhere that it did not lead to. -/
theorem locate_back (h : Altered (fun _ => False) files t after)
    (hlocate : after.locate path = .ok place) : t.locate path = .ok place := by
  rw [locate_eq_ok, h.directory_eq] at hlocate
  exact locate_eq_ok.2 ⟨hlocate.1, h.keepsWays_back.travel hlocate.2⟩

end Altered

/-! ## Operations -/

/-- What is put where nothing is alters this place only. -/
theorem altered_put_directory (hentry : t.entryAt? place = none) (hplace : directories place) :
    Altered directories files t (t.put place .directory) where
  directory_eq := rfl
  records other := by
    by_cases hother : other = place
    · subst hother
      exact .inr ⟨entryAt?_eq_none_iff.1 hentry, .inl ⟨hplace,
        entryAt?_eq_directory_iff.1 (entryAt?_put_self hentry .directory)⟩⟩
    · exact .inl (record?_put_of_ne t .directory hother)
  contents _ := .inl rfl

/-- A file that is put where nothing is alters this place only. -/
theorem altered_put_file (hentry : t.entryAt? place = none) (hplace : files place)
    (content : List UInt8) : Altered directories files t (t.put place (.file content)) where
  directory_eq := rfl
  records other := by
    by_cases hother : other = place
    · subst hother
      have hnone := entryAt?_eq_none_iff.1 hentry
      refine .inr ⟨hnone, .inr ⟨hplace, t.freshNumber, t.unused_freshNumber, ?_⟩⟩
      exact record?_withRecord_self hnone
    · exact .inl (record?_put_of_ne t (.file content) hother)
  contents number := by
    by_cases hunused : t.Unused number
    · exact .inr (.inl hunused)
    · exact .inl (content_put_of_not_unused t (.file content) place hunused)

/-- Another content of a file alters this file only. -/
theorem altered_withContent (hrecord : t.record? place = some (.file number)) (hplace : files place)
    (content : List UInt8) : Altered directories files t (t.withContent number content) where
  directory_eq := rfl
  records _ := .inl rfl
  contents number' := by
    by_cases hnumber : number' = number
    · subst hnumber
      exact .inr (.inr ⟨place, hplace, hrecord⟩)
    · exact .inl (content_withContent_of_ne hnumber)

/-- Writing a file alters the file that its path leads to. -/
theorem altered_of_write {content : List UInt8} (h : t.write path content = .ok after)
    (hfile : ∀ place, t.locate path = .ok place → files place) :
    Altered directories files t after := by
  obtain ⟨place, hplace, hwritten⟩ := write_eq_ok h
  cases hwritten with
  | created hentry => exact altered_put_file hentry (hfile place hplace) content
  | replaced hrecord => exact altered_withContent hrecord (hfile place hplace) content

/-- What has been written is read again. -/
theorem read_of_write {content : List UInt8} (h : t.write path content = .ok after) :
    after.read path = .ok content := by
  have haltered : Altered (fun _ => False) (fun _ => True) t after :=
    altered_of_write h fun _ _ => trivial
  obtain ⟨place, hplace, hwritten⟩ := write_eq_ok h
  refine Except.bind_eq_ok.2 ⟨.file content, ?_, rfl⟩
  refine Except.bind_eq_ok.2 ⟨place, haltered.locate hplace, ?_⟩
  rw [hwritten.entryAt?_self]
  rfl

/-- The name that a path ends with is its last step. -/
theorem onWay_of_makeDirectory {parent : Place} {name : String}
    (hparent : t.locateParent path = .ok parent) (hname : path.name? = some name) :
    t.OnWay (path.route t.directory) (parent ++ [name]) := by
  obtain ⟨before, hsteps⟩ :=
    List.getLast?_eq_some_iff.1 (Option.filter_eq_some_iff.1 hname).1
  obtain ⟨-, hreach, -⟩ := locateParent_eq_ok.1 hparent
  have hway : t.OnWay ((path.parentRoute t.directory).extend [name]) (parent ++ [name]) := by
    rw [← enter_of_name? hname]
    exact onWay_of_travel hreach (.enter parent name [])
  refine hway.of_prefix rfl ?_
  rw [Route.extend, FilePath.parentRoute, hsteps, List.dropLast_concat, FilePath.route, hsteps]
  dsimp only
  split
  · rw [List.filter_append (before ++ [name])]
    exact List.prefix_append ..
  · exact List.prefix_refl _

/-- Making a directory alters a place on the way of its path. -/
theorem altered_of_makeDirectory (h : t.makeDirectory path = .ok after)
    (hdirectory : ∀ place, t.OnWay (path.route t.directory) place → directories place) :
    Altered directories files t after := by
  obtain ⟨parent, name, hparent, hname, hentry, rfl⟩ := makeDirectory_eq_ok h
  exact altered_put_directory hentry (hdirectory _ (onWay_of_makeDirectory hparent hname))

/-- Ensuring a directory alters no more than making it. -/
theorem altered_of_ensureDirectory (h : t.ensureDirectory path = .ok after)
    (hdirectory : ∀ place, t.OnWay (path.route t.directory) place → directories place) :
    Altered directories files t after := by
  unfold ensureDirectory at h
  split at h
  · next hmade =>
    cases h
    exact altered_of_makeDirectory hmade hdirectory
  · split at h
    · cases h
      exact altered_refl t
    · cases h

/-- Whether or not the directories can all be made, nothing else is altered. -/
theorem altered_ensureFirst {paths : List FilePath}
    (hpaths : ∀ path ∈ paths, ∀ place, t.OnWay (path.route t.directory) place → directories place) :
    Altered directories files t (t.ensureFirst paths).1 := by
  induction paths with
  | nil => exact altered_refl t
  | cons path above ih =>
    have hpath := hpaths path (List.mem_cons_self ..)
    have habove : Altered directories files t (t.ensureFirst above).1 :=
      ih fun path h => hpaths path (List.mem_cons_of_mem _ h)
    unfold ensureFirst
    split
    · next hmade => exact altered_of_ensureDirectory hmade hpath
    · split
      · next hfirst =>
        rw [hfirst] at habove
        exact habove
      · next hfirst =>
        rw [hfirst] at habove
        split
        · next hmade =>
          exact habove.trans (altered_of_ensureDirectory hmade fun place hplace =>
            hpath place (habove.onWay_route_iff.1 hplace))
        · exact habove
    · exact altered_refl t

/-- Making a directory with those above it alters nothing but places on the way to it. -/
theorem altered_makeDirectories (t : FileTree) (path : FilePath) :
    Altered (t.OnWay (path.route t.directory)) files t (t.makeDirectories path).1 :=
  altered_ensureFirst fun _ habove _ hplace =>
    have hroute := FilePath.route_of_mem_ancestors habove t.directory
    hplace.of_prefix hroute.1 hroute.2

end FileTree

end NeighborGraph
