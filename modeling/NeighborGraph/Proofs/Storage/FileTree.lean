import NeighborGraph.Proofs.Storage.FilePath
import NeighborGraph.Proofs.Storage.Route

/-!
# What file operations do

A place that gets something new has it, and nothing else is touched (`FileTree.entryAt?_put_self`,
`FileTree.entryAt?_put_of_ne`), as the number of a new file is that of no other
(`FileTree.unused_freshNumber`). The content of a file is the same under all its names
(`FileTree.entryAt?_withContent`). Writing a file and making a directory come down to these two
changes (`FileTree.write_eq_ok`, `FileTree.makeDirectory_eq_ok`), of which a file that is written is
one or the other (`FileTree.Written`).
-/

namespace NeighborGraph

section

variable {α β : Type} [BEq α] [LawfulBEq α] {pairs : List (α × β)} {key other : α} {value : β}

/-- A value that is assigned is found. -/
theorem lookup_assign_self : (assign pairs key value).lookup key = some value := by
  have hnone : (pairs.filter (fun pair => pair.1 != key)).lookup key = none := by
    refine List.lookup_eq_none_iff.2 fun pair hpair => ?_
    have hne := (List.mem_filter.1 hpair).2
    rw [bne_iff_ne] at hne
    exact bne_iff_ne.2 fun h => hne h.symm
  rw [assign, List.lookup_append, hnone, Option.none_or, List.lookup_cons, beq_self_eq_true]

/-- What is assigned to a key is nothing to other keys. -/
theorem lookup_assign_of_ne (h : other ≠ key) :
    (assign pairs key value).lookup other = pairs.lookup other := by
  have hne : (other == key) = false := beq_eq_false_iff_ne.2 h
  rw [assign, List.lookup_append, List.lookup_cons, hne, List.lookup_nil, Option.or_none]
  induction pairs with
  | nil => rfl
  | cons pair pairs ih =>
    obtain ⟨first, old⟩ := pair
    by_cases hfirst : first = key
    · subst hfirst
      rw [List.filter_cons_of_neg (by simp), List.lookup_cons, hne, ih]
    · rw [List.filter_cons_of_pos (by simpa using hfirst), List.lookup_cons, List.lookup_cons, ih]

end

namespace FileTree

variable {t after : FileTree} {path : FilePath} {place other : Place} {number : Nat}
  {entry : FileEntry} {content : List UInt8}

/-! ## Records -/

/-- Nothing stands where there is no record. -/
theorem entryAt?_eq_none_iff : t.entryAt? place = none ↔ t.record? place = none :=
  Option.map_eq_none_iff

/-- A directory stands where there is a record of one. -/
theorem entryAt?_eq_directory_iff :
    t.entryAt? place = some .directory ↔ t.record? place = some .directory := by
  unfold entryAt?
  rw [Option.map_eq_some_iff]
  constructor
  · rintro ⟨_ | _ | _, hrecord, h⟩
    · exact hrecord
    · cases h
    · cases h
  · exact fun h => ⟨_, h, rfl⟩

/-- A link stands where there is a record of it. -/
theorem entryAt?_eq_link_iff {target : FilePath} :
    t.entryAt? place = some (.link target) ↔ t.record? place = some (.link target) := by
  unfold entryAt?
  rw [Option.map_eq_some_iff]
  constructor
  · rintro ⟨_ | _ | _, hrecord, h⟩
    · cases h
    · cases h
    · cases h
      exact hrecord
  · exact fun h => ⟨_, h, rfl⟩

/-- A file stands where there is a record of one with this content. -/
theorem entryAt?_eq_file_iff : t.entryAt? place = some (.file content) ↔
    ∃ number, t.record? place = some (.file number) ∧ t.content number = content := by
  unfold entryAt?
  rw [Option.map_eq_some_iff]
  constructor
  · rintro ⟨_ | number | _, hrecord, h⟩
    · cases h
    · cases h
      exact ⟨number, hrecord, rfl⟩
    · cases h
  · rintro ⟨number, h, rfl⟩
    exact ⟨_, h, rfl⟩

/-- Where something new can stand, no directory is always there. -/
theorem not_isPrefixOf (h : t.record? place = none) : place.isPrefixOf t.directory = false := by
  cases hprefix : place.isPrefixOf t.directory with
  | false => rfl
  | true =>
    rw [record?, hprefix, if_pos rfl] at h
    cases h

/-- A place has the record that it is given. -/
theorem record?_withRecord_self {record : FileRecord} (h : t.record? place = none) :
    (t.withRecord place record).record? place = some record := by
  rw [record?, withRecord, not_isPrefixOf h, if_neg Bool.false_ne_true, lookup_assign_self]

/-- A record for one place is nothing to other places. -/
theorem record?_withRecord_of_ne {record : FileRecord} (h : other ≠ place) :
    (t.withRecord place record).record? other = t.record? other := by
  rw [record?, record?, withRecord, lookup_assign_of_ne h]

@[simp] theorem record?_withContent (t : FileTree) (number : Nat) (content : List UInt8) :
    (t.withContent number content).record? place = t.record? place := rfl

@[simp] theorem content_withContent_self (t : FileTree) (number : Nat) (content : List UInt8) :
    (t.withContent number content).content number = content := by
  rw [FileTree.content, withContent, lookup_assign_self, Option.getD_some]

/-- The content of one file is nothing to other files. -/
theorem content_withContent_of_ne {number' : Nat} (h : number' ≠ number) :
    (t.withContent number content).content number' = t.content number' := by
  rw [FileTree.content, withContent, lookup_assign_of_ne h, FileTree.content]

/-! ## Files and their names -/

/-- The number is that of no file. -/
def Unused (t : FileTree) (number : Nat) : Prop := ∀ place, t.record? place ≠ some (.file number)

/-- The two places have names of the same file. -/
def SameFile (t : FileTree) (place other : Place) : Prop :=
  ∃ number, t.record? place = some (.file number) ∧ t.record? other = some (.file number)

/-- A number that is chosen for a new file is that of no other one. -/
theorem unused_freshNumber (t : FileTree) : t.Unused t.freshNumber := by
  have hbound {records : List (Place × FileRecord)} {place : Place} {record : FileRecord}
      (h : records.lookup place = some record) :
      record.bound ≤ records.foldr (fun record bound => max record.2.bound bound) 0 := by
    induction records with
    | nil => cases h
    | cons first records ih =>
      obtain ⟨at_, old⟩ := first
      rw [List.lookup_cons] at h
      rw [List.foldr_cons]
      split at h
      · cases h
        exact Nat.le_max_left ..
      · exact Nat.le_trans (ih h) (Nat.le_max_right ..)
  intro place h
  rw [record?] at h
  split at h
  · cases h
  · exact Nat.not_succ_le_self _ (hbound h)

/-- What the content of a file is to the places of a tree. -/
theorem entryAt?_withContent (t : FileTree) (number : Nat) (content : List UInt8) (place : Place) :
    (t.withContent number content).entryAt? place =
      if t.record? place = some (.file number) then some (.file content) else t.entryAt? place := by
  unfold entryAt?
  rw [record?_withContent]
  rcases t.record? place with _ | _ | number' | target
  · rfl
  · rfl
  · by_cases hnumber : number' = number
    · subst hnumber
      rw [if_pos rfl, Option.map_some, FileTree.entry, content_withContent_self]
    · rw [if_neg (by simpa using hnumber), Option.map_some, FileTree.entry,
        content_withContent_of_ne hnumber, Option.map_some, FileTree.entry]
  · rfl

/-- A place has what is put there. -/
theorem entryAt?_put_self (h : t.entryAt? place = none) (entry : FileEntry) :
    (t.put place entry).entryAt? place = some entry := by
  rw [entryAt?_eq_none_iff] at h
  cases entry with
  | directory => exact entryAt?_eq_directory_iff.2 (record?_withRecord_self h)
  | file content =>
    exact entryAt?_eq_file_iff.2
      ⟨t.freshNumber, record?_withRecord_self h, content_withContent_self _ _ content⟩
  | link target => exact entryAt?_eq_link_iff.2 (record?_withRecord_self h)

/-- The names of other places stand for what they did. -/
theorem record?_put_of_ne (t : FileTree) (entry : FileEntry) (h : other ≠ place) :
    (t.put place entry).record? other = t.record? other := by
  cases entry with
  | directory | link target => exact record?_withRecord_of_ne h
  | file content =>
    rw [put, record?_withContent]
    exact record?_withRecord_of_ne h

/-- The files that are there keep their contents. -/
theorem content_put_of_not_unused (t : FileTree) (entry : FileEntry) (place : Place)
    (h : ¬ t.Unused number) : (t.put place entry).content number = t.content number := by
  cases entry with
  | directory | link target => rfl
  | file content => exact content_withContent_of_ne fun hfresh => h (hfresh ▸ t.unused_freshNumber)

/-- What is put at one place is nothing to other places. -/
theorem entryAt?_put_of_ne (t : FileTree) (entry : FileEntry) (h : other ≠ place) :
    (t.put place entry).entryAt? other = t.entryAt? other := by
  unfold entryAt?
  rw [record?_put_of_ne t entry h]
  rcases hrecord : t.record? other with _ | _ | number | target
  · rfl
  · rfl
  · rw [Option.map_some, Option.map_some, FileTree.entry, FileTree.entry,
      content_put_of_not_unused t entry place fun hunused => hunused other hrecord]
  · rfl

@[simp] theorem directory_put (t : FileTree) (place : Place) (entry : FileEntry) :
    (t.put place entry).directory = t.directory := by
  cases entry <;> rfl

/-- A directory shares no file. -/
theorem sameFile_put_directory (hentry : t.entryAt? place = none) {first second : Place} :
    (t.put place .directory).SameFile first second ↔ t.SameFile first second := by
  have hrecord (other : Place) (number : Nat) :
      (t.put place .directory).record? other = some (.file number) ↔
        t.record? other = some (.file number) := by
    by_cases hother : other = place
    · subst hother
      rw [entryAt?_eq_directory_iff.1 (entryAt?_put_self hentry .directory),
        entryAt?_eq_none_iff.1 hentry]
      exact ⟨nofun, nofun⟩
    · rw [record?_put_of_ne t .directory hother]
  exact exists_congr fun number => and_congr (hrecord first number) (hrecord second number)

/-- A new file has no other name. -/
theorem sameFile_put_file (hentry : t.entryAt? place = none) (content : List UInt8)
    {first second : Place} : (t.put place (.file content)).SameFile first second ↔
      first = place ∧ second = place ∨
        first ≠ place ∧ second ≠ place ∧ t.SameFile first second := by
  have hself : (t.put place (.file content)).record? place = some (.file t.freshNumber) :=
    record?_withRecord_self (entryAt?_eq_none_iff.1 hentry)
  have hother {other : Place} (hne : other ≠ place) :
      (t.put place (.file content)).record? other = t.record? other :=
    record?_put_of_ne t _ hne
  by_cases hfirst : first = place <;> by_cases hsecond : second = place
  · subst hfirst hsecond
    exact ⟨fun _ => .inl ⟨rfl, rfl⟩, fun _ => ⟨_, hself, hself⟩⟩
  · subst hfirst
    refine ⟨fun ⟨number, hnumber, hrecord⟩ => ?_, by simp [hsecond]⟩
    rw [hself] at hnumber
    rw [hother hsecond] at hrecord
    cases hnumber
    exact absurd hrecord (t.unused_freshNumber second)
  · subst hsecond
    refine ⟨fun ⟨number, hrecord, hnumber⟩ => ?_, by simp [hfirst]⟩
    rw [hself] at hnumber
    rw [hother hfirst] at hrecord
    cases hnumber
    exact absurd hrecord (t.unused_freshNumber first)
  · rw [SameFile, hother hfirst, hother hsecond]
    simp [hfirst, hsecond, SameFile]

/-! ## Operations -/

/-- The place of a path is the one that its route leads to. -/
theorem locate_eq_ok : t.locate path = .ok place ↔
    path.check = .ok () ∧ t.reach (path.route t.directory) = .ok place := by
  rw [locate, Except.bind_eq_ok]
  exact ⟨fun ⟨_, hcheck, h⟩ => ⟨hcheck, h⟩, fun ⟨hcheck, h⟩ => ⟨(), hcheck, h⟩⟩

/-- The directory of a path is one, and its last step is taken from there. -/
theorem locateParent_eq_ok : t.locateParent path = .ok place ↔
    path.check = .ok () ∧ t.reach (path.parentRoute t.directory) = .ok place ∧
      t.entryAt? place = some .directory := by
  rw [locateParent, Except.bind_eq_ok]
  constructor
  · rintro ⟨_, hcheck, h⟩
    obtain ⟨before, hreach, h⟩ := Except.bind_eq_ok.1 h
    obtain ⟨hentry, -, hplace⟩ := follow_eq_ok.1 h
    rw [enter_dot] at hplace
    subst hplace
    exact ⟨hcheck, hreach, hentry⟩
  · rintro ⟨hcheck, hreach, hentry⟩
    refine ⟨(), hcheck, Except.bind_eq_ok.2 ⟨place, hreach, ?_⟩⟩
    exact follow_eq_ok.2 ⟨hentry, by decide, (enter_dot place).symm⟩

/-- From one tree to another a file is written: a new one is put at a place where nothing is, or the
one that is there gets another content. -/
inductive Written (t : FileTree) (place : Place) (content : List UInt8) : FileTree → Prop
  | created (hentry : t.entryAt? place = none) :
    Written t place content (t.put place (.file content))
  | replaced {number : Nat} (hrecord : t.record? place = some (.file number)) :
    Written t place content (t.withContent number content)

/-- The file that has been written is there. -/
theorem Written.entryAt?_self (h : t.Written place content after) :
    after.entryAt? place = some (.file content) := by
  cases h with
  | created hentry => exact entryAt?_put_self hentry _
  | replaced hrecord => rw [entryAt?_withContent, if_pos hrecord]

/-- What is at other places stays, but for other names of the file. -/
theorem Written.entryAt?_of_ne (h : t.Written place content after) (hne : other ≠ place)
    (hfile : ¬ t.SameFile place other) : after.entryAt? other = t.entryAt? other := by
  cases h with
  | created => exact entryAt?_put_of_ne t _ hne
  | replaced hrecord =>
    rw [entryAt?_withContent, if_neg]
    exact fun hother => hfile ⟨_, hrecord, hother⟩

/-- No two places come to have names of the same file. -/
theorem Written.sameFile (h : t.Written place content after) {first second : Place}
    (hsame : after.SameFile first second) : first = second ∨ t.SameFile first second := by
  cases h with
  | created hentry =>
    obtain ⟨rfl, rfl⟩ | ⟨-, -, hsame⟩ := (sameFile_put_file hentry content).1 hsame
    · exact .inl rfl
    · exact .inr hsame
  | replaced => exact .inr hsame

/-- All that writing to a path does is to write the file that the path leads to. -/
theorem write_eq_ok (h : t.write path content = .ok after) :
    ∃ place, t.locate path = .ok place ∧ t.Written place content after := by
  obtain ⟨parent, -, h⟩ := Except.bind_eq_ok.1 h
  split at h
  · cases h
  · obtain ⟨place, hplace, h⟩ := Except.bind_eq_ok.1 h
    refine ⟨place, hplace, ?_⟩
    split at h
    · next hrecord =>
      cases h
      exact .created (entryAt?_eq_none_iff.2 hrecord)
    · next hrecord =>
      cases h
      exact .replaced hrecord
    · cases h
    · cases h

/-- All that making a directory does: it is put where nothing is. -/
theorem makeDirectory_eq_ok (h : t.makeDirectory path = .ok after) :
    ∃ parent name, t.locateParent path = .ok parent ∧ path.name? = some name ∧
      t.entryAt? (parent ++ [name]) = none ∧ after = t.put (parent ++ [name]) .directory := by
  obtain ⟨parent, hparent, h⟩ := Except.bind_eq_ok.1 h
  cases hname : path.name? with
  | none =>
    rw [hname] at h
    cases h
  | some name =>
    rw [hname] at h
    obtain ⟨place, hfollow, h⟩ := Except.bind_eq_ok.1 h
    rw [(follow_eq_ok.1 hfollow).2.2, enter_of_name? hname] at h
    refine ⟨parent, name, hparent, rfl, ?_⟩
    split at h
    · cases h
    · next hentry => exact ⟨hentry, (Except.ok.inj h).symm⟩

/-! ## Names in a directory -/

/-- The directory in which the names are that are joined to a path. For the empty path, this is the
working directory. -/
def directoryOf (t : FileTree) (path : FilePath) : Except FileFault Place :=
  t.reach ⟨path.origin t.directory, path.steps⟩

/-- A name in a directory leads to what stands under it, unless a link does. -/
theorem locate_child {name : String} (hname : FilePath.IsStep name) (hdot : name ≠ ".")
    (hdots : name ≠ "..") (h : t.locate (path.child name) = .ok place) :
    ∃ directory, t.directoryOf path = .ok directory ∧
      (place = directory ++ [name] ∨
        ∃ target, t.entryAt? (directory ++ [name]) = some (.link target)) := by
  rw [locate_eq_ok, FilePath.route_child path hname] at h
  obtain ⟨directory, left, hdirectory, hlast⟩ := exists_of_travel_append h.2
  refine ⟨directory, hdirectory, ?_⟩
  cases hlink : t.link? directory name with
  | none =>
    rw [(follow_eq_ok.1 (travel_singleton hlast hlink)).2.2, enter_of_ne hdot hdots]
    exact .inl rfl
  | some target => exact .inr ⟨target, (link?_eq_some.1 hlink).2.2⟩

end FileTree

end NeighborGraph
