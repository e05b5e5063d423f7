import NeighborGraph.Storage.FilePath

/-!
Files, directories and links as a value.

A path is followed step by step, and each step but the last has to lead to a directory. A step that
leads to a symbolic link goes on along the path that the link holds. A file may have several names;
what is written under one of them is read under all. Every operation says why it is refused, and a
refused one changes nothing; only `makeDirectories`, which makes several directories in turn, keeps
those that it has made. Permissions are left out, and so are devices, pipes and other processes: a
file that can be found can be read and written, and takes all that is written to it.
-/

namespace NeighborGraph

/-- What stands at a place. -/
inductive FileEntry where
  | directory
  | file (content : List UInt8)
  /-- A symbolic link. A relative path in it begins at the directory that the link is in. -/
  | link (target : FilePath)
  deriving DecidableEq

/-- What the name of a place stands for. A file is meant by its number, so that several names can be
those of the same file. -/
inductive FileRecord where
  | directory
  | file (number : Nat)
  | link (target : FilePath)
  deriving DecidableEq

/-- A number above that of the file, if it is one. -/
def FileRecord.bound : FileRecord → Nat
  | file number => number + 1
  | _ => 0

/-- The pairs with a value for a key, in the place of those for this key. -/
def assign {α β : Type} [BEq α] (pairs : List (α × β)) (key : α) (value : β) : List (α × β) :=
  pairs.filter (fun pair => pair.1 != key) ++ [(key, value)]

/-- Files, directories and links, each with its place. -/
structure FileTree where
  /-- The working directory. It and those above it are always there. -/
  directory : Place
  /-- What the names stand for; of two records for the same place the first one counts. -/
  records : List (Place × FileRecord)
  /-- The contents of the files by their numbers; a file without one is empty. -/
  contents : List (Nat × List UInt8)
  deriving DecidableEq

namespace FileTree

/-- What the name of a place stands for. -/
def record? (t : FileTree) (place : Place) : Option FileRecord :=
  if place.isPrefixOf t.directory then some .directory else t.records.lookup place

/-- The content of a file. -/
def content (t : FileTree) (number : Nat) : List UInt8 := (t.contents.lookup number).getD []

/-- What a record stands for. -/
def entry (t : FileTree) : FileRecord → FileEntry
  | .directory => .directory
  | .file number => .file (t.content number)
  | .link target => .link target

/-- What stands at a place. -/
def entryAt? (t : FileTree) (place : Place) : Option FileEntry := (t.record? place).map t.entry

/-- All that stands anywhere, with its place. -/
def entries (t : FileTree) : List (Place × FileEntry) :=
  t.records.map fun (place, record) => (place, t.entry record)

/-- A number that no file has. -/
def freshNumber (t : FileTree) : Nat :=
  t.records.foldr (fun record bound => max record.2.bound bound) 0

/-- The tree in which the name of a place stands for something else. -/
def withRecord (t : FileTree) (place : Place) (record : FileRecord) : FileTree :=
  { t with records := assign t.records place record }

/-- The tree in which a file has another content. -/
def withContent (t : FileTree) (number : Nat) (content : List UInt8) : FileTree :=
  { t with contents := assign t.contents number content }

/-- The tree with something new at a place. A file that is put there has no other name. -/
def put (t : FileTree) (place : Place) : FileEntry → FileTree
  | .directory => t.withRecord place .directory
  | .file content =>
    (t.withRecord place (.file t.freshNumber)).withContent t.freshNumber content
  | .link target => t.withRecord place (.link target)

/-- The tree of a working directory and of what stands at some places. -/
def ofEntries (directory : Place) (entries : List (Place × FileEntry)) : FileTree :=
  entries.foldl (fun t (place, entry) => t.put place entry) ⟨directory, [], []⟩

/-! ### Following paths -/

/-- The place that a step leads to from a directory; nothing need stand there. -/
def follow (t : FileTree) (place : Place) (step : String) : Except FileFault Place :=
  match t.entryAt? place with
  | none => .error .notFound
  | some .directory =>
    if FilePath.stepLimit < step.utf8ByteSize then .error .nameTooLong else .ok (place.enter step)
  | some _ => .error .notDirectory

/-- The path in the link that a step leads to, if it leads to one. Dots never do. -/
def link? (t : FileTree) (place : Place) (step : String) : Option FilePath :=
  if step = "." ∨ step = ".." then none
  else match t.entryAt? (place ++ [step]) with
    | some (.link target) => some target
    | _ => none

/-- Takes steps up to the first one that leads to a link, or to the last. -/
def advance (t : FileTree) : Place → List String → Except FileFault Progress
  | place, [] => .ok (.arrived place)
  | place, step :: steps => do
    let next ← t.follow place step
    match t.link? place step with
    | some target => return .turned ((target.route place).extend steps)
    | none => t.advance next steps

/-- The place that a route leads to; nothing need stand there. The number is that of the advances
that may be made, one more than that of the links on the way. -/
def travel (t : FileTree) : Nat → Route → Except FileFault Place
  | 0, _ => .error .tooManyLinks
  | advances + 1, route => do
    match ← t.advance route.start route.steps with
    | .arrived place => return place
    | .turned route => t.travel advances route

/-- No more links than this may be on a way. -/
def linkLimit : Nat := 40

/-- The place that a route leads to with no more links on the way than there may be. -/
def reach (t : FileTree) (route : Route) : Except FileFault Place := t.travel (linkLimit + 1) route

/-- The place that a path leads to; nothing need stand there. -/
def locate (t : FileTree) (path : FilePath) : Except FileFault Place := do
  path.check
  t.reach (path.route t.directory)

/-- The directory from which a path takes its last step. -/
def locateParent (t : FileTree) (path : FilePath) : Except FileFault Place := do
  path.check
  let place ← t.reach (path.parentRoute t.directory)
  t.follow place "."

/-! ### Looking at files -/

/-- What a path leads to. -/
def find (t : FileTree) (path : FilePath) : Except FileFault FileEntry := do
  match t.entryAt? (← t.locate path) with
  | none => throw .notFound
  | some entry => return entry

/-- The path leads to a file or directory. -/
def contains (t : FileTree) (path : FilePath) : Bool := (t.find path).toOption.isSome

/-- The path leads to a directory. -/
def hasDirectory (t : FileTree) (path : FilePath) : Bool :=
  (t.find path).toOption == some .directory

/-- The content of a file. -/
def read (t : FileTree) (path : FilePath) : Except FileFault (List UInt8) := do
  match ← t.find path with
  | .file content => return content
  | .directory => throw .isDirectory
  | .link _ => throw .tooManyLinks

/-- The content of a file as text. -/
def readText (t : FileTree) (path : FilePath) : Except FileFault String := do
  match String.fromUTF8? ⟨(← t.read path).toArray⟩ with
  | some text => return text
  | none => throw .notText

/-! ### Changing files -/

/-- Creates a file, or replaces its content, be it under this name or under the one that links lead
to. A name with a slash behind it cannot be that of a file. -/
def write (t : FileTree) (path : FilePath) (content : List UInt8) :
    Except FileFault FileTree := do
  let _ ← t.locateParent path
  if path.name?.isNone || path.endsWithSlash then throw .isDirectory
  let place ← t.locate path
  match t.record? place with
  | none => return t.put place (.file content)
  | some (.file number) => return t.withContent number content
  | some .directory => throw .isDirectory
  | some (.link _) => throw .tooManyLinks

/-- Creates a directory. A link in its place is not followed. -/
def makeDirectory (t : FileTree) (path : FilePath) : Except FileFault FileTree := do
  let parent ← t.locateParent path
  match path.name? with
  | none => throw .alreadyExists
  | some name =>
    let place ← t.follow parent name
    match t.entryAt? place with
    | some _ => throw .alreadyExists
    | none => return t.put place .directory

/-- The tree with a directory, created unless it is there. -/
def ensureDirectory (t : FileTree) (path : FilePath) : Except FileFault FileTree :=
  match t.makeDirectory path with
  | .ok t => .ok t
  | .error fault => if t.hasDirectory path then .ok t else .error fault

/-- Ensures the first of several directories, and for this purpose those that follow it if the way
to it is missing. -/
def ensureFirst (t : FileTree) : List FilePath → FileTree × Except FileFault Unit
  | [] => (t, .ok ())
  | path :: above =>
    match t.ensureDirectory path with
    | .ok t => (t, .ok ())
    | .error .notFound =>
      match t.ensureFirst above with
      | (t, .error fault) => (t, .error fault)
      | (t, .ok ()) =>
        match t.ensureDirectory path with
        | .ok t => (t, .ok ())
        | .error fault => (t, .error fault)
    | .error fault => (t, .error fault)

/-- Creates a directory and all directories above it, as far as they are missing. Those that have
been created stay if a later one cannot be. -/
def makeDirectories (t : FileTree) (path : FilePath) : FileTree × Except FileFault Unit :=
  t.ensureFirst path.ancestors

end FileTree

end NeighborGraph
