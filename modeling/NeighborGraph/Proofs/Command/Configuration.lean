import NeighborGraph.Command.Run
import NeighborGraph.Proofs.Except

/-!
# The deciding configuration file

A configuration is looked for in several files in turn, and the first one that exists decides, be it
by a configuration or by a fault (`Workplace.Decides`, `Workplace.decides_iff`). Whatever is found
has been checked (`Workplace.check_of_findConfig`).
-/

namespace NeighborGraph

namespace Workplace

variable {w : Workplace} {named? : Option String} {path : FilePath}

/-- The files that may hold the configuration, in the order in which they are tried. -/
def candidates (w : Workplace) (named? : Option String) : List FilePath :=
  match named? with
  | some name => [⟨name⟩]
  | none => projectConfig :: w.userConfig?.toList

/-- The file is tried: those before it do not exist. -/
def Tries (w : Workplace) (named? : Option String) (path : FilePath) : Prop :=
  ∃ before later, w.candidates named? = before ++ path :: later ∧
    ∀ other ∈ before, w.files.contains other = false

/-- What a configuration file comes to: it cannot be read, it holds no configuration, it holds one
that cannot be used, or it holds one that can. -/
inductive Reads (w : Workplace) (path : FilePath) : Except Failure (Config Float) → Prop
  | unreadable {fault : FileFault} (hread : w.files.readText path = .error fault) :
    Reads w path (.error (.storage fault))
  | unparsable {text : String} (hread : w.files.readText path = .ok text)
    (hparse : Config.ofToml? text = none) : Reads w path (.error (.config .unreadable))
  | invalid {text : String} {config : Config Float} {fault : SettingFault Float}
    (hread : w.files.readText path = .ok text) (hparse : Config.ofToml? text = some config)
    (hcheck : config.check = .error fault) :
    Reads w path (.error (.config (.invalidFile fault.message)))
  | valid {text : String} {config : Config Float} (hread : w.files.readText path = .ok text)
    (hparse : Config.ofToml? text = some config) (hcheck : config.check = .ok ()) :
    Reads w path (.ok config)

/-- What the search for a configuration comes to: a file that is named has to exist; of the others
the first one that exists decides; if there is none, the configuration is the usual one. -/
inductive Decides (w : Workplace) : Option String → Except Failure (Config Float) → Prop
  | missing {name : String} (habsent : w.files.contains ⟨name⟩ = false) :
    Decides w (some name) (.error (.config (.missingFile name)))
  | first {named? : Option String} {path : FilePath} {result : Except Failure (Config Float)}
    (htries : w.Tries named? path) (hexists : w.files.contains path = true)
    (hreads : w.Reads path result) : Decides w named? result
  | usual (habsent : ∀ path ∈ w.candidates none, w.files.contains path = false) :
    Decides w none (.ok .default)

/-- What a configuration file comes to is told by its text alone. -/
theorem readConfig_of_text {text : String} (hread : w.files.readText path = .ok text) :
    w.readConfig path = (Config.ofToml? text).elim (.error (.config .unreadable)) fun config =>
      (config.check.mapError fun fault => .config (.invalidFile fault.message)).map
        fun _ => config := by
  rw [readConfig, Except.bind_of_eq_ok (Except.mapError_eq_ok.2 hread)]
  cases Config.ofToml? text with
  | none => rfl
  | some config => cases config.check <;> rfl

/-- A file reads as what it is read as. -/
theorem reads_iff {result : Except Failure (Config Float)} :
    w.Reads path result ↔ w.readConfig path = result := by
  constructor
  · intro h
    cases h with
    | unreadable hread =>
      rw [readConfig, hread]
      rfl
    | unparsable hread hparse =>
      rw [readConfig_of_text hread, hparse]
      rfl
    | invalid hread hparse hcheck | valid hread hparse hcheck =>
      rw [readConfig_of_text hread, hparse, Option.elim_some, hcheck]
      rfl
  · rintro rfl
    cases hread : w.files.readText path with
    | error fault =>
      rw [readConfig, hread]
      exact .unreadable hread
    | ok text =>
      rw [readConfig_of_text hread]
      cases hparse : Config.ofToml? text with
      | none => exact .unparsable hread hparse
      | some config =>
        rw [Option.elim_some]
        cases hcheck : config.check with
        | error fault => exact .invalid hread hparse hcheck
        | ok _ => exact .valid hread hparse hcheck

/-- The deciding file gives the configuration that is found. -/
theorem decides_iff {result : Except Failure (Config Float)} :
    w.Decides named? result ↔ w.findConfig named? = result := by
  constructor
  · intro h
    cases h with
    | missing habsent => rw [findConfig, habsent, if_neg Bool.false_ne_true]
    | @first _ path _ htries hexists hreads =>
      obtain ⟨before, later, hcandidates, hbefore⟩ := htries
      rw [← reads_iff.1 hreads]
      cases named? with
      | some name =>
        obtain ⟨rfl, h⟩ | ⟨_, rfl, h⟩ := List.cons_eq_append_iff.1 hcandidates
        · cases h
          rw [findConfig, hexists, if_pos rfl]
        · exact absurd h (by simp)
      | none =>
        have hfind : (projectConfig :: w.userConfig?.toList).find? w.files.contains = some path :=
          List.find?_eq_some_iff_append.2
            ⟨hexists, before, later, hcandidates, by simpa using hbefore⟩
        rw [findConfig, hfind]
    | usual habsent =>
      have hfind : (projectConfig :: w.userConfig?.toList).find? w.files.contains = none :=
        List.find?_eq_none.2 fun path hpath => by
          rw [habsent path hpath]
          exact Bool.false_ne_true
      rw [findConfig, hfind]
  · rintro rfl
    cases named? with
    | some name =>
      rw [findConfig]
      cases hexists : w.files.contains ⟨name⟩ with
      | true => exact .first ⟨[], [], rfl, nofun⟩ hexists (reads_iff.2 rfl)
      | false => exact .missing hexists
    | none =>
      rw [findConfig]
      cases hfind : (projectConfig :: w.userConfig?.toList).find? w.files.contains with
      | some path =>
        obtain ⟨hexists, before, later, hcandidates, hbefore⟩ :=
          List.find?_eq_some_iff_append.1 hfind
        exact .first ⟨before, later, hcandidates, by simpa using hbefore⟩ hexists (reads_iff.2 rfl)
      | none =>
        refine .usual fun path hpath => ?_
        simpa using List.find?_eq_none.1 hfind path hpath

/-- The configuration in effect has been checked. -/
theorem check_of_findConfig {config : Config Float} (h : w.findConfig named? = .ok config) :
    config.check = .ok () := by
  cases decides_iff.2 h with
  | first _ _ hreads =>
    cases hreads
    assumption
  | usual _ => exact Except.toOption_eq_some.1 (by decide +kernel)

end Workplace

end NeighborGraph
