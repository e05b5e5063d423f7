import NeighborGraph.Json.Record
import NeighborGraph.Proofs.Except

/-!
# What readers of records keep

Whether a record is read from an object or from a list, it comes of its start by reading fields one
after another. A property of the start that every field keeps holds of each record that is read
(`RecordForm.Keeps.readRecord`).
-/

namespace NeighborGraph.Json

variable {σ : Type}

/-- A property of records that a field keeps, whatever it reads. -/
def Field.Keeps (field : Field σ) (P : σ → Prop) : Prop :=
  ∀ ⦃text put rest record⦄, field.read text = .ok (put, rest) → P record → P (put record)

/-- A property of the record before reading that every field keeps. -/
structure RecordForm.Keeps (form : RecordForm σ) (P : σ → Prop) : Prop where
  start : P form.start
  field : ∀ field ∈ form.fields, field.Keeps P

variable {form : RecordForm σ} {P : σ → Prop}

/-- A mandatory field keeps a property that its values cannot spoil. -/
theorem Field.keeps_mandatory {α : Type} {read : Reader α} {put : α → σ → σ}
    (h : ∀ ⦃text value rest record⦄, read text = .ok (value, rest) → P record →
      P (put value record)) (name : String) : Field.Keeps (.mandatory name read put) P := by
  intro text put' rest record hread hrecord
  change (read text).map _ = _ at hread
  cases hvalue : read text with
  | error fault =>
    rw [hvalue] at hread
    cases hread
  | ok found =>
    rw [hvalue] at hread
    cases hread
    exact h hvalue hrecord

namespace RecordForm.Keeps

/-- A property that every field keeps is kept by a member of an object. -/
theorem readMember (h : form.Keeps P) {seen seen' : List String} {record record' : σ}
    {text rest : List Char} (hrecord : P record)
    (hread : readMember form seen record text = .ok (record', seen', rest)) : P record' := by
  obtain ⟨⟨key, text⟩, -, hread⟩ := Except.bind_eq_ok.1 hread
  dsimp only at hread
  split at hread
  · next field hfield =>
    split at hread
    · cases hread
    · obtain ⟨text, -, hread⟩ := Except.bind_eq_ok.1 hread
      obtain ⟨⟨put, text⟩, hvalue, hread⟩ := Except.bind_eq_ok.1 hread
      cases hread
      exact h.field field (List.mem_of_find?_eq_some hfield) hvalue hrecord
  · obtain ⟨text, -, hread⟩ := Except.bind_eq_ok.1 hread
    obtain ⟨text, -, hread⟩ := Except.bind_eq_ok.1 hread
    cases hread
    exact hrecord

/-- So it is by all members of an object. -/
theorem readMembers (h : form.Keeps P) {fuel : Nat} {first : Bool} {seen : List String}
    {record record' : σ} {text rest : List Char} (hrecord : P record)
    (hread : readMembers form fuel first seen record text = .ok (record', rest)) : P record' := by
  induction fuel generalizing first seen record text with
  | zero => cases hread
  | succ fuel ih =>
    have hnext : ∀ {seen' : List String} {middle : σ} {before after : List Char},
        Json.readMember form seen record before = .ok (middle, seen', after) →
        Json.readMembers form fuel false seen' middle after = .ok (record', rest) → P record' :=
      fun hmember hread => ih (h.readMember hrecord hmember) hread
    rw [Json.readMembers] at hread
    split at hread
    · cases hread
    · split at hread
      · cases hread
      · cases hread
        exact hrecord
    · split at hread
      · split at hread
        · obtain ⟨_, hmember, hread⟩ := Except.bind_eq_ok.1 hread
          exact hnext hmember hread
        · cases hread
      · split at hread
        · split at hread
          · obtain ⟨_, hmember, hread⟩ := Except.bind_eq_ok.1 hread
            exact hnext hmember hread
          all_goals cases hread
        · cases hread

/-- So it is by all fields of a list. -/
theorem readFields {fields : List (Field σ)} (h : ∀ field ∈ fields, field.Keeps P) {title : String}
    {index : Nat} {record record' : σ} {text rest : List Char} (hrecord : P record)
    (hread : readFields title fields index record text = .ok (record', rest)) : P record' := by
  induction fields generalizing index record text with
  | nil =>
    cases hread
    exact hrecord
  | cons field fields ih =>
    have hfields : ∀ field ∈ fields, field.Keeps P :=
      fun field hfield => h field (List.mem_cons_of_mem _ hfield)
    obtain ⟨⟨more, text⟩, -, hread⟩ := Except.bind_eq_ok.1 hread
    dsimp only at hread
    split at hread
    · obtain ⟨⟨put, text⟩, hvalue, hread⟩ := Except.bind_eq_ok.1 hread
      exact ih hfields (h field (List.mem_cons_self ..) hvalue hrecord) hread
    · split at hread
      · cases hread
      · exact ih hfields hrecord hread

/-- What every field keeps holds of each record that is read. -/
theorem readRecord (h : form.Keeps P) {record : σ} {text rest : List Char}
    (hread : readRecord form text = .ok (record, rest)) : P record := by
  unfold Json.readRecord at hread
  split at hread
  · exact h.readMembers h.start (Except.mapError_eq_ok.1 hread)
  · obtain ⟨⟨found, text⟩, hfields, hread⟩ := Except.bind_eq_ok.1 (Except.mapError_eq_ok.1 hread)
    obtain ⟨text, -, hread⟩ := Except.bind_eq_ok.1 hread
    cases hread
    exact readFields h.field h.start hfields
  · cases hread

end RecordForm.Keeps

end NeighborGraph.Json
