import NeighborGraph.Proofs.Document.RoundTrip
import NeighborGraph.Proofs.Json.Record
import NeighborGraph.Proofs.Observation.Lines
import NeighborGraph.Proofs.Observation.Tally

/-!
# Logs that are converted and loaded

Packet counts are magnitudes, so that no total is below zero or undefined
(`Observation.zero_le_total`); a total can only be infinite, or have more digits than a reader of
numbers keeps. What has been converted is therefore loaded as the graph that the log describes
exactly if every total is found again in its own text (`ObservationLog.read_toJson_iff`).
-/

namespace NeighborGraph

open Json

/-! ## Observations -/

/-- A number of packets that has been read is finite and not negative. -/
theorem isMagnitude_of_readPacketCount {text rest : List Char} {count : Float}
    (h : readPacketCount text = .ok (count, rest)) : Scalar.isMagnitude count = true := by
  obtain ⟨⟨found, text⟩, -, h⟩ := Except.bind_eq_ok.1 h
  dsimp only at h
  split at h
  · next hcount =>
    cases h
    exact hcount
  · cases h

/-- Packet counts are magnitudes: the one that is read, and the zero before it is. -/
theorem Observation.keeps_form : form.Keeps fun o => Scalar.isMagnitude o.packets = true where
  start := by decide +kernel
  field := by
    intro field hfield
    simp only [form, List.mem_cons, List.not_mem_nil, or_false] at hfield
    rcases hfield with rfl | rfl | rfl
    · refine Field.keeps_mandatory ?_ "s"
      intro text source rest o _ ho
      exact ho
    · refine Field.keeps_mandatory ?_ "d"
      intro text destination rest o _ ho
      exact ho
    · refine Field.keeps_mandatory ?_ "pk"
      intro text packets rest o hread _
      exact isMagnitude_of_readPacketCount hread

/-- So is that of an observation that has been read. -/
theorem Observation.isMagnitude_of_ofJson {text : List Char} {o : Observation}
    (h : ofJson text = .ok o) : Scalar.isMagnitude o.packets = true := by
  obtain ⟨⟨found, rest⟩, hread, h⟩ := Except.bind_eq_ok.1 h
  dsimp only at h
  split at h <;> cases h
  exact keeps_form.readRecord hread

/-- The total of a pair is not below zero if no packet count is. -/
theorem Observation.zero_le_total {os : List Observation}
    (h : ∀ o ∈ os, Scalar.isMagnitude o.packets = true) (pair : Sym2 String) :
    0 ≤ total os pair := by
  refine Double.zero_le_foldl_add (fun packets hpackets => ?_) (by decide +kernel)
  obtain ⟨o, ho, rfl⟩ := List.mem_map.1 hpackets
  exact ((Double.isMagnitude_iff _).1 (h o (List.mem_filter.1 ho).1)).2

/-! ## Logs -/

namespace ObservationLog

/-- The packet counts of all observations of lines are magnitudes. -/
theorem isMagnitude_of_heard? {lines : List (List UInt8)} {os : List Observation}
    (h : heard? lines = some os) : ∀ o ∈ os, Scalar.isMagnitude o.packets = true := by
  induction lines generalizing os with
  | nil =>
    cases h
    exact List.forall_mem_nil _
  | cons line lines ih =>
    rw [heard?_cons, Option.bind_eq_some_iff] at h
    obtain ⟨entry, hentry, h⟩ := h
    obtain ⟨os, hos, rfl⟩ := Option.map_eq_some_iff.1 h
    refine List.forall_mem_append.2 ⟨fun o ho => ?_, ih hos⟩
    obtain ⟨text, hread⟩ := ofJson_of_said? (Option.mem_toList.1 ho ▸ hentry)
    exact Observation.isMagnitude_of_ofJson hread

/-- The document of a log is that of some observations with such numbers. -/
theorem toDocument_eq_ok {log : List UInt8} {d : Document} (h : toDocument log = .ok d) :
    ∃ os : List Observation, d = (Tally.ofList os).toDocument ∧
      ∀ o ∈ os, Scalar.isMagnitude o.packets = true := by
  rw [← Except.toOption_eq_some, toOption_toDocument, Option.map_eq_some_iff] at h
  obtain ⟨os, hos, rfl⟩ := h
  exact ⟨os, rfl, isMagnitude_of_heard? hos⟩

end ObservationLog

/-! ## Loading what has been written -/

namespace Document

/-- A document that is loaded from its text with the graph that it has itself has been read
unchanged. -/
theorem reread?_eq_some_of_read {d : Document} (hd : ∀ link ∈ d.links, link.Fits) {g : Graph Float}
    (hread : Graph.read d.toJson = .ok g) (hgraph : d.toGraph = .ok g) :
    ∀ link ∈ d.links, Json.reread? link.value = some link.value := by
  obtain ⟨found, hfound, hread⟩ := Except.bind_eq_ok.1 hread
  have hjson := Except.mapError_eq_ok.1 (Except.mapError_eq_ok.1 hfound)
  have hlinks := links_of_toGraph (Except.mapError_eq_ok.1 hread)
  rw [links_of_toGraph hgraph] at hlinks
  have hreread := Except.toOption_eq_some.2 hjson
  rw [toOption_ofJson_toJson hd] at hreread
  -- nothing but the links could have been read differently, and the graph shows them
  obtain ⟨links, -, rfl⟩ := Option.map_eq_some_iff.1 hreread
  cases hlinks
  exact reread?_eq_some_self_iff.1 hreread

/-- A document that is read unchanged has the graph that is loaded from its text. -/
theorem read_toJson {d : Document} (hd : ∀ link ∈ d.links, link.Fits)
    (h : ∀ link ∈ d.links, Json.reread? link.value = some link.value) :
    Graph.read d.toJson = d.toGraph.mapError .graph := by
  have hjson : ofJson d.toJson.toList = .ok d := by
    rw [← Except.toOption_eq_some, toOption_ofJson_toJson hd, reread?_eq_some_self_iff.2 h]
  rw [Graph.read, Document.read, hjson]
  rfl

end Document

/-- What is converted from a log is loaded again as the graph of the document itself exactly if
every total is found again in what is written for it. -/
theorem ObservationLog.read_toJson_iff {log : List UInt8} {d : Document}
    (h : toDocument log = .ok d) (hsize : d.nodes.length ≤ wordLimit) :
    (∃ g, Graph.read d.toJson = .ok g ∧ d.toGraph = .ok g) ↔
      ∀ link ∈ d.links, Json.reread? link.value = some link.value := by
  obtain ⟨os, rfl, hcounts⟩ := toDocument_eq_ok h
  have horderly := Tally.orderly_toDocument os
  have hfits : ∀ link ∈ (Tally.ofList os).toDocument.links, link.Fits := by
    intro link hlink
    obtain ⟨hsource, htarget⟩ := horderly.lt_length link hlink
    exact ⟨Nat.lt_of_lt_of_le hsource hsize, Nat.lt_of_lt_of_le htarget hsize⟩
  constructor
  · rintro ⟨g, hread, hgraph⟩
    exact Document.reread?_eq_some_of_read hfits hread hgraph
  · intro hreread
    have hvalues : ∀ link ∈ (Tally.ofList os).toDocument.links,
        Scalar.isMagnitude link.value = true := by
      intro link hlink
      refine (Double.isMagnitude_iff _).2 ⟨isFinite_of_reread? (hreread link hlink), ?_⟩
      rw [Tally.toDocument_ofList] at hlink
      obtain ⟨pair, -, rfl⟩ := List.mem_map.1 hlink
      exact Observation.zero_le_total hcounts pair
    obtain ⟨g, hgraph⟩ := horderly.exists_toGraph hvalues
    refine ⟨g, ?_, hgraph⟩
    rw [Document.read_toJson hfits hreread, hgraph]
    rfl

/-- Two lines about one pair, in both directions. -/
theorem ObservationLog.read_toJson_onePair :
    let log := "\x7b\"s\":\"a\",\"d\":\"b\",\"pk\":1.5\x7d\n[\"b\",\"a\",40]".toUTF8.toList
    ∃ d, toDocument log = .ok d ∧ d.nodes.length ≤ wordLimit ∧
      ∃ g, Graph.read d.toJson = .ok g ∧ d.toGraph = .ok g := by
  intro log
  have hd : toDocument log = .ok ⟨[.named "b", .named "a"], [⟨1, 0, 41.5⟩]⟩ :=
    Except.toOption_eq_some.1 (by decide +kernel)
  have hsize : 2 ≤ wordLimit := by decide
  refine ⟨_, hd, hsize, (read_toJson_iff hd hsize).2 fun link hlink => ?_⟩
  rw [List.mem_singleton.1 hlink]
  decide +kernel

/-- A total of sixteen digits is written with one more behind the point; of the seventeen digits
that are read then, the last binary place is lost. -/
theorem ObservationLog.not_read_toJson_sixteenDigits :
    let log := "\x7b\"s\":\"a\",\"d\":\"b\",\"pk\":7205759403792799\x7d".toUTF8.toList
    ∃ d, toDocument log = .ok d ∧ d.nodes.length ≤ wordLimit ∧
      ¬ ∃ g, Graph.read d.toJson = .ok g ∧ d.toGraph = .ok g := by
  intro log
  have hd : toDocument log =
      .ok ⟨[.named "b", .named "a"], [⟨1, 0, 7205759403792799⟩]⟩ :=
    Except.toOption_eq_some.1 (by decide +kernel)
  refine ⟨_, hd, by decide, ?_⟩
  rintro ⟨g, hread, hgraph⟩
  have hfits : ∀ link ∈ [(⟨1, 0, 7205759403792799⟩ : DocumentLink)], link.Fits := by
    intro link hlink
    rw [List.mem_singleton.1 hlink]
    exact ⟨by decide, by decide⟩
  have hreread := Document.reread?_eq_some_of_read hfits hread hgraph _ (List.mem_cons_self ..)
  exact absurd hreread (by decide +kernel)

end NeighborGraph
