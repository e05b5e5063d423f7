import Mathlib.Data.String.Basic
import Mathlib.Data.Sym.Sym2.Order
import NeighborGraph.Observation.Tally
import NeighborGraph.Proofs.Document.Offences
import NeighborGraph.Proofs.FirstOccurrence
import NeighborGraph.Proofs.Text.ByteOrder

/-!
# What a tally holds

A tally keeps two orders apart: addresses are numbered in the order of their first appearance, and
the two ends of a pair are ordered by their texts. `Tally.ofList_eq` says outright which addresses
and totals come of a list of observations. As the ends of a pair have numbers of their own, the
packets of a pair come together whichever way they went (`Tally.addTotal_map`).
-/

namespace NeighborGraph

namespace Observation

/-- The addresses of an observation, the receiver before the sender. -/
def addresses (o : Observation) : List String := [o.destination, o.source]

/-- The two ends of an observation, in no order. -/
def ends (o : Observation) : Sym2 String := s(o.destination, o.source)

/-- The addresses that are observed, in the order of their first appearance. -/
def names (os : List Observation) : List String := (os.flatMap addresses).eraseDups

/-- The pairs that are observed, in the order of their first appearance. -/
def pairs (os : List Observation) : List (Sym2 String) := (os.map ends).eraseDups

/-- The packets that are observed between two ends, added up in order beginning with zero. -/
def total (os : List Observation) (pair : Sym2 String) : Float :=
  ((os.filter fun o => o.ends = pair).map (·.packets)).foldl (· + ·) 0

/-- The numbers of the ends of a pair, the end with the smaller text first. -/
def key (os : List Observation) (pair : Sym2 String) : AddressPair :=
  ((names os).idxOf pair.inf, (names os).idxOf pair.sup)

/-- No address is named twice. -/
theorem nodup_names (os : List Observation) : (names os).Nodup := List.nodup_eraseDups _

/-- No pair is listed twice. -/
theorem nodup_pairs (os : List Observation) : (pairs os).Nodup := List.nodup_eraseDups _

/-- Both ends of a pair are among the addresses. -/
theorem mem_names_of_mem_pairs {os : List Observation} {pair : Sym2 String} (h : pair ∈ pairs os) :
    pair.inf ∈ names os ∧ pair.sup ∈ names os := by
  obtain ⟨o, ho, rfl⟩ := List.mem_map.1 (List.mem_eraseDups.1 h)
  have hmem : ∀ a, a = o.destination ∨ a = o.source → a ∈ names os := by
    intro a ha
    refine List.mem_eraseDups.2 (List.mem_flatMap.2 ⟨o, ho, ?_⟩)
    simpa [addresses] using ha
  exact ⟨hmem _ (min_choice _ _), hmem _ (max_choice _ _)⟩

/-- The numbers of two observed pairs are different if the pairs are. -/
theorem eq_of_key_eq {os : List Observation} {pair pair' : Sym2 String} (h : pair ∈ pairs os)
    (hkey : key os pair = key os pair') : pair = pair' := by
  obtain ⟨hinf, hsup⟩ := mem_names_of_mem_pairs h
  obtain ⟨hfirst, hsecond⟩ := Prod.mk.inj hkey
  exact Sym2.inf_eq_inf_and_sup_eq_sup.1
    ⟨(List.idxOf_inj hinf).1 hfirst, (List.idxOf_inj hsup).1 hsecond⟩

/-! ## One more observation -/

/-- Further observations leave the addresses in their places. -/
theorem names_prefix (os more : List Observation) : names os <+: names (os ++ more) := by
  rw [names, names, List.flatMap_append]
  exact List.eraseDups_prefix_append _ _

/-- The numbers of addresses do not change. -/
theorem idxOf_names_append {os : List Observation} {a : String} (h : a ∈ names os)
    (more : List Observation) : (names (os ++ more)).idxOf a = (names os).idxOf a := by
  obtain ⟨rest, hrest⟩ := names_prefix os more
  rw [← hrest, List.idxOf_append_of_mem h]

/-- A further observation adds its pair at the end, unless it is there. -/
theorem pairs_concat (os : List Observation) (o : Observation) :
    pairs (os ++ [o]) = if o.ends ∈ pairs os then pairs os else pairs os ++ [o.ends] := by
  rw [pairs, List.map_append, List.map_singleton, List.eraseDups_concat]
  simp only [pairs, List.mem_eraseDups]

/-- A further observation adds its packets to those of its pair. -/
theorem total_concat (os : List Observation) (o : Observation) (pair : Sym2 String) :
    total (os ++ [o]) pair =
      if o.ends = pair then total os pair + o.packets else total os pair := by
  unfold total
  rw [List.filter_append]
  by_cases h : o.ends = pair <;> simp [h]

/-- A pair that has not been observed has no packets. -/
theorem total_of_not_mem {os : List Observation} {pair : Sym2 String} (h : pair ∉ pairs os) :
    total os pair = 0 := by
  have hnone : (os.filter fun o => o.ends = pair) = [] := by
    refine List.filter_eq_nil_iff.2 fun o ho he => h ?_
    rw [← of_decide_eq_true he]
    exact List.mem_eraseDups.2 (List.mem_map.2 ⟨o, ho, rfl⟩)
  rw [total, hnone]
  rfl

end Observation

namespace Tally

open Observation (names pairs total key)

/-- Entering an address adds it at the end, unless it is there. -/
theorem addresses_enter {t : Tally} {l : List String} (h : t.addresses = l.eraseDups) (a : String) :
    (t.enter a).addresses = (l ++ [a]).eraseDups := by
  have hmem : t.addresses.contains a = true ↔ a ∈ l := by
    rw [h, List.contains_iff_mem, List.mem_eraseDups]
  rw [List.eraseDups_concat, enter]
  by_cases ha : a ∈ l
  · rw [if_pos (hmem.2 ha), if_pos ha, h]
  · rw [if_neg (mt hmem.1 ha), if_neg ha, h]

/-- Entering an address leaves the numbers of packets. -/
theorem totals_enter (t : Tally) (a : String) : (t.enter a).totals = t.totals := by
  unfold enter
  split <;> rfl

/-- Packets are added to the total of the pair that has the number, and to no other, if pairs have
numbers of their own; a pair that is new comes last. -/
theorem addTotal_map {β : Type} [DecidableEq β] {number : β → AddressPair} {value : β → Float}
    {p : β} (packets : Float) {l : List β} (hnd : l.Nodup)
    (hnumber : ∀ q ∈ l, number q = number p → q = p) (hnew : p ∉ l → value p = 0) :
    addTotal (number p) packets (l.map fun q => (number q, value q)) =
      (if p ∈ l then l else l ++ [p]).map fun q =>
        (number q, if p = q then value q + packets else value q) := by
  induction l with
  | nil => simp [addTotal, hnew]
  | cons q rest ih =>
    obtain ⟨hq, hrest⟩ := List.nodup_cons.1 hnd
    rw [List.map_cons, addTotal]
    by_cases he : q = p
    · subst he
      have hsame : ∀ r ∈ rest, (number r, if q = r then value r + packets else value r) =
          (number r, value r) := by
        intro r hr
        rw [if_neg (ne_of_mem_of_not_mem hr hq).symm]
      rw [if_pos rfl, if_pos (List.mem_cons_self ..), List.map_cons, if_pos rfl,
        List.map_congr_left hsame]
    · have hne : number q ≠ number p := fun h => he (hnumber q (List.mem_cons_self ..) h)
      have hmem : p ∈ q :: rest ↔ p ∈ rest := by simp [Ne.symm he]
      rw [if_neg hne, ih hrest (fun r hr => hnumber r (List.mem_cons_of_mem _ hr))
        fun h => hnew (mt hmem.1 h)]
      by_cases hp : p ∈ rest
      · rw [if_pos hp, if_pos (hmem.2 hp), List.map_cons, if_neg (Ne.symm he)]
      · rw [if_neg hp, if_neg (mt hmem.1 hp), List.cons_append, List.map_cons, if_neg (Ne.symm he)]

/-- The number of the pair of an observation puts the end with the smaller text first. -/
theorem pair_eq_key {t : Tally} {os : List Observation} (h : t.addresses = names os)
    (o : Observation) : t.pair o = key os o.ends := by
  unfold pair key number Observation.ends
  rw [h, Sym2.inf_mk, Sym2.sup_mk]
  split
  · next hle => rw [min_eq_left hle, max_eq_right hle]
  · next hle =>
    have hle' := le_of_not_ge hle
    rw [min_eq_right hle', max_eq_left hle']

/-- The tally of a list of observations has the addresses in the order of their first appearance,
and for each pair, in the same order, the packets between its ends. -/
theorem ofList_eq (os : List Observation) :
    ofList os = ⟨names os, (pairs os).map fun pair => (key os pair, total os pair)⟩ := by
  induction os using List.reverseRecOn with
  | nil => rfl
  | append_singleton os o ih =>
    have hentered : (((ofList os).enter o.destination).enter o.source).addresses =
        names (os ++ [o]) := by
      have hnames : (ofList os).addresses = (os.flatMap Observation.addresses).eraseDups := by
        rw [ih, names]
      rw [addresses_enter (addresses_enter hnames _), names, List.flatMap_append,
        List.flatMap_singleton, Observation.addresses, List.append_assoc, List.singleton_append]
    have hkeys : ∀ pair ∈ pairs os, (key os pair, total os pair) =
        (key (os ++ [o]) pair, total os pair) := by
      intro pair hpair
      obtain ⟨hinf, hsup⟩ := Observation.mem_names_of_mem_pairs hpair
      rw [key, key, Observation.idxOf_names_append hinf, Observation.idxOf_names_append hsup]
    have hnumber : ∀ pair ∈ pairs os, key (os ++ [o]) pair = key (os ++ [o]) o.ends →
        pair = o.ends := by
      intro pair hpair hkey
      refine Observation.eq_of_key_eq (List.mem_eraseDups.2 ?_) hkey
      rw [List.map_append]
      exact List.mem_append_left _ (List.mem_eraseDups.1 hpair)
    have htotals : (((ofList os).enter o.destination).enter o.source).totals =
        (pairs os).map fun pair => (key (os ++ [o]) pair, total os pair) := by
      rw [totals_enter, totals_enter, ih]
      exact List.map_congr_left hkeys
    have hlast : ofList (os ++ [o]) = (ofList os).observe o := by
      rw [ofList, List.foldl_append]
      rfl
    have hadd := addTotal_map o.packets (Observation.nodup_pairs os) hnumber
      Observation.total_of_not_mem
    rw [hlast, observe, pair_eq_key hentered, hentered, htotals]
    refine congrArg (Tally.mk _) (hadd.trans ?_)
    rw [Observation.pairs_concat]
    simp only [Observation.total_concat]

/-! ## The document of a tally -/

/-- The document of some observations has their addresses as nodes and their pairs as links. -/
theorem toDocument_ofList (os : List Observation) :
    (ofList os).toDocument = ⟨(names os).map .named, (pairs os).map fun pair =>
      ⟨(names os).idxOf pair.inf, (names os).idxOf pair.sup, total os pair⟩⟩ := by
  rw [ofList_eq, toDocument, List.map_map]
  rfl

/-- The document of a tally has distinct identifiers, and its links refer to its nodes. -/
theorem orderly_toDocument (os : List Observation) : (ofList os).toDocument.Orderly := by
  rw [toDocument_ofList]
  refine ⟨?_, fun l hl => ?_⟩
  · rw [List.map_map, show DocumentNode.identifier ∘ DocumentNode.named = id from rfl, List.map_id]
    exact Observation.nodup_names os
  · obtain ⟨pair, hpair, rfl⟩ := List.mem_map.1 hl
    obtain ⟨hinf, hsup⟩ := Observation.mem_names_of_mem_pairs hpair
    rw [List.length_map]
    exact ⟨List.idxOf_lt_length_iff.2 hinf, List.idxOf_lt_length_iff.2 hsup⟩

/-- Over every list of observations: the nodes are the addresses in the order of their first
appearance, and the links are the pairs in theirs, each from the address with the smaller bytes to
the other one, with the packets of both directions added up in order. Addresses keep their numbers
as more is observed. The document has a graph, unless a total cannot be a weight; the first such
total is reported. -/
theorem document_of_observations (os : List Observation) :
    let document := (ofList os).toDocument
    document.nodes = (names os).map .named ∧ (names os).Nodup ∧
    document.links = (pairs os).map (fun pair =>
      ⟨(names os).idxOf pair.inf, (names os).idxOf pair.sup, total os pair⟩) ∧ (pairs os).Nodup ∧
    (∀ pair ∈ pairs os, s(pair.inf, pair.sup) = pair ∧ pair.inf.utf8 ≤ pair.sup.utf8 ∧
      (names os)[(names os).idxOf pair.inf]? = some pair.inf ∧
      (names os)[(names os).idxOf pair.sup]? = some pair.sup) ∧
    (∀ more, (ofList os).addresses <+: (ofList (os ++ more)).addresses ∧
      ∀ a ∈ names os, (ofList (os ++ more)).number a = (ofList os).number a) ∧
    (ofList os).addressCount = document.nodes.length ∧
    ((∀ l ∈ document.links, Scalar.isMagnitude l.value = true) → ∃ g, document.toGraph = .ok g) ∧
    ∀ before l after, document.links = before ++ l :: after →
      (∀ m ∈ before, Scalar.isMagnitude m.value = true) → Scalar.isMagnitude l.value = false →
      document.toGraph = .error (.badWeight before.length l.value) := by
  intro document
  have hdocument := toDocument_ofList os
  have horderly := orderly_toDocument os
  refine ⟨congrArg (·.nodes) hdocument, Observation.nodup_names os, congrArg (·.links) hdocument,
    Observation.nodup_pairs os, fun pair hpair => ?_, fun more => ⟨?_, fun a ha => ?_⟩, ?_,
    horderly.exists_toGraph, fun _ _ _ => horderly.toGraph_eq_error⟩
  · obtain ⟨hinf, hsup⟩ := Observation.mem_names_of_mem_pairs hpair
    refine ⟨Sym2.sortEquiv.left_inv pair, String.le_iff_utf8_le.1 pair.inf_le_sup, ?_, ?_⟩
    · exact List.getElem?_idxOf hinf
    · exact List.getElem?_idxOf hsup
  · rw [ofList_eq, ofList_eq]
    exact Observation.names_prefix os more
  · rw [ofList_eq, ofList_eq]
    exact Observation.idxOf_names_append ha more
  · exact (List.length_map ..).symm

example : (ofList [⟨"a", "b", 1⟩, ⟨"b", "a", 2⟩, ⟨"c", "c", 0.5⟩]).toDocument =
    ⟨[.named "b", .named "a", .named "c"], [⟨1, 0, 3⟩, ⟨2, 2, 0.5⟩]⟩ := by
  decide +kernel

end Tally

end NeighborGraph
