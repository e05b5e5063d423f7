import NeighborGraph.Document.Json
import NeighborGraph.Proofs.Json.Written

/-!
# Documents that are written and read

Whatever the names of its nodes are, a document is found again in its text, with every identifier
that it has or has not and in its order: only the values of its links may come back as others
(`Document.toOption_ofJson_toJson`). If they do not, nothing is lost
(`Document.ofJson_toJson_eq_ok_iff`).
-/

namespace NeighborGraph

open Json

/-- The value that is written for a node. -/
def DocumentNode.written (node : DocumentNode) : Value :=
  .map (("name", .text node.name) :: (node.id.map fun id => ("id", Value.text id)).toList)

/-- The value that is written for a link. -/
def DocumentLink.written (link : DocumentLink) : Value :=
  .map [("source", .natural link.source), ("target", .natural link.target),
    ("value", .floating link.value)]

/-- The positions that a link refers to fit 64 bits. -/
structure DocumentLink.Fits (link : DocumentLink) : Prop where
  source_lt : link.source < wordLimit
  target_lt : link.target < wordLimit

/-- The link with the value that is found in what is written for its own, if one is found. -/
def DocumentLink.reread? (link : DocumentLink) : Option DocumentLink :=
  (Json.reread? link.value).map fun value => { link with value }

/-- A node that is written is read back as it is, whatever its name and its identifier. -/
theorem DocumentNode.takes_written (node : DocumentNode) (level : Nat) :
    Takes (readRecord form) (node.written.chars level) (some node) := by
  obtain ⟨name, id⟩ := node
  have hname := (takes_text name).field "name" fun name (node : DocumentNode) => { node with name }
  cases id with
  | none =>
    suffices hfills : Fills form [] form.start [("name", .text name)] (some ⟨name, none⟩) from
      hfills.takes level
    exact .taken rfl (by simp) (fun _ => hname) (.complete rfl)
  | some id =>
    have hid := ((takes_text id).option (by decide) (by decide)).field "id"
      fun id (node : DocumentNode) => { node with id }
    suffices hfills : Fills form [] form.start [("name", .text name), ("id", .text id)]
        (some ⟨name, some id⟩) from hfills.takes level
    exact .taken rfl (by simp) (fun _ => hname)
      (.taken rfl (by decide) (fun _ => hid) (.complete rfl))

/-- A link with ends that fit is read back, its value as far as numbers are read back. -/
theorem DocumentLink.Fits.takes_written {link : DocumentLink} (hlink : link.Fits) (level : Nat) :
    Takes (readRecord form) (link.written.chars level) link.reread? := by
  obtain ⟨source, target, value⟩ := link
  have hsource := (takes_natural hlink.source_lt "usize").field "source"
    fun source (link : DocumentLink) => { link with source }
  have htarget := (takes_natural hlink.target_lt "usize").field "target"
    fun target (link : DocumentLink) => { link with target }
  have hvalue := (takes_float value).field "value"
    fun value (link : DocumentLink) => { link with value }
  suffices hfills : Fills form [] form.start _ (reread? ⟨source, target, value⟩) from
    hfills.takes level
  refine .taken rfl (by simp) (fun _ => hsource) (.taken rfl (by decide) (fun _ => htarget) ?_)
  unfold reread?
  cases hread : Json.reread? value with
  | none =>
    rw [hread] at hvalue
    exact .refused rfl (by decide) fun _ => hvalue
  | some found =>
    rw [hread] at hvalue
    exact .taken rfl (by decide) (fun _ => hvalue) (.complete rfl)

namespace Document

/-- The document with the values that are found in what is written for the links. -/
def reread? (d : Document) : Option Document :=
  (d.links.mapM DocumentLink.reread?).map fun links => { d with links }

/-- A document with links that fit is read back, its values as far as numbers are read back. -/
theorem takes_toValue {d : Document} (hd : ∀ link ∈ d.links, link.Fits) (level : Nat) :
    Takes (readRecord form) (d.toValue.chars level) d.reread? := by
  obtain ⟨nodes, links⟩ := d
  have hnodes := fun level => (takes_list (fun node (_ : node ∈ nodes) => node.takes_written)
    level).field "nodes" fun nodes (d : Document) => { d with nodes }
  have hlinks := fun level => (takes_list (fun link h => (hd link h).takes_written)
    level).field "links" fun links (d : Document) => { d with links }
  have hall : nodes.mapM some = some nodes := by
    simpa using List.mapM_pure (m := Option) (l := nodes) (f := id)
  rw [hall] at hnodes
  suffices hfills : Fills form [] form.start _ (reread? ⟨nodes, links⟩) from hfills.takes level
  refine .taken rfl (by simp) hnodes ?_
  unfold reread?
  cases hread : links.mapM DocumentLink.reread? with
  | none =>
    rw [hread] at hlinks
    exact .refused rfl (by decide) hlinks
  | some found =>
    rw [hread] at hlinks
    exact .taken rfl (by decide) hlinks (.complete rfl)

/-- A document is read back as it is exactly if all its values are. -/
theorem reread?_eq_some_self_iff {d : Document} :
    d.reread? = some d ↔ ∀ link ∈ d.links, Json.reread? link.value = some link.value := by
  obtain ⟨nodes, links⟩ := d
  suffices h : links.mapM DocumentLink.reread? = some links ↔
      ∀ link ∈ links, Json.reread? link.value = some link.value by
    rw [← h, reread?]
    cases links.mapM DocumentLink.reread? <;> simp
  induction links with
  | nil => simp
  | cons link links ih =>
    obtain ⟨source, target, value⟩ := link
    rw [List.forall_mem_cons, ← ih, List.mapM_cons, DocumentLink.reread?]
    cases Json.reread? value <;> cases links.mapM DocumentLink.reread? <;> simp

/-- What is read from the text of a document. -/
theorem toOption_ofJson_toJson {d : Document} (hd : ∀ link ∈ d.links, link.Fits) :
    (ofJson d.toJson.toList).toOption = d.reread? := by
  have hread := takes_toValue hd 0 [] [] (by simp) parted_nil
  rw [List.nil_append, List.append_nil] at hread
  rw [toJson, Value.pretty, String.toList_ofList, ofJson, readWhole, Except.toOption_bind, hread]
  cases d.reread? <;> rfl

/-- A document is read back as it was written exactly if the values of its links are. -/
theorem ofJson_toJson_eq_ok_iff {d : Document} (hd : ∀ link ∈ d.links, link.Fits) :
    ofJson d.toJson.toList = .ok d ↔
      ∀ link ∈ d.links, Json.reread? link.value = some link.value := by
  rw [← reread?_eq_some_self_iff, ← toOption_ofJson_toJson hd, Except.toOption_eq_some]

/-- A name with quotes, escapes and a line feed, an identifier equal to a name, and the greatest
position that can be written. -/
theorem ofJson_toJson_escapes :
    let d : Document :=
      { nodes := [⟨"a \"b\" \\ \n\u0001", none⟩, ⟨"é𝄞", some "é𝄞"⟩, ⟨"", some "c"⟩],
        links := [⟨2 ^ 64 - 1, 0, 1.5⟩, ⟨7, 2, 40⟩] }
    (∀ link ∈ d.links, link.Fits) ∧ ofJson d.toJson.toList = .ok d := by
  intro d
  have hd : ∀ link ∈ d.links, link.Fits := by
    intro link hlink
    simp only [d, List.mem_cons, List.not_mem_nil, or_false] at hlink
    rcases hlink with rfl | rfl <;> exact ⟨by decide, by decide⟩
  refine ⟨hd, (ofJson_toJson_eq_ok_iff hd).2 ?_⟩
  intro link hlink
  simp only [d, List.mem_cons, List.not_mem_nil, or_false] at hlink
  rcases hlink with rfl | rfl <;> decide +kernel

end Document

end NeighborGraph
