import Mathlib.Data.List.Induction
import CallMap.Proofs.Neighbours
import CallMap.Proofs.Pass
import CallMap.Proofs.TableLinks

/-!
# One round of links

`Graph.linkTables` gives all nodes their tables at once. The same graph comes about link by link:
look up in the graph as it is which tables every node gets through its indexes, and then enter these
links one after the other. The graph changes under way, but the links do not, and a link that is
there already is passed over. So neither the order of the links nor their repetition matters, and
what is counted are the references that are new.

* `Graph.enterLink`: one link is entered and counted, unless it is there.
* `Graph.Enters.step`, `Graph.enters_foldl`: what entering links leaves, and the count.
* `Graph.linkTables_one_step`: what a round of linking does to a graph, and the number it gives.
-/

namespace CallMap.Graph

variable {graph : Graph} {state : Graph × Nat} {link : Symbol × Symbol}
  {links : List (Symbol × Symbol)} {source target : Symbol}

/-! ### Entering links -/

/-- Adds a reference to the node of a symbol if the node lacks it, and counts it. -/
def enterLink (state : Graph × Nat) (link : Symbol × Symbol) : Graph × Nat :=
  match state.1.node? link.1 with
  | some node =>
    if link.2 ∈ node.refs then state else (state.1.refer link.1 link.2, state.2 + 1)
  | none => state

/-- A link changes nothing, or it is new to a node that is there. -/
theorem enterLink_cases (state : Graph × Nat) (link : Symbol × Symbol) :
    (enterLink state link = state ∧
      (state.1.has link.1 = true → state.1.Refers link.1 link.2)) ∨
    (enterLink state link = (state.1.refer link.1 link.2, state.2 + 1) ∧
      state.1.has link.1 = true ∧ ¬state.1.Refers link.1 link.2) := by
  unfold enterLink
  rw [has_eq_isSome]
  cases hnode : state.1.node? link.1 with
  | none => simp
  | some node =>
    by_cases hmem : link.2 ∈ node.refs
    · simp [Refers.iff_of_node? hnode, hmem]
    · simp [Refers.iff_of_node? hnode, hmem]

/-- A new reference counts once. -/
theorem referenceCount_refer (hhas : graph.has source = true) (hnew : ¬graph.Refers source target) :
    (graph.refer source target).referenceCount = graph.referenceCount + 1 := by
  obtain ⟨gained, hnodup, hgained, hcount⟩ := @exists_gained graph (graph.refer source target)
    fun _ _ hrefers => refers_refer.mpr (.inl hrefers)
  -- The one reference that is gained is the new one.
  have hone : gained.Perm [(source, target)] := by
    rw [List.perm_ext_iff_of_nodup hnodup (List.nodup_singleton _)]
    rintro ⟨holder, other⟩
    rw [hgained, refers_refer, List.mem_singleton, Prod.mk.injEq]
    constructor
    · rintro ⟨hrefers | ⟨rfl, rfl, -⟩, hnot⟩
      · exact absurd hrefers hnot
      · exact ⟨rfl, rfl⟩
    · rintro ⟨rfl, rfl⟩
      exact ⟨.inr ⟨rfl, rfl, hhas⟩, hnew⟩
  rw [hcount, hone.length_eq, List.length_singleton]

/-- What is there after links have been entered into a graph, with the count. -/
structure Enters (graph : Graph) (links : List (Symbol × Symbol)) (state : Graph × Nat) : Prop where
  label (id : Symbol) : state.1.label? id = graph.label? id
  refers {source target : Symbol} : state.1.Refers source target ↔
    graph.Refers source target ∨ (source, target) ∈ links ∧ graph.has source = true
  used : state.1.used = graph.used
  count : state.1.referenceCount = graph.referenceCount + state.2

/-- Entering links adds no node. -/
theorem Enters.has (h : Enters graph links state) (id : Symbol) :
    state.1.has id = graph.has id := by
  rw [has_eq_isSome_label?, has_eq_isSome_label?, h.label]

/-- One more link keeps what is known of the state. -/
theorem Enters.step (h : Enters graph links state) :
    Enters graph (links ++ [link]) (enterLink state link) := by
  obtain ⟨source, target⟩ := link
  -- The links so far hold of the state, so it only matters whether the last one is among its
  -- references.
  have hlinks (holder other : Symbol) :
      (graph.Refers holder other ∨
        (holder, other) ∈ links ++ [(source, target)] ∧ graph.has holder = true) ↔
      state.1.Refers holder other ∨ holder = source ∧ other = target ∧
        state.1.has source = true := by
    rw [h.refers, h.has, List.mem_append, List.mem_singleton, Prod.mk.injEq, or_and_right, or_assoc]
    refine or_congr_right (or_congr_right ?_)
    rw [and_assoc]
    refine and_congr_right fun hholder => and_congr_right fun _ => ?_
    rw [hholder]
  rcases enterLink_cases state (source, target) with ⟨heq, hknown⟩ | ⟨heq, hhas, hnew⟩
  · rw [heq]
    refine ⟨h.label, ?_, h.used, h.count⟩
    intro holder other
    rw [hlinks, or_iff_left_of_imp]
    rintro ⟨rfl, rfl, hhas⟩
    exact hknown hhas
  · rw [heq]
    refine ⟨fun id => ?_, fun {holder other} => ?_, h.used, ?_⟩
    · rw [label?_refer, h.label]
    · rw [hlinks, refers_refer]
    · rw [referenceCount_refer hhas hnew, h.count, Nat.add_assoc]

/-- Entering links one after the other adds those that were not there, and counts them. -/
theorem enters_foldl (graph : Graph) (links : List (Symbol × Symbol)) :
    Enters graph links (links.foldl enterLink (graph, 0)) := by
  induction links using List.reverseRecOn with
  | nil => exact ⟨fun _ => rfl, by simp, rfl, rfl⟩
  | append_singleton links link ih =>
    rw [List.foldl_append]
    exact ih.step

/-- Links that are looked up first can be entered one after the other, in any order and more than
once. -/
theorem foldl_enterLink (h : ∀ source target, (source, target) ∈ links ↔
    target.kind = .table ∧ graph.LeadsThroughOne source target ∧ ¬graph.Refers source target) :
    links.foldl enterLink (graph, 0) = (graph.linkTables, graph.tableLinkCount) := by
  have henters := enters_foldl graph links
  have hgraph : (links.foldl enterLink (graph, 0)).1 = graph.linkTables := by
    refine eq_of_label?_eq_of_refers_iff (fun id => ?_) (fun source target => ?_) henters.used
    · rw [henters.label, label?_linkTables]
    · rw [henters.refers, refers_linkTables, h]
      refine or_congr_right' fun hnew => ?_
      constructor
      · rintro ⟨⟨htable, hleads, -⟩, -⟩
        exact ⟨htable, hleads⟩
      · rintro ⟨htable, index, hindex, hsource, htarget⟩
        -- What refers to an index has a node that can take the link.
        exact ⟨⟨htable, ⟨index, hindex, hsource, htarget⟩, hnew⟩, has_of_refers hsource⟩
  have hcount : (links.foldl enterLink (graph, 0)).2 = graph.tableLinkCount := by
    have hsum := henters.count
    rw [hgraph] at hsum
    rw [tableLinkCount, hsum, Nat.add_sub_cancel_left]
  rw [← hgraph, ← hcount]

/-! ### A round -/

/-- What a round of linking makes of a graph, and the number it gives. -/
structure LinkedOnce (graph : Graph) (count : Nat) (after : Graph) : Prop where
  /-- A node keeps its references, and it gets those tables that it led to through one index
  before. -/
  refers {source target : Symbol} : after.Refers source target ↔
    graph.Refers source target ∨ target.kind = .table ∧ graph.LeadsThroughOne source target
  /-- No node comes or goes. -/
  has (id : Symbol) : after.has id = graph.has id
  /-- No label changes. -/
  label (id : Symbol) : after.label? id = graph.label? id
  /-- No mark comes or goes. -/
  used : after.used = graph.used
  /-- The number is that of the references which have come in. -/
  counted : ∃ gained : List (Symbol × Symbol), gained.Nodup ∧ gained.length = count ∧
    ∀ source target, (source, target) ∈ gained ↔
      after.Refers source target ∧ ¬graph.Refers source target
  /-- Entering the links one by one comes to the same, in any order and with any repetitions. -/
  one_by_one (links : List (Symbol × Symbol)) :
    (∀ source target, (source, target) ∈ links ↔ target.kind = .table ∧
      graph.LeadsThroughOne source target ∧ ¬graph.Refers source target) →
    links.foldl enterLink (graph, 0) = (after, count)

/-- A round of linking always ends. It reaches the tables behind one index, as the graph was, and
counts the references that it adds. -/
theorem linkTables_one_step (graph : Graph) :
    ∃ count after, Analysis.linkTables.Ends graph count after ∧ LinkedOnce graph count after := by
  refine ⟨graph.tableLinkCount, graph.linkTables, ⟨rfl, rfl⟩, ?_⟩
  constructor
  case refers => exact refers_linkTables
  case has => exact graph.has_linkTables
  case label => exact graph.label?_linkTables
  case used => rfl
  case counted =>
    obtain ⟨links, hnodup, hlinks, hcount⟩ := graph.exists_links
    exact ⟨links, hnodup, hcount.symm, hlinks⟩
  case one_by_one =>
    intro links hlinks
    exact foldl_enterLink hlinks

-- A link that is met twice is entered once.
example :
    ([(⟨"outer", .index⟩, ⟨"deep", .table⟩), (⟨"outer", .index⟩, ⟨"deep", .table⟩)].foldl
      enterLink (sampleChain, 0)).2 = 1 := by decide +kernel

end CallMap.Graph
