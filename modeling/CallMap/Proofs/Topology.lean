import Mathlib.Data.Set.Card
import CallMap.Graph.Topology
import CallMap.Proofs.TableLinks

/-!
# The view by numbers

A graph is followed through a view in which nodes are numbers. The numbers are given out in one pass
over the listing and the edges are added in another one, and callers are found by going through the
edges backwards. What is found in this way is what the nodes themselves say.

* `Topology.IsNumbered`: symbols and numbers belong together one to one.
* `Topology.Links`: there is an edge between the numbers of two symbols.
* `Topology.ofGraph_spec`: which edges the two passes leave.
* `Topology.links_ofGraph`: symbols are linked if one refers to the other and both have nodes.
* `Topology.view_faithful`: the lists of callers and callees, and the number of edges.
-/

namespace CallMap

/-! ### References of listed nodes -/

namespace Graph

variable {graph : Graph} {source target : Symbol}

/-- References are those of the listed nodes. -/
theorem refers_iff_mem_listing : graph.Refers source target ↔
    ∃ node ∈ graph.listing, target ∈ node.refs ∧ node.id = source := by
  constructor
  · rintro ⟨node, hnode, htarget⟩
    -- A node stands under its own symbol, which is the one it was looked up by.
    have hid := graph.keyed source node hnode
    exact ⟨node, mem_listing.mpr (hid ▸ hnode), htarget, hid⟩
  · rintro ⟨node, hnode, htarget, rfl⟩
    exact ⟨node, mem_listing.mp hnode, htarget⟩

end Graph

/-! ### Lists without repetitions -/

namespace Symbol

variable {symbols : List Symbol} {id : Symbol}

/-- Dropping repeats loses no symbol. -/
@[simp]
theorem mem_dropRepeats : id ∈ dropRepeats symbols ↔ id ∈ symbols := by
  fun_induction dropRepeats symbols with
  | case1 second rest ih => simp [ih]
  | case2 first second rest hne ih => simp [ih]
  | case3 symbols => rfl

/-- Repetitions stand next to each other where symbols ascend by key, so dropping them leaves an
order that is strict. -/
theorem pairwise_dropRepeats (h : symbols.Pairwise fun a b => a.key ≤ b.key) :
    (dropRepeats symbols).Pairwise fun a b => a.key < b.key := by
  fun_induction dropRepeats symbols with
  | case1 second rest ih => exact ih h.of_cons
  | case2 first second rest hne ih =>
    obtain ⟨hfirst, hrest⟩ := List.pairwise_cons.mp h
    -- Sorted symbols that differ have keys that differ, since a key tells its symbol.
    have hlt : first.key < second.key := by
      refine String.not_le.mp fun hge => hne (key_injective ?_)
      exact String.le_antisymm (hfirst second (List.mem_cons_self ..)) hge
    refine List.pairwise_cons.mpr ⟨fun id hid => ?_, ih hrest⟩
    rcases List.mem_cons.mp (mem_dropRepeats.mp hid) with rfl | hid
    · exact hlt
    · -- The key of the second symbol lies between the two.
      have hle := (List.pairwise_cons.mp hrest).1 id hid
      exact String.not_le.mp fun hge => String.not_le.mpr hlt (String.le_trans hle hge)
  | case3 symbols hshort =>
    match symbols, hshort with
    | [], _ => exact .nil
    | [_], _ => exact List.pairwise_singleton ..
    | first :: second :: rest, hshort => exact absurd rfl (hshort first second rest)

/-- Sorting by key, whether or not there are repetitions. -/
theorem pairwise_sortByKey_le (symbols : List Symbol) :
    (sortByKey symbols).Pairwise fun a b => a.key ≤ b.key := by
  have hsorted := @List.pairwise_mergeSort Symbol (fun a b => decide (a.key ≤ b.key))
    (fun a b c => by simpa using String.le_trans)
    (fun a b => by simpa using String.le_total a.key b.key) symbols
  simpa only [sortByKey, decide_eq_true_eq] using hsorted

end Symbol

namespace Topology

variable {topology : Topology} {graph : Graph} {id source target : Symbol}

/-! ### Numbers -/

/-- Symbols and numbers belong together one to one. -/
def IsNumbered (topology : Topology) : Prop :=
  ∀ (id : Symbol) (number : Nat), topology.numbers[id]? = some number ↔
    topology.ids[number]? = some id

theorem isNumbered_empty : ({} : Topology).IsNumbered := by
  intro id number
  simp

/-- A new node gets the next number. -/
theorem IsNumbered.addNode (h : topology.IsNumbered) (hnew : id ∉ topology.ids) :
    (topology.addNode id).IsNumbered := by
  intro other number
  have hnumbers : (topology.addNode id).numbers[other]? =
      if id = other then some topology.ids.size else topology.numbers[other]? := by
    simp only [Topology.addNode, Std.ExtTreeMap.getElem?_insert, Std.LawfulEqCmp.compare_eq_iff_eq]
  have hids : (topology.addNode id).ids[number]? =
      if number = topology.ids.size then some id else topology.ids[number]? :=
    Array.getElem?_push
  rw [hnumbers, hids]
  split <;> split
  next hid hnumber => simp [hid, hnumber]
  next hid hnumber =>
    -- The symbol had no number before.
    have hother : topology.ids[number]? ≠ some other := fun hfound =>
      hnew (hid ▸ Array.mem_of_getElem? hfound)
    simp [hother, Ne.symm hnumber]
  next hid hnumber =>
    -- The number belonged to no symbol before.
    have hother : topology.numbers[other]? ≠ some number := by
      rw [Ne, h other number, hnumber]
      simp
    simp [hother, hid]
  next => exact h other number

/-- Symbols that are all different get their numbers one after the other. -/
theorem IsNumbered.foldl_addNode (h : topology.IsNumbered) (ids : List Symbol)
    (hids : (topology.ids.toList ++ ids).Nodup) :
    (ids.foldl Topology.addNode topology).IsNumbered ∧
      (ids.foldl Topology.addNode topology).ids.toList = topology.ids.toList ++ ids := by
  induction ids generalizing topology with
  | nil => exact ⟨h, (List.append_nil _).symm⟩
  | cons id rest ih =>
    -- The number is free, since no symbol comes twice.
    have hnew : id ∉ topology.ids := by
      rw [← Array.mem_toList_iff]
      exact fun hold => (List.disjoint_of_nodup_append hids) hold (List.mem_cons_self ..)
    have hpush : (topology.addNode id).ids.toList = topology.ids.toList ++ [id] := Array.toList_push
    have hrest := ih (h.addNode hnew) (by simpa [hpush] using hids)
    rw [hpush, List.append_assoc] at hrest
    exact hrest

/-- Numbering nodes adds no edges. -/
theorem edges_foldl_addNode (ids : List Symbol) (topology : Topology) :
    (ids.foldl addNode topology).edges = topology.edges := by
  induction ids generalizing topology with
  | nil => rfl
  | cons id rest ih => exact ih (topology.addNode id)

/-! ### Edges -/

/-- The edges for the references of a node. -/
def edgesOf (numbers : Std.ExtTreeMap Symbol Nat) (node : Node) : List (Nat × Nat) :=
  match numbers[node.id]? with
  | some source => (node.sortedRefs.filterMap fun target => numbers[target]?).map (source, ·)
  | none => []

/-- A node brings an edge for each target that has a number. -/
theorem foldl_addEdge (source : Nat) (targets : List Symbol) (topology : Topology) :
    targets.foldl (addEdge source) topology =
      { topology with
        edges := topology.edges ++
          ((targets.filterMap fun target =>
            topology.numbers[target]?).map (source, ·)).toArray } := by
  induction targets generalizing topology with
  | nil => simp
  | cons target rest ih =>
    rw [List.foldl_cons, ih, addEdge]
    cases hnumber : topology.numbers[target]? with
    | none => simp [hnumber]
    | some number => simp [hnumber]

/-- The edges of one node are those from its own number. -/
theorem addEdges_eq (topology : Topology) (node : Node) :
    topology.addEdges node =
      { topology with edges := topology.edges ++ (edgesOf topology.numbers node).toArray } := by
  unfold addEdges edgesOf
  cases topology.numbers[node.id]? with
  | none => simp
  | some source => exact foldl_addEdge source node.sortedRefs topology

/-- The edges of several nodes follow one another. -/
theorem foldl_addEdges (nodes : List Node) (topology : Topology) :
    nodes.foldl addEdges topology =
      { topology with
        edges := topology.edges ++ (nodes.flatMap (edgesOf topology.numbers)).toArray } := by
  induction nodes generalizing topology with
  | nil => simp
  | cons node rest ih =>
    rw [List.foldl_cons, ih, addEdges_eq]
    simp

/-- The edges of the view of a graph, node by node, and the symbols, which the second pass does not
touch. -/
theorem ofGraph_spec (graph : Graph) :
    (ofGraph graph).IsNumbered ∧ (ofGraph graph).ids.toList = graph.listing.map Node.id ∧
      (ofGraph graph).edges.toList = graph.listing.flatMap (edgesOf (ofGraph graph).numbers) := by
  have hfirst := isNumbered_empty.foldl_addNode (graph.listing.map Node.id)
    (by simpa using graph.nodup_map_id_listing)
  have hnone := edges_foldl_addNode (graph.listing.map Node.id) {}
  rw [ofGraph, foldl_addEdges]
  refine ⟨fun id number => hfirst.1 id number, hfirst.2, ?_⟩
  simp [hnone]

/-! ### Links -/

/-- There is an edge between the numbers of two symbols. -/
def Links (topology : Topology) (source target : Symbol) : Prop :=
  ∃ start stop, topology.numbers[source]? = some start ∧ topology.numbers[target]? = some stop ∧
    (start, stop) ∈ topology.edges.toList

/-- Neighbours are what stands at the other end of an edge. -/
theorem mem_neighbours {direction : Direction} {other : Symbol} :
    other ∈ topology.neighbours direction id ↔ ∃ number far, topology.numbers[id]? = some number ∧
      far ∈ topology.opposite number direction ∧ topology.ids[far]? = some other := by
  unfold neighbours
  cases hnumber : topology.numbers[id]? with
  | none => simp
  | some number => simp [(Symbol.sortByKey_perm _).mem_iff]

/-- Neighbours are sorted by key, each once. -/
theorem pairwise_neighbours (topology : Topology) (direction : Direction) (id : Symbol) :
    (topology.neighbours direction id).Pairwise fun a b => a.key < b.key := by
  unfold neighbours
  split
  · exact Symbol.pairwise_dropRepeats (Symbol.pairwise_sortByKey_le _)
  · exact .nil

/-- Edges are followed in their own direction. -/
theorem IsNumbered.mem_callees (h : topology.IsNumbered) :
    target ∈ topology.callees source ↔ topology.Links source target := by
  rw [callees, mem_neighbours]
  simp only [opposite, List.mem_map, List.mem_filter, beq_iff_eq, Prod.exists, ← h target]
  constructor
  · rintro ⟨number, _, hsource, ⟨_, _, ⟨hedge, rfl⟩, rfl⟩, htarget⟩
    exact ⟨_, _, hsource, htarget, hedge⟩
  · rintro ⟨number, other, hsource, htarget, hedge⟩
    exact ⟨number, other, hsource, ⟨number, other, ⟨hedge, rfl⟩, rfl⟩, htarget⟩

/-- Edges are followed backwards. -/
theorem IsNumbered.mem_callers (h : topology.IsNumbered) :
    source ∈ topology.callers target ↔ topology.Links source target := by
  rw [callers, mem_neighbours]
  simp only [opposite, List.mem_map, List.mem_filter, beq_iff_eq, Prod.exists, ← h source]
  constructor
  · rintro ⟨number, _, htarget, ⟨_, _, ⟨hedge, rfl⟩, rfl⟩, hsource⟩
    exact ⟨_, _, hsource, htarget, hedge⟩
  · rintro ⟨other, number, hsource, htarget, hedge⟩
    exact ⟨number, other, htarget, ⟨other, number, ⟨hedge, rfl⟩, rfl⟩, hsource⟩

/-! ### The view of a graph -/

/-- In the topology of a graph, numbers and symbols belong together. -/
theorem isNumbered_ofGraph (graph : Graph) : (ofGraph graph).IsNumbered :=
  (ofGraph_spec graph).1

/-- The symbols with a number are those with a node. -/
theorem isSome_number_iff : (ofGraph graph).numbers[id]?.isSome = true ↔ graph.has id = true := by
  obtain ⟨hnumbered, hids, -⟩ := ofGraph_spec graph
  rw [Option.isSome_iff_exists, Graph.has_iff]
  simp only [hnumbered id, ← Array.getElem?_toList, ← List.mem_iff_getElem?, hids, List.mem_map]

/-- A node has an edge to every target that has a number. -/
theorem mem_edgesOf {numbers : Std.ExtTreeMap Symbol Nat} {node : Node} {start stop : Nat} :
    (start, stop) ∈ edgesOf numbers node ↔ numbers[node.id]? = some start ∧
      ∃ target ∈ node.refs, numbers[target]? = some stop := by
  unfold edgesOf
  cases numbers[node.id]? with
  | none => simp
  | some source => simp [eq_comm, and_comm]

/-- Edges stand for the references from one node to another. -/
theorem links_ofGraph :
    (ofGraph graph).Links source target ↔ graph.has target = true ∧ graph.Refers source target := by
  obtain ⟨hnumbered, -, hedges⟩ := ofGraph_spec graph
  have hhas (id : Symbol) : graph.has id = true ↔
      ∃ number, (ofGraph graph).numbers[id]? = some number := by
    rw [← isSome_number_iff, Option.isSome_iff_exists]
  -- A number stands for one symbol only.
  have hunique {first second : Symbol} {number : Nat}
      (hfirst : (ofGraph graph).numbers[first]? = some number)
      (hsecond : (ofGraph graph).numbers[second]? = some number) : first = second := by
    rw [hnumbered] at hfirst hsecond
    exact Option.some.inj (hfirst.symm.trans hsecond)
  rw [Links, hedges, hhas, Graph.refers_iff_mem_listing]
  simp only [List.mem_flatMap, mem_edgesOf]
  constructor
  · rintro ⟨start, stop, hstart, hstop, node, hnode, hid, other, hother, hnumber⟩
    exact ⟨⟨stop, hstop⟩, node, hnode, hunique hnumber hstop ▸ hother, hunique hid hstart⟩
  · rintro ⟨⟨stop, hstop⟩, node, hnode, htarget, rfl⟩
    obtain ⟨start, hstart⟩ := (hhas node.id).mp (Graph.has_iff.mpr ⟨node, hnode, rfl⟩)
    exact ⟨start, stop, hstart, hstop, node, hnode, hstart, target, htarget, hstop⟩

/-- A node has as many edges as it has targets in the graph. -/
theorem length_edgesOf {node : Node} (h : node ∈ graph.listing) :
    (edgesOf (ofGraph graph).numbers node).length = (node.refs.toList.filter graph.has).length := by
  obtain ⟨source, hsource⟩ := Option.isSome_iff_exists.mp
    (isSome_number_iff.mpr (Graph.has_iff.mpr ⟨node, h, rfl⟩))
  have hnumber : (fun target => (ofGraph graph).numbers[target]?.isSome) = graph.has := by
    funext target
    rw [Bool.eq_iff_iff, isSome_number_iff]
  simp only [edgesOf, hsource, List.length_map]
  rw [List.length_filterMap_eq_countP, hnumber, List.countP_eq_length_filter]
  exact ((Symbol.sortByKey_perm _).filter _).length_eq

/-- Every reference to a symbol with a node has an edge of its own. -/
theorem edgeCount_ofGraph (graph : Graph) : (ofGraph graph).edgeCount =
    (graph.references.filter fun reference => graph.has reference.2).length := by
  have hlisted : (graph.listing.map fun node => (node.refs.toList.filter graph.has).length).Perm
      (graph.allNodes.map fun node => (node.refs.toList.filter graph.has).length) :=
    (Node.sortByLabel_perm _).map _
  have hmap (node : Node) : (node.refs.toList.map (node.id, ·)).filter (fun reference =>
      graph.has reference.2) = (node.refs.toList.filter graph.has).map (node.id, ·) := by
    rw [List.filter_map]
    rfl
  rw [edgeCount, ← Array.length_toList, (ofGraph_spec graph).2.2, List.length_flatMap,
    List.map_congr_left fun node hnode => length_edgesOf hnode, hlisted.sum_nat, Graph.references,
    List.filter_flatMap, List.length_flatMap]
  simp only [hmap, List.length_map]

/-- A view tells of a graph what its nodes say. -/
structure Faithful (topology : Topology) (graph : Graph) : Prop where
  /-- The callees of a symbol are what its node refers to, as far as there are nodes. -/
  mem_callees (source target : Symbol) : target ∈ topology.callees source ↔
    ∃ node, graph.node? source = some node ∧ graph.has target = true ∧ target ∈ node.refs
  /-- Callers are callees seen from the other side. -/
  mem_callers (source target : Symbol) :
    source ∈ topology.callers target ↔ target ∈ topology.callees source
  /-- Both lists ascend by key, so that no symbol is listed twice. -/
  callees_sorted (id : Symbol) : (topology.callees id).Pairwise fun a b => a.key < b.key
  callers_sorted (id : Symbol) : (topology.callers id).Pairwise fun a b => a.key < b.key
  /-- A symbol without a node has no neighbours. -/
  absent (id : Symbol) : graph.has id = false → topology.callers id = [] ∧ topology.callees id = []
  /-- References without an edge are those to symbols without a node. -/
  count : topology.edgeCount +
    {reference : Symbol × Symbol | graph.Refers reference.1 reference.2 ∧
      graph.has reference.2 = false}.ncard = graph.referenceCount

/-- The references to symbols without a node, counted. -/
theorem ncard_dangling (graph : Graph) : {reference : Symbol × Symbol |
    graph.Refers reference.1 reference.2 ∧ graph.has reference.2 = false}.ncard =
      (graph.references.filter fun reference => !graph.has reference.2).length := by
  rw [← List.toFinset_card_of_nodup (graph.nodup_references.filter _), ← Set.ncard_coe_finset]
  congr 1
  ext ⟨source, target⟩
  simp [Graph.mem_references]

/-- The view of a graph by numbers shows the references between its nodes, all of them and no
others, in both directions. -/
theorem view_faithful (graph : Graph) : (ofGraph graph).Faithful graph where
  mem_callees source target := by
    rw [(isNumbered_ofGraph graph).mem_callees, links_ofGraph, Graph.Refers]
    simp only [← exists_and_left, and_left_comm]
  mem_callers source target := by
    rw [(isNumbered_ofGraph graph).mem_callers, (isNumbered_ofGraph graph).mem_callees]
  callees_sorted := pairwise_neighbours _ _
  callers_sorted := pairwise_neighbours _ _
  -- What has no number has no neighbours.
  absent id habsent := by
    have hnumber : (ofGraph graph).numbers[id]? = none := by
      rw [← Option.not_isSome_iff_eq_none, isSome_number_iff, habsent]
      exact Bool.false_ne_true
    simp only [callers, callees, neighbours, hnumber, and_self]
  count := by
    rw [edgeCount_ofGraph, ncard_dangling, ← graph.length_references]
    exact (List.length_eq_length_filter_add _).symm

end Topology

end CallMap
