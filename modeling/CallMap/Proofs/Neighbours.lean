import CallMap.Graph.Reports
import CallMap.Proofs.Topology

/-!
# Callers and callees

Who refers to whom among the nodes that exist, in terms of `Graph.Refers`. Both lists ascend by key,
so they hold no symbol twice.

* `Graph.mem_callers`, `Graph.mem_callees`: what is listed.
* `Graph.pairwise_callers`, `Graph.pairwise_callees`: in which order.
-/

namespace CallMap.Graph

variable {graph : Graph} {id source target : Symbol}

/-- Only nodes of the graph refer to anything. -/
theorem has_of_refers (h : graph.Refers source target) : graph.has source = true := by
  obtain ⟨node, hnode, -, hid⟩ := refers_iff_mem_listing.mp h
  exact has_iff.mpr ⟨node, hnode, hid⟩

/-- The callers of a symbol that has a node are all that refer to it. -/
theorem mem_callers :
    source ∈ graph.callers id ↔ graph.has id = true ∧ graph.Refers source id := by
  rw [callers, (Topology.isNumbered_ofGraph graph).mem_callers, Topology.links_ofGraph]

/-- Callers are sorted by key, each once. -/
theorem pairwise_callers (graph : Graph) (id : Symbol) :
    (graph.callers id).Pairwise fun a b => a.key < b.key :=
  Topology.pairwise_neighbours _ _ id

/-- The callees of a symbol are the targets of its node that have nodes themselves. -/
theorem mem_callees :
    target ∈ graph.callees id ↔ graph.has target = true ∧ graph.Refers id target := by
  rw [callees, (Topology.isNumbered_ofGraph graph).mem_callees, Topology.links_ofGraph]

/-- Callees are sorted by key, each once. -/
theorem pairwise_callees (graph : Graph) (id : Symbol) :
    (graph.callees id).Pairwise fun a b => a.key < b.key :=
  Topology.pairwise_neighbours _ _ id

end CallMap.Graph
