import Std.Data.ExtTreeMap
import CallMap.Contribution

/-!
# The graph of calls and references

A graph holds nodes by their symbol and, apart from them, the symbols that count as used. A symbol
may be used without there being a node for it.

Two graphs with the same nodes and the same used symbols are equal: neither depends on the order in
which things were entered.
-/

namespace CallMap

/-- Every node of a table stands under its own symbol. -/
def Keyed (nodes : Std.ExtTreeMap Symbol Node) : Prop :=
  ∀ (id : Symbol) (node : Node), nodes[id]? = some node → node.id = id

namespace Keyed

variable {nodes : Std.ExtTreeMap Symbol Node}

theorem empty : Keyed ∅ := by
  intro id node h
  simp at h

theorem insert (keyed : Keyed nodes) (node : Node) : Keyed (nodes.insert node.id node) := by
  intro id found h
  rw [Std.ExtTreeMap.getElem?_insert] at h
  split at h
  · next same => rw [← Option.some.inj h, Std.LawfulEqOrd.eq_of_compare same]
  · exact keyed id found h

theorem insertIfNew (keyed : Keyed nodes) (node : Node) :
    Keyed (nodes.insertIfNew node.id node) := by
  intro id found h
  rw [Std.ExtTreeMap.getElem?_insertIfNew] at h
  split at h
  · next new => rw [← Option.some.inj h, Std.LawfulEqOrd.eq_of_compare new.1]
  · exact keyed id found h

theorem modify (keyed : Keyed nodes) (id : Symbol) {change : Node → Node}
    (sameId : ∀ node, (change node).id = node.id) : Keyed (nodes.modify id change) := by
  intro other found h
  rw [Std.ExtTreeMap.getElem?_modify] at h
  split at h
  · next same =>
    obtain ⟨node, stored, rfl⟩ := Option.map_eq_some_iff.mp h
    rw [sameId, keyed id node stored, Std.LawfulEqOrd.eq_of_compare same]
  · exact keyed other found h

theorem map (keyed : Keyed nodes) {change : Symbol → Node → Node}
    (sameId : ∀ id node, (change id node).id = node.id) : Keyed (nodes.map change) := by
  intro id found h
  rw [Std.ExtTreeMap.getElem?_map] at h
  obtain ⟨node, stored, rfl⟩ := Option.map_eq_some_iff.mp h
  rw [sameId, keyed id node stored]

end Keyed

/-- Nodes with their references, and what counts as used. -/
structure Graph where
  /-- The nodes by their symbol. -/
  nodes : Std.ExtTreeMap Symbol Node := ∅
  /-- The symbols that count as used. -/
  used : SymbolSet := ∅
  /-- No node stands under a symbol that is not its own. -/
  keyed : Keyed nodes := by exact Keyed.empty

namespace Graph

/-- The node of a symbol. -/
def node? (graph : Graph) (id : Symbol) : Option Node :=
  graph.nodes[id]?

/-- Whether a symbol has a node. -/
def has (graph : Graph) (id : Symbol) : Bool :=
  graph.nodes.contains id

/-- Whether a symbol counts as used. -/
def isUsed (graph : Graph) (id : Symbol) : Bool :=
  graph.used.contains id

/-! ### Building a graph -/

/-- Counts a symbol as used. -/
def markUsed (graph : Graph) (id : Symbol) : Graph :=
  { graph with used := graph.used.insert id }

/-- Enters a node unless its symbol has one. -/
def insertIfNew (graph : Graph) (node : Node) : Graph :=
  { graph with
    nodes := graph.nodes.insertIfNew node.id node
    keyed := graph.keyed.insertIfNew node }

/-- Makes sure that a schema object exists, and counts it as used. -/
def touch (graph : Graph) (id : Symbol) : Graph :=
  (graph.insertIfNew (.placeholder id)).markUsed id

/-- The schema objects that a node refers to. -/
def schemaRefs (node : Node) : List Symbol :=
  node.refs.toList.filter fun id => id.kind.isSchema

/-- Enters a node in place of any other with its symbol. The schema objects it refers to come into
existence and count as used. -/
def insert (graph : Graph) (node : Node) : Graph :=
  (schemaRefs node).foldl touch
    { graph with nodes := graph.nodes.insert node.id node, keyed := graph.keyed.insert node }

/-- Enters what a file contributes. -/
def apply (graph : Graph) (contribution : Contribution) : Graph :=
  contribution.used.foldl markUsed (contribution.nodes.foldl insert graph)

/-- Adds a reference to the node of a symbol, if there is one. -/
def refer (graph : Graph) (source target : Symbol) : Graph :=
  { graph with
    nodes := graph.nodes.modify source (·.refer target)
    keyed := graph.keyed.modify source fun _ => rfl }

/-! ### Listings -/

/-- All nodes, each once. -/
def allNodes (graph : Graph) : List Node :=
  graph.nodes.toList.map Prod.snd

/-- All nodes, by label and then by key. -/
def listing (graph : Graph) : List Node :=
  Node.sortByLabel graph.allNodes

/-- The nodes of one kind, by label and then by key. -/
def ofKind (graph : Graph) (kind : Kind) : List Node :=
  graph.listing.filter fun node => node.id.kind == kind

/-- The symbols that some node refers to and that have no node. -/
def missing (graph : Graph) : SymbolSet :=
  graph.nodes.foldl (fun found _ node => found ∪ node.refs.filter fun id => !graph.has id) ∅

/-- The symbols without a node that something refers to, by name and then by key. -/
def missingListing (graph : Graph) : List Symbol :=
  Symbol.sortByName graph.missing.toList

/-! ### Counts -/

/-- The number of nodes. -/
def nodeCount (graph : Graph) : Nat :=
  graph.nodes.size

/-- The number of references. -/
def referenceCount (graph : Graph) : Nat :=
  graph.nodes.foldl (fun count _ node => count + node.refs.size) 0

/-- The number of used symbols. -/
def usedCount (graph : Graph) : Nat :=
  graph.used.size

end Graph

end CallMap
