import CallMap.Graph.Topology

/-!
# Reports on a graph

Who refers to whom among the nodes that exist, which units nothing reaches, and which methods are
called but missing.
-/

namespace CallMap.Graph

/-- The symbols with a node that the node of a symbol refers to, by key. -/
def callees (graph : Graph) (id : Symbol) : List Symbol :=
  (Topology.ofGraph graph).callees id

/-- The symbols whose nodes refer to a symbol that has a node, by key. -/
def callers (graph : Graph) (id : Symbol) : List Symbol :=
  (Topology.ofGraph graph).callers id

/-- The number of references between nodes that exist. -/
def edgeCount (graph : Graph) : Nat :=
  (Topology.ofGraph graph).edgeCount

/-- Whether a node can start a chain of calls, is not used, and is referred to by no node but
itself, going by a view of the graph. -/
def isOrphan (graph : Graph) (topology : Topology) (node : Node) : Bool :=
  node.id.kind.isEntry && !graph.isUsed node.id && (topology.callers node.id).all (· == node.id)

/-- The units that nothing reaches, by label and then by key. -/
def orphans (graph : Graph) : List Node :=
  graph.listing.filter (graph.isOrphan (.ofGraph graph))

/-- How an orphan is reported. -/
def orphanLine (node : Node) : String :=
  node.label ++ " (" ++ node.id.kind.tag ++ ")"

/-- A call of a method that has no node. -/
structure MissingCall where
  /-- The node that calls. -/
  caller : Node
  /-- The method that is missing. -/
  target : Symbol

/-- How a call of a missing method is reported. -/
def MissingCall.line (call : MissingCall) : String :=
  call.caller.label ++ " calls missing method " ++ call.target.name

/-- The calls of missing methods, by caller and then by method. -/
def missingMethodCalls (graph : Graph) : List MissingCall :=
  graph.listing.flatMap fun caller =>
    (caller.sortedRefs.filter fun id => id.kind == .method && !graph.has id).map (⟨caller, ·⟩)

end CallMap.Graph
