import CallMap.Graph

/-!
# Nodes by number

A view of a graph in which references can be followed in both directions. The nodes are numbered in
the order of the listing, and a reference between two of them is an edge from one number to another.
A reference to a symbol without a node has no edge.
-/

namespace CallMap

/-- Symbols without those that repeat the one before them. -/
def Symbol.dropRepeats : List Symbol → List Symbol
  | first :: second :: rest =>
    if first = second then dropRepeats (second :: rest) else first :: dropRepeats (second :: rest)
  | symbols => symbols

/-- Numbered nodes and the edges between them. -/
structure Topology where
  /-- The symbols of the nodes; the number of a node is its place. -/
  ids : Array Symbol := #[]
  /-- The number of each symbol. -/
  numbers : Std.ExtTreeMap Symbol Nat := ∅
  /-- The edges, each from the number that refers to the number that is referred to. -/
  edges : Array (Nat × Nat) := #[]

namespace Topology

/-- Gives the next number to a symbol. -/
def addNode (topology : Topology) (id : Symbol) : Topology :=
  { topology with
    ids := topology.ids.push id
    numbers := topology.numbers.insert id topology.ids.size }

/-- Adds an edge from a number to a symbol, if the symbol has a number as well. -/
def addEdge (source : Nat) (topology : Topology) (target : Symbol) : Topology :=
  match topology.numbers[target]? with
  | some number => { topology with edges := topology.edges.push (source, number) }
  | none => topology

/-- Adds the edges for the references of a node, by key. -/
def addEdges (topology : Topology) (node : Node) : Topology :=
  match topology.numbers[node.id]? with
  | some source => node.sortedRefs.foldl (addEdge source) topology
  | none => topology

/-- The view of a graph. All nodes have their numbers before the first edge is added. -/
def ofGraph (graph : Graph) : Topology :=
  graph.listing.foldl addEdges ((graph.listing.map Node.id).foldl addNode {})

/-- Which of its ends an edge is looked up by. -/
inductive Direction
  /-- By the node that is referred to. -/
  | incoming
  /-- By the node that refers. -/
  | outgoing
  deriving DecidableEq, Repr

/-- The numbers at the other ends of the edges of a number. -/
def opposite (topology : Topology) (number : Nat) : Direction → List Nat
  | .incoming => (topology.edges.toList.filter fun edge => edge.2 == number).map Prod.fst
  | .outgoing => (topology.edges.toList.filter fun edge => edge.1 == number).map Prod.snd

/-- The symbols at the other ends of the edges of a symbol, by key; a symbol without a node has
none. -/
def neighbours (topology : Topology) (direction : Direction) (id : Symbol) : List Symbol :=
  match topology.numbers[id]? with
  | some number =>
    let ids := (topology.opposite number direction).filterMap fun other => topology.ids[other]?
    Symbol.dropRepeats (Symbol.sortByKey ids)
  | none => []

/-- The symbols whose nodes refer to a symbol, by key. -/
def callers (topology : Topology) (id : Symbol) : List Symbol :=
  topology.neighbours .incoming id

/-- The symbols that the node of a symbol refers to, by key. -/
def callees (topology : Topology) (id : Symbol) : List Symbol :=
  topology.neighbours .outgoing id

/-- The number of edges. -/
def edgeCount (topology : Topology) : Nat :=
  topology.edges.size

end Topology

end CallMap
