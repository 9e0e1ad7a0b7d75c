import CallMap.Diagram.Format
import CallMap.Proofs.Drawing
import CallMap.Proofs.Neighbours
import CallMap.Text.Utf8

/-!
# Whatever order things are met in

The nodes of a graph, the references of a node and the marks are sets. Whoever goes through such a
set meets its members in some order, and two runs may meet them in different orders. Everything that
is shown of a graph is sorted before it is shown, by keys that no two members share, so the order is
lost on the way.

* `Enumeration`: one order in which the members of all these sets are met.
* `Enumeration.shown`: what is shown of a graph by someone who meets its members in that order.
* `Symbol.eq_of_pairwise_key_lt`: there is one way to list symbols by key.
* `Enumeration.shown_canonical`: all orders lead to the same, and it is what the graph itself gives.
-/

namespace CallMap

/-! ### Sorted lists -/

section Sorted

variable {α : Type} {lt : α → α → Prop} {first second : List α}

/-- Two lists with the same members are equal if both ascend in an order that does not run both
ways. -/
theorem eq_of_pairwise_of_mem_iff (hasymm : ∀ a b, lt a b → ¬lt b a) (hfirst : first.Pairwise lt)
    (hsecond : second.Pairwise lt) (hmem : ∀ a, a ∈ first ↔ a ∈ second) : first = second := by
  have hnodup {values : List α} (h : values.Pairwise lt) : values.Nodup := by
    refine h.imp ?_
    rintro a b hlt rfl
    exact hasymm a a hlt hlt
  refine List.Perm.eq_of_pairwise ?_ hfirst hsecond
    ((List.perm_ext_iff_of_nodup (hnodup hfirst) (hnodup hsecond)).mpr hmem)
  intro a b _ _ hab hba
  exact absurd hba (hasymm a b hab)

/-- Of two things that differ, only one comes first. -/
theorem LexLt.asymm {left right : α → String} (a b : α) (hab : LexLt left right a b) :
    ¬LexLt left right b a := by
  intro hba
  rcases hab with hab | ⟨heq, hab⟩ <;> rcases hba with hba | ⟨heq', hba⟩
  · exact String.lt_irrefl _ (String.lt_trans hab hba)
  · exact String.lt_irrefl _ (heq' ▸ hab)
  · exact String.lt_irrefl _ (heq ▸ hba)
  · exact String.lt_irrefl _ (String.lt_trans hab hba)

end Sorted

/-- There is one way to list symbols by key. -/
theorem Symbol.eq_of_pairwise_key_lt {first second : List Symbol}
    (hfirst : first.Pairwise fun a b => a.key < b.key)
    (hsecond : second.Pairwise fun a b => a.key < b.key)
    (hmem : ∀ id, id ∈ first ↔ id ∈ second) : first = second :=
  eq_of_pairwise_of_mem_iff
    (fun _ _ hab hba => String.lt_irrefl _ (String.lt_trans hab hba)) hfirst hsecond hmem

/-- There is one way to list symbols by name and then by key. -/
theorem Symbol.eq_of_pairwise_lexLt {first second : List Symbol}
    (hfirst : first.Pairwise (LexLt name key)) (hsecond : second.Pairwise (LexLt name key))
    (hmem : ∀ id, id ∈ first ↔ id ∈ second) : first = second :=
  eq_of_pairwise_of_mem_iff LexLt.asymm hfirst hsecond hmem

/-! ### Enumerations -/

/-- An order in which the members of the sets of a graph are met. -/
structure Enumeration (graph : Graph) where
  /-- The nodes. -/
  nodes : List Node
  /-- The references of a node. -/
  refs : Node → List Symbol
  /-- The marks. -/
  used : List Symbol
  /-- The members of a set that is gathered from a list. -/
  gather : List Symbol → List Symbol
  nodes_perm : nodes.Perm graph.allNodes
  refs_perm (node : Node) : (refs node).Perm node.refs.toList
  used_perm : used.Perm graph.used.toList
  nodup_gather (targets : List Symbol) : (gather targets).Nodup
  mem_gather {targets : List Symbol} {id : Symbol} : id ∈ gather targets ↔ id ∈ targets

/-- All that is shown of a graph: its drawing as strokes and as bytes, its listings and its
reports. -/
structure Shown where
  strokes : List Stroke
  drawing : Diagram.Format → List UInt8
  listing : List Node
  ofKind : Kind → List Node
  missing : List Symbol
  orphans : List Node
  missingMethodCalls : List Graph.MissingCall
  callers : Symbol → List Symbol
  callees : Symbol → List Symbol

/-- What is shown of a graph. -/
def Graph.shown (graph : Graph) : Shown where
  strokes := Diagram.ofGraph graph
  drawing format := Text.Utf8.encode (format.render (Diagram.ofGraph graph))
  listing := graph.listing
  ofKind := graph.ofKind
  missing := graph.missingListing
  orphans := graph.orphans
  missingMethodCalls := graph.missingMethodCalls
  callers := graph.callers
  callees := graph.callees

namespace Enumeration

variable {graph : Graph}

section Shown

variable (order : Enumeration graph)

/-- Whether a symbol has a node. -/
def has (id : Symbol) : Bool :=
  order.nodes.any fun node => node.id == id

/-- Whether a symbol counts as used. -/
def isUsed (id : Symbol) : Bool :=
  order.used.contains id

/-- The nodes as they are met, sorted by label and then by key. -/
def listing : List Node :=
  Node.sortByLabel order.nodes

/-- The references of a node as they are met, sorted by key. -/
def sortedRefs (node : Node) : List Symbol :=
  Symbol.sortByKey (order.refs node)

/-- The members of a set that is gathered from the targets without a node, sorted by name and then
by key. -/
def missingAmong (targets : List Symbol) : List Symbol :=
  Symbol.sortByName (order.gather (targets.filter fun id => !order.has id))

/-- The references between nodes, node by node. -/
def edges : List (Symbol × Symbol) :=
  order.listing.flatMap fun node => ((order.sortedRefs node).filter order.has).map (node.id, ·)

/-- The ends of some edges at a symbol, sorted by key; a symbol without a node has none. -/
def neighbours (id : Symbol) (ends : List Symbol) : List Symbol :=
  if order.has id then Symbol.sortByKey (order.gather ends) else []

def callers (id : Symbol) : List Symbol :=
  order.neighbours id ((order.edges.filter fun edge => edge.2 == id).map Prod.fst)

def callees (id : Symbol) : List Symbol :=
  order.neighbours id ((order.edges.filter fun edge => edge.1 == id).map Prod.snd)

def isOrphan (node : Node) : Bool :=
  node.id.kind.isEntry && !order.isUsed node.id && (order.callers node.id).all (· == node.id)

def missingMethodCalls : List Graph.MissingCall :=
  order.listing.flatMap fun caller =>
    ((order.sortedRefs caller).filter fun id => id.kind == .method && !order.has id).map
      (⟨caller, ·⟩)

/-- The stroke for a node. -/
def nodeStroke (node : Node) : Stroke :=
  .node node.id node.label
    (node.id.kind.tag :: if order.isUsed node.id then [Diagram.usedTag] else [])

/-- The strokes of the drawing. Missing targets are gathered while the references are drawn. -/
def strokes : List Stroke :=
  .start :: order.listing.map order.nodeStroke
    ++ order.listing.flatMap (fun node => (order.sortedRefs node).map (.reference node.id))
    ++ (order.missingAmong (order.listing.flatMap order.sortedRefs)).map Diagram.missingStroke
    ++ [.finish]

/-- What is shown of a graph whose members are met in this order. -/
def shown : Shown where
  strokes := order.strokes
  drawing format := Text.Utf8.encode (format.render order.strokes)
  listing := order.listing
  ofKind kind := order.listing.filter fun node => node.id.kind == kind
  missing := order.missingAmong (order.nodes.flatMap order.refs)
  orphans := order.listing.filter order.isOrphan
  missingMethodCalls := order.missingMethodCalls
  callers := order.callers
  callees := order.callees

end Shown

/-! ### What is met -/

section Met

variable {order : Enumeration graph}

/-- An enumeration has the nodes of the graph. -/
theorem mem_nodes {node : Node} : node ∈ order.nodes ↔ node ∈ graph.listing := by
  rw [order.nodes_perm.mem_iff, Graph.listing, (Node.sortByLabel_perm _).mem_iff]

/-- An enumeration has the references of each node. -/
theorem mem_refs {node : Node} {target : Symbol} :
    target ∈ order.refs node ↔ target ∈ node.refs := by
  rw [(order.refs_perm node).mem_iff, Std.ExtTreeSet.mem_toList]

@[simp]
theorem has_eq (order : Enumeration graph) : order.has = graph.has := by
  funext id
  rw [Bool.eq_iff_iff, has, List.any_eq_true, Graph.has_iff]
  simp only [mem_nodes, beq_iff_eq]

@[simp]
theorem isUsed_eq (order : Enumeration graph) : order.isUsed = graph.isUsed := by
  funext id
  rw [Bool.eq_iff_iff, isUsed, List.contains_iff_mem, order.used_perm.mem_iff,
    Std.ExtTreeSet.mem_toList, Graph.isUsed, Std.ExtTreeSet.contains_iff_mem]

/-- Sorting brings the nodes into the one order of the listing. -/
@[simp]
theorem listing_eq (order : Enumeration graph) : order.listing = graph.listing := by
  -- Nodes are told apart by their keys, so labels may be shared.
  have hids : (order.nodes.map Node.id).Nodup :=
    (order.nodes_perm.map Node.id).nodup_iff.mpr graph.nodup_map_id_allNodes
  refine eq_of_pairwise_of_mem_iff LexLt.asymm (Node.pairwise_sortByLabel hids)
    graph.pairwise_listing fun node => ?_
  rw [listing, (Node.sortByLabel_perm _).mem_iff, mem_nodes]

/-- Sorting brings the references of a node into one order. -/
@[simp]
theorem sortedRefs_eq (order : Enumeration graph) : order.sortedRefs = Node.sortedRefs := by
  funext node
  have hrefs : (order.refs node).Nodup :=
    (order.refs_perm node).nodup_iff.mpr (nodup_toList node.refs)
  refine Symbol.eq_of_pairwise_key_lt (Symbol.pairwise_sortByKey hrefs) node.pairwise_sortedRefs
    fun target => ?_
  rw [sortedRefs, (Symbol.sortByKey_perm _).mem_iff, mem_refs, Node.mem_sortedRefs]

/-- Missing targets are gathered from all references, wherever they are met. -/
theorem missingAmong_eq {targets : List Symbol}
    (h : ∀ target, target ∈ targets ↔ ∃ node ∈ graph.listing, target ∈ node.refs) :
    order.missingAmong targets = graph.missingListing := by
  refine Symbol.eq_of_pairwise_lexLt (Symbol.pairwise_sortByName (order.nodup_gather _))
    graph.pairwise_missingListing fun target => ?_
  rw [missingAmong, (Symbol.sortByName_perm _).mem_iff, order.mem_gather, List.mem_filter, h,
    Graph.mem_missingListing, has_eq, Bool.not_eq_true', and_comm]

/-- The edges are the references to nodes that the graph has. -/
theorem mem_edges {source target : Symbol} : (source, target) ∈ order.edges ↔
    graph.has target = true ∧ graph.Refers source target := by
  rw [Graph.refers_iff_mem_listing]
  simp only [edges, listing_eq, sortedRefs_eq, has_eq, List.mem_flatMap, List.mem_map,
    List.mem_filter, Node.mem_sortedRefs, Prod.mk.injEq]
  constructor
  · rintro ⟨node, hnode, _, ⟨htarget, hhas⟩, rfl, rfl⟩
    exact ⟨hhas, node, hnode, htarget, rfl⟩
  · rintro ⟨hhas, node, hnode, htarget, rfl⟩
    exact ⟨node, hnode, target, ⟨htarget, hhas⟩, rfl, rfl⟩

/-- The ends of edges are listed by key, each once, in whatever order the edges are met. -/
theorem neighbours_eq {id : Symbol} {ends listed : List Symbol}
    (hsorted : listed.Pairwise fun a b => a.key < b.key)
    (hmem : ∀ other, other ∈ listed ↔ graph.has id = true ∧ other ∈ ends) :
    order.neighbours id ends = listed := by
  unfold neighbours
  rw [has_eq]
  split
  next hhas =>
    refine Symbol.eq_of_pairwise_key_lt (Symbol.pairwise_sortByKey (order.nodup_gather ends))
      hsorted fun other => ?_
    rw [(Symbol.sortByKey_perm _).mem_iff, order.mem_gather, hmem]
    simp [hhas]
  next hhas =>
    -- A symbol without a node has no neighbours in the graph either.
    refine (List.eq_nil_iff_forall_not_mem.mpr fun other hother => ?_).symm
    exact hhas ((hmem other).mp hother).1

/-- Who calls a node does not depend on the enumeration. -/
@[simp]
theorem callers_eq (order : Enumeration graph) : order.callers = graph.callers := by
  funext id
  refine neighbours_eq (graph.pairwise_callers id) fun source => ?_
  simp only [Graph.mem_callers, List.mem_map, List.mem_filter, beq_iff_eq]
  constructor
  · rintro ⟨hhas, hrefers⟩
    exact ⟨hhas, (source, id), ⟨mem_edges.mpr ⟨hhas, hrefers⟩, rfl⟩, rfl⟩
  · rintro ⟨hhas, ⟨_, _⟩, ⟨hedge, rfl⟩, rfl⟩
    exact ⟨hhas, (mem_edges.mp hedge).2⟩

/-- Whom a node calls does not depend on the enumeration. -/
@[simp]
theorem callees_eq (order : Enumeration graph) : order.callees = graph.callees := by
  funext id
  refine neighbours_eq (graph.pairwise_callees id) fun target => ?_
  simp only [Graph.mem_callees, List.mem_map, List.mem_filter, beq_iff_eq]
  constructor
  · rintro ⟨hhas, hrefers⟩
    exact ⟨Graph.has_of_refers hrefers, (id, target), ⟨mem_edges.mpr ⟨hhas, hrefers⟩, rfl⟩, rfl⟩
  · rintro ⟨-, ⟨_, _⟩, ⟨hedge, rfl⟩, rfl⟩
    exact mem_edges.mp hedge

/-- Which nodes are orphans does not depend on the enumeration. -/
theorem isOrphan_eq (order : Enumeration graph) :
    order.isOrphan = graph.isOrphan (.ofGraph graph) := by
  funext node
  rw [isOrphan, isUsed_eq, callers_eq, Graph.isOrphan, Graph.callers]

/-- The calls of missing methods are listed in one order. -/
theorem missingMethodCalls_eq (order : Enumeration graph) :
    order.missingMethodCalls = graph.missingMethodCalls := by
  simp only [missingMethodCalls, listing_eq, sortedRefs_eq, has_eq, Graph.missingMethodCalls]

/-- The drawing is the same for every enumeration. -/
theorem strokes_eq (order : Enumeration graph) : order.strokes = Diagram.ofGraph graph := by
  have hnodes : order.nodeStroke = Diagram.nodeStroke graph := by
    funext node
    rw [nodeStroke, isUsed_eq, Diagram.nodeStroke]
  have hmissing : order.missingAmong (order.listing.flatMap order.sortedRefs) =
      graph.missingListing := by
    refine missingAmong_eq fun target => ?_
    simp
  rw [strokes, hnodes, hmissing, listing_eq, sortedRefs_eq, Diagram.ofGraph_eq]
  rfl

/-- What is shown does not depend on the order. -/
theorem shown_eq (order : Enumeration graph) : order.shown = graph.shown := by
  have hmissing : order.missingAmong (order.nodes.flatMap order.refs) = graph.missingListing := by
    refine missingAmong_eq fun target => ?_
    simp [mem_nodes, mem_refs]
  simp only [shown, strokes_eq, hmissing, listing_eq, isOrphan_eq, missingMethodCalls_eq,
    callers_eq, callees_eq]
  rfl

end Met

/-- The order in which the sets of a graph are stored. -/
def stored (graph : Graph) : Enumeration graph where
  nodes := graph.allNodes
  refs node := node.refs.toList
  used := graph.used.toList
  gather targets := (Std.ExtTreeSet.ofList targets : SymbolSet).toList
  nodes_perm := .refl _
  refs_perm _ := .refl _
  used_perm := .refl _
  nodup_gather _ := nodup_toList _
  mem_gather := by simp

/-- Everything is met the other way round. -/
def reverse (order : Enumeration graph) : Enumeration graph where
  nodes := order.nodes.reverse
  refs node := (order.refs node).reverse
  used := order.used.reverse
  gather targets := (order.gather targets).reverse
  nodes_perm := (List.reverse_perm _).trans order.nodes_perm
  refs_perm node := (List.reverse_perm _).trans (order.refs_perm node)
  used_perm := (List.reverse_perm _).trans order.used_perm
  nodup_gather targets := List.nodup_reverse.mpr (order.nodup_gather targets)
  mem_gather := by simp [order.mem_gather]

/-- Whatever the order in which nodes, references, marks and missing targets are met, the same is
shown of a graph, and that is what the graph itself gives. No two symbols share a key, so no ties
are left to the order. -/
theorem shown_canonical (graph : Graph) :
    (∀ first second : Enumeration graph, first.shown = second.shown ∧ first.shown = graph.shown) ∧
      ∀ a b : Symbol, a.key = b.key → a = b :=
  ⟨fun first second => ⟨(shown_eq first).trans (shown_eq second).symm, shown_eq first⟩,
    fun _ _ => Symbol.key_injective⟩

/-- Two nodes with one label. -/
def sampleTwins : Graph :=
  [{ id := ⟨"x", .procedure⟩, label := "X" }, { id := ⟨"x", .library⟩, label := "X" }].foldl
    Graph.insert {}

/-- Two nodes with one label, enumerated in two ways, are shown in one way. -/
theorem shown_canonical_sampleTwins :
    (stored sampleTwins).reverse.nodes.map Node.id ≠ (stored sampleTwins).nodes.map Node.id ∧
      (stored sampleTwins).reverse.shown = (stored sampleTwins).shown := by
  refine ⟨by decide +kernel, ?_⟩
  exact ((shown_canonical sampleTwins).1 (stored sampleTwins).reverse (stored sampleTwins)).1

end Enumeration

end CallMap
